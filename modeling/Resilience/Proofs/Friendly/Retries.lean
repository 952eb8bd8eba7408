import Resilience.Proofs.Friendly.Exposure
import Resilience.Proofs.Friendly.Plain

/-!
# What is told of retries

One template of the built-in catalog speaks of retries made in vain, the one for what took too long,
and it does so if as many were made as there could be (`Translator.claimsRetries_translate_iff`).
-/

namespace Resilience

/-! ## The wording -/

/-- That so many retries were made in vain. -/
def retriesText (m : Nat) : String := "Retried " ++ toString m ++ " times without success"

/-- Whether a user is told so. -/
def Friendly.ClaimsRetries (told : Friendly) (m : Nat) : Prop :=
  ∃ text ∈ told.suggestion, (retriesText m).toList <:+: text.toList

theorem toList_retriesText (m : Nat) : (retriesText m).toList =
    "Retried ".toList ++ Nat.toDigits 10 m ++ " times without success".toList := by
  simp [retriesText, Nat.repr_eq_ofList_toDigits]

theorem toDigits_injective {m n : Nat} (h : Nat.toDigits 10 m = Nat.toDigits 10 n) : m = n := by
  rw [← Nat.ofDigitChars_ten_toDigits (n := m), h, Nat.ofDigitChars_ten_toDigits]

/-- A number is known by its digits up to the next blank. -/
theorem number_of_prefix {m n : Nat} {a b : List Char}
    (h : Nat.toDigits 10 m ++ ' ' :: a <+: Nat.toDigits 10 n ++ ' ' :: b) : m = n := by
  have hdigits (k : Nat) (rest : List Char) :
      (Nat.toDigits 10 k ++ ' ' :: rest).takeWhile (·.isDigit) = Nat.toDigits 10 k := by
    rw [List.takeWhile_append_of_pos fun c hc =>
      Nat.isDigit_of_mem_toDigits (by decide) (by decide) hc]
    simp
  obtain ⟨rest, h⟩ := h
  apply toDigits_injective
  rw [← hdigits m (a ++ rest), ← hdigits n b, ← h, List.append_assoc, List.cons_append]

/-- What is said of retries names their number, and it is said at the beginning only. -/
theorem retriesText_infix_iff {m n : Nat} {rest : String} (hrest : 'R' ∉ rest.toList) :
    (retriesText m).toList <:+: (retriesText n ++ rest).toList ↔ m = n := by
  constructor
  · intro h
    have hR : 'R' ∉ "etried ".toList ++ (Nat.toDigits 10 n ++ (" times without success".toList ++
        rest.toList)) := by
      have hdigit : 'R' ∉ Nat.toDigits 10 n := fun hmem =>
        absurd (Nat.isDigit_of_mem_toDigits (by decide) (by decide) hmem) (by decide)
      simp [hdigit, hrest]
    rw [String.toList_append, toList_retriesText, toList_retriesText, List.append_assoc,
      List.append_assoc, List.append_assoc] at h
    rcases List.infix_cons_iff.1 h with hbegin | hwithin
    · exact number_of_prefix ((List.prefix_append_right_inj _).1 hbegin)
    · exact absurd (hwithin.subset List.mem_cons_self) hR
  · rintro rfl
    rw [String.toList_append]
    exact (List.prefix_append _ _).isInfix

/-! ## Templates -/

namespace Translator

/-- What is advised about a call that took too long. -/
def timeoutAdvice (most : Option UInt32) (count : UInt32) : String :=
  match most with
  | some most =>
    if 0 < most ∧ most ≤ count then retriesText most.toNat ++ ". Check your connection."
    else "Check your internet connection and try again."
  | none => "Check your internet connection and try again."

theorem plain_retriesText (n : Nat) :
    (retriesText n ++ ". Check your connection.").toList.all (!Scrub.isTrigger ·) := by
  have hdigits : (Nat.toDigits 10 n).all (!Scrub.isTrigger ·) := by
    rw [List.all_eq_true]
    intro c hc
    have hdigit := Nat.isDigit_of_mem_toDigits (by decide) (by decide) hc
    by_contra htrigger
    simp only [Scrub.isTrigger, Scrub.isSeparator, Bool.not_eq_true', Bool.not_eq_false,
      Bool.or_eq_true, decide_eq_true_eq] at htrigger
    rcases htrigger with ((rfl | rfl) | rfl) | rfl <;> exact absurd hdigit (by decide)
  rw [String.toList_append, toList_retriesText, List.all_append, List.all_append, List.all_append,
    hdigits]
  decide

/-- A number of 32 bits has ten digits at most. -/
theorem length_retriesText (m : UInt32) :
    (retriesText m.toNat ++ ". Check your connection.").length ≤ 64 := by
  have hdigits : (Nat.toDigits 10 m.toNat).length ≤ 10 :=
    (Nat.length_toDigits_le_iff (by decide) (by decide)).2
      (Nat.lt_trans m.toNat_lt (by decide))
  rw [← String.length_toList, String.toList_append, toList_retriesText]
  simp
  omega

theorem message_timeoutAdvice (most : Option UInt32) (count : UInt32) :
    Scrub.message Scrub.defaultLimit (timeoutAdvice most count) = timeoutAdvice most count := by
  have hgeneral : Scrub.message Scrub.defaultLimit "Check your internet connection and try again." =
      "Check your internet connection and try again." :=
    Scrub.message_eq_self (by decide) (by decide)
  cases most with
  | none => exact hgeneral
  | some most =>
    rw [timeoutAdvice]
    split
    · apply Scrub.message_eq_self (plain_retriesText _)
      exact Nat.le_trans (length_retriesText most) (by decide)
    · exact hgeneral

theorem suggestion_timeout {f : Failure} {s : Situation}
    (h : ({} : Translator).classify f = "ETIMEDOUT") :
    (({} : Translator).translate f s).suggestion =
      some (timeoutAdvice s.maxRetries (s.retryCount.getD f.retryCount)) := by
  have htemplate : ∃ t, Catalog.builtin.get? "ETIMEDOUT" = some t ∧ ∀ c, render t c =
      ("The operation took too long to respond.",
        some (timeoutAdvice c.maxRetries c.retryCount)) := by
    refine ⟨_, rfl, fun c => ?_⟩
    cases hmost : c.maxRetries with
    | none => simp [render, Template.Text.render, Template.Text.total, hmost, timeoutAdvice]
    | some most =>
      simp [render, Template.Text.render, Template.Text.total, hmost, timeoutAdvice, retriesText,
        String.append_assoc]
  obtain ⟨t, ht, hrender⟩ := htemplate
  rw [← message_timeoutAdvice]
  simp only [translate, h, ht, Option.getD_some, hrender, Option.map_some]
  rfl

/-- A fixed text that is told as it is and does not speak of retries. -/
def Silent : Option Template.Text → Prop
  | some (.literal text) => text.toList.all (!Scrub.isTrigger ·) ∧
      text.length ≤ Scrub.defaultLimit ∧ ¬ "Retried".toList <:+: text.toList
  | _ => False

instance : DecidablePred Silent
  | some (.literal _) => inferInstanceAs (Decidable (_ ∧ _ ∧ _))
  | some (.computed _) => .isFalse id
  | none => .isFalse id

/-- All other templates of the catalog are silent about retries. -/
theorem silent_suggestion {key : String} {t : Template}
    (h : t = Catalog.unknownTemplate ∨ (key, t) ∈ Catalog.builtinTemplates) (hkey : key ≠ "ETIMEDOUT") :
    Silent t.suggestion := by
  rcases h with rfl | hmem
  · decide
  · have hall : ∀ e ∈ Catalog.builtinTemplates, e.1 = "ETIMEDOUT" ∨ Silent e.2.suggestion := by
      decide +kernel
    exact (hall _ hmem).resolve_left hkey

theorem infix_retriesText (m : Nat) : "Retried".toList <:+: (retriesText m).toList := by
  rw [toList_retriesText]
  exact ⟨[], ' ' :: (Nat.toDigits 10 m ++ " times without success".toList), by simp⟩

theorem not_claimsRetries_of_silent {t : Template} (h : Silent t.suggestion) (c : Template.Context)
    {text : String} (htext : text ∈ (render t c).2.map (Scrub.message Scrub.defaultLimit)) (m : Nat) :
    ¬ (retriesText m).toList <:+: text.toList := by
  match hsuggestion : t.suggestion, h with
  | some (.literal fixed), ⟨hplain, hlength, hsilent⟩ =>
    obtain ⟨told, htold, rfl⟩ := Option.map_eq_some_iff.1 htext
    have heq : told = fixed := by
      have hfixed : (Template.Text.literal fixed).render c = some fixed := rfl
      rw [render, hsuggestion, Option.map_some, hfixed] at htold
      cases hmessage : t.message.render c with
      | none => simp [hmessage] at htold
      | some message =>
        rw [hmessage] at htold
        cases htold
        rfl
    rw [heq, Scrub.message_eq_self hplain hlength]
    exact fun hwithin => hsilent ((infix_retriesText m).trans hwithin)

/-- The template that is used is one of the catalog, for the key found or for what has no other. -/
theorem exists_template (f : Failure) (s : Situation) : ∃ key t,
    (t = Catalog.unknownTemplate ∨ (key, t) ∈ Catalog.builtinTemplates) ∧
      (key = ({} : Translator).classify f ∨ key = Catalog.unknownKey) ∧
      (({} : Translator).translate f s).message =
        Scrub.message Scrub.defaultLimit (render t (context f s)).1 ∧
      (({} : Translator).translate f s).suggestion =
        (render t (context f s)).2.map (Scrub.message Scrub.defaultLimit) := by
  cases hget : Catalog.builtin.get? (({} : Translator).classify f) with
  | some t =>
    refine ⟨_, t, Catalog.entry_of_get?_builtin hget, .inl rfl, ?_⟩
    simp only [translate, hget, Option.getD_some, and_self]
  | none =>
    refine ⟨Catalog.unknownKey, Catalog.builtin.unknown, ?_, .inr rfl, ?_⟩
    · rw [Catalog.unknown]
      cases hunknown : Catalog.builtin.get? Catalog.unknownKey with
      | none => exact .inl rfl
      | some t => exact Catalog.entry_of_get?_builtin hunknown
    · simp only [translate, hget, Option.getD_none, and_self]

theorem claimsRetries_timeout {told : Friendly} {most : Option UInt32} {count : UInt32} {m : Nat}
    (h : told.suggestion = some (timeoutAdvice most count)) : told.ClaimsRetries m ↔
      1 ≤ m ∧ ∃ limit, most = some limit ∧ limit.toNat = m ∧ limit ≤ count := by
  have hgeneral : ¬ (retriesText m).toList <:+:
      "Check your internet connection and try again.".toList := fun hwithin =>
    absurd ((infix_retriesText m).trans hwithin).subset (by decide)
  have htold : told.ClaimsRetries m ↔
      (retriesText m).toList <:+: (timeoutAdvice most count).toList := by
    simp [Friendly.ClaimsRetries, h]
  rw [htold]
  cases most with
  | none => exact iff_of_false hgeneral fun ⟨_, _, hsome, _⟩ => nomatch hsome
  | some limit =>
    rw [timeoutAdvice]
    split
    · next hcount =>
      have hpos : 1 ≤ limit.toNat := UInt32.lt_iff_toNat_lt.1 hcount.1
      rw [retriesText_infix_iff (by decide)]
      constructor
      · rintro rfl
        exact ⟨hpos, limit, rfl, rfl, hcount.2⟩
      · rintro ⟨_, _, hsome, hlimit, _⟩
        cases hsome
        exact hlimit.symm
    · next hcount =>
      refine iff_of_false hgeneral ?_
      rintro ⟨hm, _, hsome, hlimit, hle⟩
      cases hsome
      exact hcount ⟨UInt32.lt_iff_toNat_lt.2 (hlimit ▸ hm), hle⟩

/-- A user is told of retries made in vain if the operation took too long, some retries were
possible, and as many were made; the number told is that of the possible ones. -/
theorem claimsRetries_translate_iff {f : Failure} {s : Situation} {m : Nat} :
    (({} : Translator).translate f s).ClaimsRetries m ↔
      ({} : Translator).classify f = "ETIMEDOUT" ∧ 1 ≤ m ∧
        ∃ most, s.maxRetries = some most ∧ most.toNat = m ∧
          most ≤ s.retryCount.getD f.retryCount := by
  by_cases h : ({} : Translator).classify f = "ETIMEDOUT"
  · rw [claimsRetries_timeout (suggestion_timeout h)]
    exact (and_iff_right h).symm
  · obtain ⟨key, t, ht, hkey, _, hsuggestion⟩ := exists_template f s
    have hother : key ≠ "ETIMEDOUT" := by
      rcases hkey with rfl | rfl
      · exact h
      · decide
    refine iff_of_false ?_ fun hsome => h hsome.1
    rintro ⟨text, htext, hwithin⟩
    rw [hsuggestion] at htext
    exact not_claimsRetries_of_silent (silent_suggestion ht hother) _ htext m hwithin

end Translator

end Resilience
