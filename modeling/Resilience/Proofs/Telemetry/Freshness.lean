import Mathlib.Data.List.Chain
import Resilience.Telemetry.SinkConfig

/-!
# How long an answer is trusted

A cache on a clock: time passes, somebody wants to know whether the sink wants telemetry, or the cache
is told to forget. `ConfigCache.trusted_within_ttl` says for every course of these when the sink is
asked, whose answer is given and how far apart two fetches are. The invariant of a course is
`Timeline.Sound`.
-/

namespace Resilience.Telemetry

/-- The sink was asked at one moment and had answered at another. -/
structure Fetch where
  begun : Span
  done : Span
  reply : ConfigReply

namespace ConfigCache

inductive Use where
  | wait (time : Span)
  /-- Somebody wants to know. If the sink is asked, it takes so long and answers this. -/
  | consult (takes : Span) (reply : ConfigReply)
  | invalidate

inductive Event where
  | fetched (f : Fetch)
  | invalidated

def Event.fetch? : Event → Option Fetch
  | fetched f => some f
  | invalidated => none

structure Timeline where
  cache : ConfigCache
  now : Span := Span.zero
  /-- What has happened, first to last. -/
  history : List Event := []

namespace Timeline

def new (ttl : Span) : Timeline := { cache := { ttl } }

def step (t : Timeline) : Use → Timeline
  | .wait time => { t with now := t.now + time }
  | .consult takes reply =>
    match t.cache.consult t.now takes reply with
    | (cache, _, true) =>
      { cache
        now := t.now + takes
        history := t.history ++ [.fetched ⟨t.now, t.now + takes, reply⟩] }
    | (cache, _, false) => { t with cache }
  | .invalidate =>
    { t with cache := t.cache.invalidate, history := t.history ++ [.invalidated] }

def run (t : Timeline) (uses : List Use) : Timeline := uses.foldl step t

/-- The last fetch, if the cache was not told to forget it. -/
def known? (t : Timeline) : Option Fetch := t.history.getLast?.bind Event.fetch?

theorem known?_eq_some {t : Timeline} {f : Fetch} :
    t.known? = some f ↔ t.history.getLast? = some (.fetched f) := by
  rw [known?]
  cases t.history.getLast? with
  | none => simp
  | some e => cases e <;> simp [Event.fetch?]

theorem getLast?_fetches {history : List Event} {f : Fetch}
    (h : history.getLast? = some (.fetched f)) :
    (history.filterMap Event.fetch?).getLast? = some f := by
  obtain ⟨before, rfl⟩ := List.getLast?_eq_some_iff.1 h
  simp [Event.fetch?]

/-- Two events that follow each other: a second fetch does not begin before the time is over for
which the first one is trusted. -/
def Apart (ttl : Span) : Event → Event → Prop
  | .fetched f, .fetched g => f.done + ttl ≤ g.begun
  | _, _ => True

structure Sound (ttl : Span) (t : Timeline) : Prop where
  ttl_eq : t.cache.ttl = ttl
  cached : t.cache.cached = t.known?.map fun f => (f.done, f.reply.accepts)
  past : ∀ f, t.known? = some f → f.done ≤ t.now
  apart : t.history.IsChain (Apart ttl)

variable {ttl : Span} {t : Timeline} {cache : ConfigCache} {accepts : Bool} {takes : Span}
  {reply : ConfigReply}

theorem step_of_trusted (h : t.cache.consult t.now takes reply = (cache, accepts, false)) :
    t.step (.consult takes reply) = { t with cache } := by
  rw [step, h]

theorem step_of_asked (h : t.cache.consult t.now takes reply = (cache, accepts, true)) :
    t.step (.consult takes reply) =
      { cache
        now := t.now + takes
        history := t.history ++ [.fetched ⟨t.now, t.now + takes, reply⟩] } := by
  rw [step, h]

/-- Either the last answer is young enough and is given again, or the sink is asked. -/
theorem Sound.consult_cases (h : t.Sound ttl) (takes : Span) (reply : ConfigReply) :
    (∃ f, t.known? = some f ∧ t.now < f.done + ttl ∧
      t.cache.consult t.now takes reply = (t.cache, f.reply.accepts, false)) ∨
    ((∀ f, t.known? = some f → f.done + ttl ≤ t.now) ∧
      t.cache.consult t.now takes reply =
        (t.cache.store (t.now + takes) reply, reply.accepts, true)) := by
  have hcached := h.cached
  cases hknown : t.known? with
  | none =>
    rw [hknown, Option.map_none] at hcached
    refine .inr ⟨nofun, ?_⟩
    rw [consult, fresh?, hcached]
  | some f =>
    have hpast := h.past f hknown
    rw [hknown, Option.map_some] at hcached
    have hyoung : t.now - f.done < t.cache.ttl ↔ t.now < f.done + ttl := by
      rw [h.ttl_eq]
      simp only [Span.lt_iff, Span.le_iff, Span.nanos_add, Span.nanos_sub] at hpast ⊢
      omega
    by_cases hfresh : t.now < f.done + ttl
    · refine .inl ⟨f, rfl, hfresh, ?_⟩
      rw [consult, fresh?, hcached]
      simp only [hyoung, if_pos hfresh]
    · refine .inr ⟨fun g hg => ?_, ?_⟩
      · cases hg
        exact Nat.le_of_not_lt hfresh
      · rw [consult, fresh?, hcached]
        simp only [hyoung, if_neg hfresh]

theorem known?_append (history : List Event) (cache : ConfigCache) (now : Span) (e : Event) :
    known? { cache, now, history := history ++ [e] } = e.fetch? := by
  simp [known?]

/-- What happens next is apart from what happened last. -/
theorem Sound.apart_append (h : t.Sound ttl) {e : Event}
    (hnext : ∀ last ∈ t.history.getLast?, Apart ttl last e) :
    (t.history ++ [e]).IsChain (Apart ttl) := by
  refine h.apart.append (.singleton e) fun last hlast next hnext' => ?_
  cases hnext'
  exact hnext last hlast

theorem sound_new (ttl : Span) : (new ttl).Sound ttl where
  ttl_eq := rfl
  cached := rfl
  past := nofun
  apart := .nil

/-- The sink is asked when nothing is trusted any more, so this is apart from the last fetch. -/
theorem apart_of_known? (h : ∀ f, t.known? = some f → f.done + ttl ≤ t.now) (done : Span)
    (reply : ConfigReply) :
    ∀ last ∈ t.history.getLast?, Apart ttl last (.fetched ⟨t.now, done, reply⟩) := by
  intro last hlast
  cases last with
  | fetched f =>
    apply h f
    rw [known?, hlast]
    rfl
  | invalidated => trivial

theorem Sound.step (h : t.Sound ttl) (u : Use) : (t.step u).Sound ttl := by
  cases u with
  | wait time =>
    exact { h with past := fun f hf => Nat.le_add_right_of_le (h.past f hf) }
  | consult takes reply =>
    obtain ⟨f, _, _, heq⟩ | ⟨hold, heq⟩ := h.consult_cases takes reply
    · rw [step_of_trusted heq]
      exact h
    · rw [step_of_asked heq]
      refine ⟨h.ttl_eq, ?_, ?_, h.apart_append (apart_of_known? hold _ _)⟩
      · rw [known?_append]
        rfl
      · intro f hf
        rw [known?_append] at hf
        cases hf
        exact Nat.le_refl _
  | invalidate =>
    rw [Timeline.step]
    refine ⟨h.ttl_eq, ?_, ?_, h.apart_append fun last _ => ?_⟩
    · rw [known?_append]
      rfl
    · intro f hf
      rw [known?_append] at hf
      cases hf
    · cases last <;> trivial

theorem Sound.run (h : t.Sound ttl) (uses : List Use) : (t.run uses).Sound ttl := by
  induction uses generalizing t with
  | nil => exact h
  | cons u uses ih => exact ih (h.step u)

end Timeline

open Timeline

/-- Whatever is done with a cache, and whatever its sink answers: whoever wants to know is given the
answer of the last fetch of all, and a sink that could not be asked wants nothing. The sink is asked
just if the cache was told to forget the last fetch, or there was none, or the time is over for which
its answer is trusted. So an answer is given again only while that time is not over, and of two
fetches that follow each other, with no word to forget in between, the second one begins when that time
is over. -/
theorem trusted_within_ttl (ttl : Span) (uses : List Use) (takes : Span) (reply : ConfigReply) :
    let t := (Timeline.new ttl).run uses
    let told := t.cache.consult t.now takes reply
    let after := t.step (.consult takes reply)
    (∃ f, (after.history.filterMap Event.fetch?).getLast? = some f ∧
      (told.2.1 = true ↔ f.reply = .enabled)) ∧
    (told.2.2 = true ↔ ∀ f, t.history.getLast? = some (.fetched f) → f.done + ttl ≤ t.now) ∧
    (told.2.2 = true → after.history = t.history ++ [.fetched ⟨t.now, t.now + takes, reply⟩]) ∧
    (told.2.2 = false → after.history = t.history ∧ ∃ f, t.history.getLast? = some (.fetched f) ∧
      t.now < f.done + ttl ∧ (told.2.1 = true ↔ f.reply = .enabled)) ∧
    ∀ before f g rest, after.history = before ++ .fetched f :: .fetched g :: rest →
      f.done + ttl ≤ g.begun := by
  intro t told after
  have hsound : t.Sound ttl := (sound_new ttl).run uses
  have hapart : after.history.IsChain (Apart ttl) := (hsound.step (.consult takes reply)).apart
  have hspaced : ∀ before f g rest, after.history = before ++ .fetched f :: .fetched g :: rest →
      f.done + ttl ≤ g.begun := fun before f g rest heq =>
    List.isChain_iff_forall_rel_of_append_cons_cons.1 hapart heq
  have hwanted (r : ConfigReply) : r.accepts = true ↔ r = .enabled := decide_eq_true_iff
  obtain ⟨f, hknown, hyoung, heq⟩ | ⟨hold, heq⟩ := hsound.consult_cases takes reply
  · have haccepts : told.2.1 = f.reply.accepts := congrArg (·.2.1) heq
    have hasked : told.2.2 = false := congrArg (·.2.2) heq
    have hafter : after.history = t.history := congrArg history (step_of_trusted heq)
    have hlast := known?_eq_some.1 hknown
    rw [haccepts, hasked, hafter, hwanted]
    rw [hafter] at hspaced
    refine ⟨⟨f, getLast?_fetches hlast, Iff.rfl⟩, ⟨nofun, fun h => ?_⟩, nofun,
      fun _ => ⟨rfl, f, hlast, hyoung, Iff.rfl⟩, hspaced⟩
    exact absurd (h f hlast) (Nat.not_le_of_lt hyoung)
  · have haccepts : told.2.1 = reply.accepts := congrArg (·.2.1) heq
    have hasked : told.2.2 = true := congrArg (·.2.2) heq
    have hafter : after.history = t.history ++ [.fetched ⟨t.now, t.now + takes, reply⟩] :=
      congrArg history (step_of_asked heq)
    rw [haccepts, hasked, hwanted]
    have hlast : after.history.getLast? = some (.fetched ⟨t.now, t.now + takes, reply⟩) := by
      rw [hafter, List.getLast?_concat]
    exact ⟨⟨_, getLast?_fetches hlast, Iff.rfl⟩, ⟨fun _ f hf => hold f (known?_eq_some.2 hf),
      fun _ => rfl⟩, fun _ => hafter, nofun, hspaced⟩

end ConfigCache

end Resilience.Telemetry
