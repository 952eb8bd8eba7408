import Mathlib.Data.List.Nodup
import Resilience.Proofs.Telemetry.Changes

/-!
# Batches on their way

The notices of a run tell how far each batch on its way to the sink has come. `Batcher.Sound` says
how they agree with the state, and `Batcher.run_sound` that they do so after every run.
-/

namespace Resilience.Telemetry

namespace Notice

/-- The number of the sending that a notice is about. -/
def id? : Notice → Option Nat
  | called id _ | ended id _ _ => some id
  | _ => none

/-- What the sink answered about its settings, and when. -/
def told? : Notice → Option (Nat × ConfigReply)
  | told now reply => some (now, reply)
  | _ => none

end Notice

namespace Batcher

/-- What the notices so far say of a sending. -/
structure OnWay (log : List Notice) (b : Batcher) (s : Sending) : Prop where
  numbered : s.id < b.nextId
  filled : s.batch ≠ []
  taken : .taken s.batch ∈ log
  pending : ∀ batch fate, .ended s.id batch fate ∉ log
  reported : s.stage = .reporting → .called s.id (b.reportOf s.batch) ∈ log
  unreported : s.stage ≠ .reporting → ∀ call, .called s.id call ∈ log → call = .config

/-- The notices so far agree with the state. -/
structure Sound (log : List Notice) (b : Batcher) : Prop where
  onWay : ∀ s ∈ b.sendings, OnWay log b s
  nodup : (b.sendings.map (·.id)).Nodup
  numbered : ∀ n ∈ log, ∀ id, n.id? = some id → id < b.nextId
  /-- The timer waits for one batch at a time. -/
  single : (b.sendings.filter (·.ofTimer)).length ≤ 1
  /-- What is trusted is the last answer of the sink. -/
  cached : b.cache.cached =
    (log.filterMap Notice.told?).getLast?.map
      fun (told, reply) => (Span.ofMillis told, reply.accepts)

variable {log notices : List Notice} {b c : Batcher} {s s' : Sending}

/-! ## Lists of sendings -/

theorem reportOf_congr (h : c.settings = b.settings) (batch : List Event) :
    c.reportOf batch = b.reportOf batch := by
  rw [reportOf, reportOf, h]

theorem Sound.eq_of_id (h : Sound log b) (hs : s ∈ b.sendings) (hs' : s' ∈ b.sendings)
    (hid : s.id = s'.id) : s = s' :=
  List.inj_on_of_nodup_map h.nodup hs hs' hid

theorem mem_setStage {id : Nat} {stage : Stage} (h : s ∈ (b.setStage id stage).sendings) :
    ∃ s₀ ∈ b.sendings, s = if s₀.id = id then { s₀ with stage } else s₀ := by
  obtain ⟨s₀, hs₀, rfl⟩ := List.mem_map.1 h
  exact ⟨s₀, hs₀, rfl⟩

theorem ids_setStage (b : Batcher) (id : Nat) (stage : Stage) :
    (b.setStage id stage).sendings.map (·.id) = b.sendings.map (·.id) := by
  rw [setStage, List.map_map]
  refine List.map_congr_left fun s _ => ?_
  rw [Function.comp_apply]
  split <;> rfl

theorem ofTimer_setStage (b : Batcher) (id : Nat) (stage : Stage) :
    ((b.setStage id stage).sendings.filter (·.ofTimer)).length =
      (b.sendings.filter (·.ofTimer)).length := by
  rw [setStage, List.filter_map, List.length_map]
  congr 2
  funext s
  rw [Function.comp_apply]
  split <;> rfl

/-! ## What a change keeps -/

/-- Nothing changes for a sending that the new notices are not about. -/
theorem OnWay.more (h : OnWay log b s) (hsettings : c.settings = b.settings)
    (hnext : b.nextId ≤ c.nextId) (hother : ∀ n ∈ notices, n.id? ≠ some s.id) :
    OnWay (log ++ notices) c s where
  numbered := Nat.lt_of_lt_of_le h.numbered hnext
  filled := h.filled
  taken := List.mem_append_left _ h.taken
  pending batch fate hmem := by
    rcases List.mem_append.1 hmem with hold | hnew
    · exact h.pending batch fate hold
    · exact hother _ hnew rfl
  reported hstage := by
    rw [reportOf_congr hsettings]
    exact List.mem_append_left _ (h.reported hstage)
  unreported hstage call hmem := by
    rcases List.mem_append.1 hmem with hold | hnew
    · exact h.unreported hstage call hold
    · exact (hother _ hnew rfl).elim

theorem Sound.numbered_append (h : Sound log b) (hnext : b.nextId ≤ c.nextId)
    (hnew : ∀ n ∈ notices, ∀ id, n.id? = some id → id < c.nextId) :
    ∀ n ∈ log ++ notices, ∀ id, n.id? = some id → id < c.nextId := by
  intro n hn id hid
  rcases List.mem_append.1 hn with hold | hnew'
  · exact Nat.lt_of_lt_of_le (h.numbered n hold id hid) hnext
  · exact hnew n hnew' id hid

theorem Sound.cached_append (h : Sound log b) (hcache : c.cache = b.cache)
    (hnew : notices.filterMap Notice.told? = []) : c.cache.cached =
      ((log ++ notices).filterMap Notice.told?).getLast?.map
        fun (told, reply) => (Span.ofMillis told, reply.accepts) := by
  rw [hcache, h.cached, List.filterMap_append, hnew, List.append_nil]

/-- A change that is about no sending. -/
theorem Sound.quiet (h : Sound log b) (hsettings : c.settings = b.settings)
    (hsendings : c.sendings = b.sendings) (hnext : c.nextId = b.nextId)
    (hcached : c.cache.cached = ((log ++ notices).filterMap Notice.told?).getLast?.map
      fun (told, reply) => (Span.ofMillis told, reply.accepts))
    (hnew : ∀ n ∈ notices, n.id? = none) : Sound (log ++ notices) c where
  onWay s hs := by
    rw [hsendings] at hs
    exact (h.onWay s hs).more hsettings (Nat.le_of_eq hnext.symm) fun n hn => by simp [hnew n hn]
  nodup := hsendings ▸ h.nodup
  numbered := h.numbered_append (Nat.le_of_eq hnext.symm) fun n hn id hid => by
    simp [hnew n hn] at hid
  single := hsendings ▸ h.single
  cached := hcached

theorem Sound.send (h : Sound log b) {batch rest : List Event} {ofTimer : Bool}
    (hidle : ofTimer = true → b.timerWaits = false) :
    Sound (log ++ [.taken batch]) ({ b with queue := rest }.send batch ofTimer) := by
  by_cases hempty : batch = []
  · subst hempty
    exact h.quiet rfl rfl rfl (h.cached_append rfl rfl) (by simp [Notice.id?])
  · rw [Batcher.send, if_neg (by simpa using hempty)]
    refine ⟨fun s hs => ?_, ?_, h.numbered_append (Nat.le_succ _) (by simp [Notice.id?]), ?_,
      h.cached_append rfl rfl⟩
    · rcases List.mem_append.1 hs with hold | hnew
      · exact (h.onWay s hold).more rfl (Nat.le_succ _) (by simp [Notice.id?])
      · obtain rfl := List.mem_singleton.1 hnew
        -- The number is a new one, so nothing has been told of the sending yet.
        have hfresh (n : Notice) (hn : n ∈ log ++ [Notice.taken batch]) :
            n.id? ≠ some b.nextId := by
          intro hid
          rcases List.mem_append.1 hn with hold | htaken
          · exact Nat.lt_irrefl _ (h.numbered n hold _ hid)
          · simp only [List.mem_singleton] at htaken
            simp [htaken, Notice.id?] at hid
        exact ⟨Nat.lt_succ_self _, hempty, by simp, fun _ _ hmem => hfresh _ hmem rfl, by simp,
          fun _ _ hmem => (hfresh _ hmem rfl).elim⟩
    · rw [List.map_append, List.nodup_append]
      refine ⟨h.nodup, by simp, fun id hid id' hid' => ?_⟩
      obtain ⟨s, hs, rfl⟩ := List.mem_map.1 hid
      have hlt := (h.onWay s hs).numbered
      simp only [List.map_cons, List.map_nil, List.mem_singleton] at hid'
      omega
    · rw [List.filter_append, List.length_append]
      cases ofTimer with
      | false => simpa using h.single
      | true =>
        have hnone : b.sendings.filter (·.ofTimer) = [] := by
          simpa [timerWaits, List.filter_eq_nil_iff] using hidle rfl
        simp [hnone]

/-- A call for a sending. -/
theorem Sound.setStage (h : Sound log b) (hs : s ∈ b.sendings) {stage : Stage} {call : SinkCall}
    (hreport : stage = .reporting → call = b.reportOf s.batch)
    (hconfig : stage ≠ .reporting → call = .config ∧ s.stage ≠ .reporting) :
    Sound (log ++ [.called s.id call]) (b.setStage s.id stage) where
  onWay s' hs' := by
    obtain ⟨s₀, hs₀, rfl⟩ := mem_setStage hs'
    split
    · next hid =>
      obtain rfl := h.eq_of_id hs₀ hs hid
      have hold := h.onWay s₀ hs₀
      refine ⟨hold.numbered, hold.filled, List.mem_append_left _ hold.taken, ?_, fun hstage => ?_,
        fun hstage call' hmem => ?_⟩
      · simpa using hold.pending
      · rw [hreport hstage]
        exact List.mem_append_right _ (List.mem_singleton_self _)
      · obtain ⟨rfl, hbefore⟩ := hconfig hstage
        rcases List.mem_append.1 hmem with hmem | hmem
        · exact hold.unreported hbefore call' hmem
        · simpa using hmem
    · next hid =>
      refine (h.onWay s₀ hs₀).more rfl (Nat.le_refl _) fun n hn => ?_
      rw [List.mem_singleton.1 hn]
      exact fun heq => hid (Option.some.inj heq).symm
  nodup := (ids_setStage b s.id stage).symm ▸ h.nodup
  numbered := h.numbered_append (Nat.le_refl _) fun n hn id hid => by
    rw [List.mem_singleton.1 hn] at hid
    cases hid
    exact (h.onWay s hs).numbered
  single := (ofTimer_setStage b s.id stage).symm ▸ h.single
  cached := h.cached_append rfl rfl

/-- Some sendings end. -/
theorem Sound.fewer (h : Sound log b) {keep : Sending → Bool}
    (hsettings : c.settings = b.settings) (hsendings : c.sendings = b.sendings.filter keep)
    (hnext : c.nextId = b.nextId) (hcache : c.cache = b.cache)
    (hended : ∀ n ∈ notices, ∃ s ∈ b.sendings, keep s = false ∧ n.id? = some s.id)
    (hnew : notices.filterMap Notice.told? = []) : Sound (log ++ notices) c where
  onWay s hs := by
    rw [hsendings, List.mem_filter] at hs
    refine (h.onWay s hs.1).more hsettings (Nat.le_of_eq hnext.symm) fun n hn hid => ?_
    obtain ⟨s', hs', hgone, hid'⟩ := hended n hn
    rw [hid'] at hid
    obtain rfl := h.eq_of_id hs' hs.1 (Option.some.inj hid)
    simp [hs.2] at hgone
  nodup := by
    rw [hsendings]
    exact h.nodup.sublist (List.filter_sublist.map _)
  numbered := h.numbered_append (Nat.le_of_eq hnext.symm) fun n hn id hid => by
    obtain ⟨s, hs, _, hid'⟩ := hended n hn
    rw [hid'] at hid
    cases hid
    exact hnext ▸ (h.onWay s hs).numbered
  single := by
    rw [hsendings]
    exact Nat.le_trans (List.filter_sublist.filter _).length_le h.single
  cached := h.cached_append hcache hnew

theorem Sound.change (h : Sound log b) (hchange : Change b notices c) :
    Sound (log ++ notices) c := by
  cases hchange with
  | refuse e => exact h.quiet rfl rfl rfl (h.cached_append rfl rfl) (by simp [Notice.id?])
  | queue e => exact h.quiet rfl rfl rfl (h.cached_append rfl rfl) (by simp [Notice.id?])
  | send batch rest ofTimer _ hidle => exact h.send hidle
  | discard batch rest _ =>
    exact h.quiet rfl rfl rfl (h.cached_append rfl rfl) (by simp [Notice.id?])
  | ask s hs hstage => exact h.setStage hs nofun fun _ => ⟨rfl, hstage⟩
  | hear now reply =>
    refine h.quiet rfl rfl rfl ?_ (by simp [Notice.id?])
    simp [Notice.told?, ConfigCache.store]
  | report s hs hstage _ => exact h.setStage hs (fun _ => rfl) fun hne => (hne rfl).elim
  | close s fate hs _ =>
    refine h.fewer rfl rfl rfl rfl (fun n hn => ?_) rfl
    rw [List.mem_singleton.1 hn]
    exact ⟨s, hs, by simp, rfl⟩
  | abortTimer =>
    refine h.fewer rfl rfl rfl rfl (fun n hn => ?_) ?_
    · obtain ⟨s, hs, rfl⟩ := List.mem_map.1 hn
      obtain ⟨hs, htimer⟩ := List.mem_filter.1 hs
      exact ⟨s, hs, by simp [htimer], rfl⟩
    · simp [abortTimer, Notice.told?, List.filterMap_map, Function.comp_def]
  | runTimer _ => exact h.quiet rfl rfl rfl (h.cached_append rfl rfl) (by simp)

theorem sound_new (settings : BatcherSettings) : Sound [] { settings } where
  onWay _ hs := (List.not_mem_nil hs).elim
  nodup := List.nodup_nil
  numbered _ hn := (List.not_mem_nil hn).elim
  single := Nat.zero_le 1
  cached := rfl

theorem run_sound (settings : BatcherSettings) (actions : List Action) :
    Sound (Batcher.run { settings } actions).2 (Batcher.run { settings } actions).1 :=
  run_keeps Sound.change (sound_new settings) actions

end Batcher

end Resilience.Telemetry
