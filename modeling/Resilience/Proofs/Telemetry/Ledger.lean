import Mathlib.Data.List.Count
import Mathlib.Data.List.Perm.Basic
import Resilience.Proofs.Telemetry.Sendings

/-!
# Where the events are

The notices of a run are a ledger of its events. `Batcher.Balanced` says that the queue, the batches
on their way and the counts are what the ledger says they are, and `Batcher.run_balanced` that this
holds after every run.
-/

namespace Resilience.Telemetry

/-- The accounts in which events are entered. -/
inductive Account where
  | recorded (admitted : Bool)
  | taken
  | discarded
  | ended (fate : Fate)
deriving DecidableEq

/-- The events that a notice enters in an account. -/
def Notice.entry : Account → Notice → List Event
  | .recorded admitted, recorded e admitted' => if admitted' = admitted then [e] else []
  | .taken, taken batch => batch
  | .discarded, discarded batch => batch
  | .ended fate, ended _ batch fate' => if fate' = fate then batch else []
  | _, _ => []

def Counts.add (c d : Counts) : Counts where
  admitted := c.admitted + d.admitted
  dropped := c.dropped + d.dropped
  flushed := c.flushed + d.flushed
  failed := c.failed + d.failed

namespace Batcher

/-- The events of an account, in the order in which they were entered. -/
def entries (account : Account) (log : List Notice) : List Event := log.flatMap (·.entry account)

/-- The events that are counted, other than those that were refused. -/
def settled (log : List Notice) : List Event :=
  entries .discarded log ++ entries (.ended .unwanted) log ++ entries (.ended .accepted) log ++
    entries (.ended .rejected) log

/-- The events of the batches that are on their way. -/
def inFlight (b : Batcher) : List Event := b.sendings.flatMap (·.batch)

/-- The counts that the ledger gives. -/
def tally (log : List Notice) : Counts where
  admitted := (entries (.recorded true) log).length
  dropped := (entries (.recorded false) log).length + (entries (.ended .unwanted) log).length
  flushed := (entries (.ended .accepted) log).length
  failed := (entries (.ended .rejected) log).length + (entries .discarded log).length

/-- The state is what the ledger says. -/
structure Balanced (log : List Notice) (b : Batcher) : Prop where
  queued : entries .taken log ++ b.queue = entries (.recorded true) log
  placed : (entries .taken log).Perm
    (b.inFlight ++ settled log ++ entries (.ended .abandoned) log)
  counted : b.counts = tally log

variable {account : Account} {log notices : List Notice} {b c : Batcher} {s : Sending}

/-! ## Entries -/

@[simp] theorem entries_nil : entries account [] = [] := rfl

@[simp] theorem entries_cons (n : Notice) :
    entries account (n :: log) = n.entry account ++ entries account log := List.flatMap_cons

@[simp] theorem entries_append :
    entries account (log ++ notices) = entries account log ++ entries account notices :=
  List.flatMap_append

theorem entries_map_abandoned (sendings : List Sending) :
    entries account (sendings.map fun s => .ended s.id s.batch .abandoned) =
      if account = .ended .abandoned then sendings.flatMap (·.batch) else [] := by
  induction sendings with
  | nil => simp
  | cons s rest ih =>
    rw [List.map_cons, entries_cons, ih, List.flatMap_cons]
    split
    · next h => simp [h, Notice.entry]
    · next h =>
      cases account with
      | ended fate => simp [Notice.entry, show Fate.abandoned ≠ fate from fun heq => h (heq ▸ rfl)]
      | _ => simp [Notice.entry]

theorem tally_append : tally (log ++ notices) = (tally log).add (tally notices) := by
  simp only [tally, Counts.add, entries_append, List.length_append, Counts.mk.injEq, true_and]
  omega

/-! ## The entries of a run -/

theorem flatMap_filter {α β : Type} (p : α → Bool) (f : α → List β) (l : List α) :
    (l.filter p).flatMap f = l.flatMap fun x => if p x then f x else [] := by
  induction l with
  | nil => rfl
  | cons x rest ih => by_cases hx : p x <;> simp [hx, ih]

theorem flatMap_none {α β : Type} (l : List α) : (l.flatMap fun _ => ([] : List β)) = [] :=
  List.flatMap_eq_nil_iff.2 fun _ _ => rfl

theorem entry_of_asking {n : Notice} (h : Asking n) (hother : account ≠ .ended .unwanted) :
    n.entry account = [] := by
  cases h with
  | unwanted id batch =>
    cases account with
    | ended fate => exact if_neg fun (heq : Fate.unwanted = fate) => hother (heq ▸ rfl)
    | _ => rfl
  | _ => cases account <;> rfl

theorem entries_step (htaken : account ≠ .taken) (hother : account ≠ .ended .unwanted)
    (b : Batcher) (a : Action) : (b.step a).2.flatMap (·.entry account) =
      (b.recordedBy a).flatMap (fun (e, admitted) => (Notice.recorded e admitted).entry account) ++
      (b.discardedBy a).flatMap (fun batch => (Notice.discarded batch).entry account) ++
      (b.answeredBy a).flatMap (fun (s, taken) =>
        (Notice.ended s.id s.batch (if taken then .accepted else .rejected)).entry account) ++
      (b.abandonedBy a).flatMap
        (fun s => (Notice.ended s.id s.batch .abandoned).entry account) := by
  refine step_flatMap (fun batch => ?_) (fun _ hn => entry_of_asking hn hother) b a
  cases account with
  | taken => exact (htaken rfl).elim
  | _ => rfl

theorem entries_recorded (b : Batcher) (actions : List Action) (admitted : Bool) :
    entries (.recorded admitted) (b.run actions).2 =
      ((b.along recordedBy actions).filter (·.2 = admitted)).map (·.1) := by
  rw [List.map_eq_flatMap, flatMap_filter]
  refine run_flatMap (fun b a => ?_) b actions
  rw [entries_step (by simp) (by simp)]
  simp [Notice.entry, flatMap_none]

theorem entries_discarded (b : Batcher) (actions : List Action) :
    entries .discarded (b.run actions).2 = (b.along discardedBy actions).flatten := by
  rw [← List.flatMap_id]
  refine run_flatMap (fun b a => ?_) b actions
  rw [entries_step (by simp) (by simp)]
  simp [Notice.entry, flatMap_none]

theorem entries_answered (b : Batcher) (actions : List Action) (taken : Bool) :
    entries (.ended (if taken then .accepted else .rejected)) (b.run actions).2 =
      ((b.along answeredBy actions).filter (·.2 = taken)).flatMap (·.1.batch) := by
  rw [flatMap_filter]
  refine run_flatMap (fun b a => ?_) b actions
  rw [entries_step (by simp) (by cases taken <;> simp)]
  cases taken <;> simp [Notice.entry, flatMap_none]

theorem entries_abandoned (b : Batcher) (actions : List Action) :
    entries (.ended .abandoned) (b.run actions).2 =
      (b.along abandonedBy actions).flatMap (·.batch) := by
  refine run_flatMap (fun b a => ?_) b actions
  rw [entries_step (by simp) (by simp)]
  simp [Notice.entry, flatMap_none]

/-! ## Batches on their way -/

theorem perm_cons_filter {sendings : List Sending} (h : (sendings.map (·.id)).Nodup)
    (hs : s ∈ sendings) : sendings.Perm (s :: sendings.filter (·.id ≠ s.id)) := by
  induction sendings with
  | nil => cases hs
  | cons x rest ih =>
    obtain ⟨hx, hrest⟩ := List.nodup_cons.1 h
    rcases List.mem_cons.1 hs with rfl | hs
    · have hkeep : rest.filter (·.id ≠ s.id) = rest := by
        refine List.filter_eq_self.2 fun y hy => ?_
        have hne : y.id ≠ s.id := fun heq => hx (List.mem_map.2 ⟨y, hy, heq⟩)
        simpa using hne
      rw [List.filter_cons_of_neg (by simp), hkeep]
    · have hne : x.id ≠ s.id := fun heq => hx (List.mem_map.2 ⟨s, hs, heq.symm⟩)
      rw [List.filter_cons_of_pos (by simpa using hne)]
      exact ((ih hrest hs).cons x).trans (.swap s x _)

theorem inFlight_close (h : Sound log b) (hs : s ∈ b.sendings) (fate : Fate) :
    b.inFlight.Perm (s.batch ++ (b.close s fate).1.inFlight) :=
  (perm_cons_filter h.nodup hs).flatMap_right _

theorem inFlight_abortTimer (b : Batcher) : b.inFlight.Perm
    ((b.sendings.filter (·.ofTimer)).flatMap (·.batch) ++ b.abortTimer.1.inFlight) := by
  have hparts := (List.filter_append_perm (·.ofTimer) b.sendings).symm.flatMap_right (·.batch)
  rwa [List.flatMap_append] at hparts

@[simp] theorem inFlight_setStage (id : Nat) (stage : Stage) :
    (b.setStage id stage).inFlight = b.inFlight := by
  rw [inFlight, inFlight, setStage, List.flatMap_map]
  congr 1
  funext s
  split <;> rfl

@[simp] theorem inFlight_send (batch : List Event) (ofTimer : Bool) :
    (b.send batch ofTimer).inFlight = b.inFlight ++ batch := by
  rw [send]
  split
  · next hempty => simp [List.isEmpty_iff.1 hempty]
  · simp [inFlight]

@[simp] theorem queue_send (batch : List Event) (ofTimer : Bool) :
    (b.send batch ofTimer).queue = b.queue := by
  rw [send]
  split <;> rfl

@[simp] theorem counts_send (batch : List Event) (ofTimer : Bool) :
    (b.send batch ofTimer).counts = b.counts := by
  rw [send]
  split <;> rfl

/-! ## What a change keeps -/

/-- What a change has to enter: what it puts into the queue and takes off it, where it leaves the
batches that were on their way or have been taken, and what it counts. -/
theorem Balanced.append (h : Balanced log b)
    (hqueued : entries .taken notices ++ c.queue = b.queue ++ entries (.recorded true) notices)
    (hplaced : (b.inFlight ++ entries .taken notices).Perm
      (c.inFlight ++ settled notices ++ entries (.ended .abandoned) notices))
    (hcounted : c.counts = b.counts.add (tally notices)) : Balanced (log ++ notices) c where
  queued := by
    rw [entries_append, entries_append, List.append_assoc, hqueued, ← List.append_assoc, h.queued]
  placed := by
    -- How often each event occurs adds up on both sides.
    classical
    refine List.perm_iff_count.2 fun e => ?_
    have hbefore := h.placed.count_eq e
    have hnew := hplaced.count_eq e
    simp only [settled, entries_append, List.count_append] at *
    omega
  counted := by rw [hcounted, h.counted, tally_append]

/-- A change that enters nothing. -/
theorem Balanced.quiet (h : Balanced log b) (hqueue : c.queue = b.queue)
    (hflight : c.inFlight = b.inFlight) (hcounts : c.counts = b.counts)
    (hnew : ∀ account, entries account notices = []) : Balanced (log ++ notices) c := by
  refine h.append ?_ ?_ ?_
  · simp [hnew, hqueue]
  · simp [hnew, hflight, settled]
  · simp [hnew, hcounts, tally, Counts.add]

/-- A sending that comes to its end leaves its batch in the account of its fate. -/
theorem Balanced.close (hsound : Sound log b) (h : Balanced log b) (hs : s ∈ b.sendings)
    (fate : Fate) : Balanced (log ++ [.ended s.id s.batch fate]) (b.close s fate).1 := by
  have hended : settled [.ended s.id s.batch fate] ++
      entries (.ended .abandoned) [.ended s.id s.batch fate] = s.batch := by
    cases fate <;> simp [settled, Notice.entry]
  refine h.append ?_ ?_ ?_
  · simp [Batcher.close, Notice.entry]
  · rw [List.append_assoc, hended]
    simpa [Notice.entry] using (inFlight_close hsound hs fate).trans List.perm_append_comm
  · cases fate <;> simp [Batcher.close, Counts.close, Counts.add, tally, Notice.entry]

/-- The batches that the timer waited for are not counted anywhere. -/
theorem Balanced.abortTimer (h : Balanced log b) :
    Balanced (log ++ b.abortTimer.2) b.abortTimer.1 := by
  refine h.append ?_ ?_ ?_
  · simp [Batcher.abortTimer, entries_map_abandoned]
  · simpa [Batcher.abortTimer, entries_map_abandoned, settled] using
      (inFlight_abortTimer b).trans List.perm_append_comm
  · simp [Batcher.abortTimer, entries_map_abandoned, Counts.add, tally]

theorem Balanced.change (hsound : Sound log b) (h : Balanced log b)
    (hchange : Change b notices c) : Balanced (log ++ notices) c := by
  cases hchange with
  | refuse e =>
    refine h.append ?_ ?_ rfl
    · simp [Notice.entry]
    · simp [Notice.entry, settled, inFlight]
  | queue e =>
    refine h.append ?_ ?_ rfl
    · simp [Notice.entry]
    · simp [Notice.entry, settled, inFlight]
  | send batch rest ofTimer hsplit _ =>
    have hflight : ({ b with queue := rest }.send batch ofTimer).inFlight = b.inFlight ++ batch :=
      inFlight_send batch ofTimer
    refine h.append ?_ ?_ ?_
    · simp [Notice.entry, hsplit]
    · simp [Notice.entry, settled, hflight]
    · simp [Notice.entry, tally, Counts.add]
  | discard batch rest hsplit =>
    refine h.append ?_ ?_ ?_
    · simp [Notice.entry, hsplit]
    · simp [Notice.entry, settled, inFlight]
    · simp [Notice.entry, tally, Counts.add]
  | ask s _ _ =>
    exact h.quiet rfl (inFlight_setStage ..) rfl fun account => by cases account <;> rfl
  | hear now reply => exact h.quiet rfl rfl rfl fun account => by cases account <;> rfl
  | report s _ _ _ =>
    exact h.quiet rfl (inFlight_setStage ..) rfl fun account => by cases account <;> rfl
  | close s fate hs _ => exact h.close hsound hs fate
  | abortTimer => exact h.abortTimer
  | runTimer _ => exact h.quiet rfl rfl rfl fun _ => rfl

theorem run_balanced (settings : BatcherSettings) (actions : List Action) :
    Balanced (Batcher.run { settings } actions).2 (Batcher.run { settings } actions).1 := by
  have hnew : Balanced [] ({ settings } : Batcher) :=
    ⟨rfl, List.Perm.refl _, rfl⟩
  exact (run_keeps (P := fun log b => Sound log b ∧ Balanced log b)
    (fun h hchange => ⟨h.1.change hchange, h.2.change h.1 hchange⟩)
    ⟨sound_new settings, hnew⟩ actions).2

end Batcher

end Resilience.Telemetry
