import Mathlib.Data.List.DropRight
import Mathlib.Data.List.Induction
import Resilience.Dispatch.Ring

/-!
# What a buffer keeps and gives up

A buffer has the last of the entries that were pushed into it, as many as its capacity allows
(`Ring.Keeps`). What it gave up for them comes before what it has (`Ring.Accounts`), so that no
entry is lost on the way (`Ring.run_evictions`).
-/

namespace Resilience

namespace Ring

variable {α : Type} (r : Ring α) (e : α)

theorem isFull_iff : r.isFull ↔ r.entries.length = r.capacity := by
  have hfits := r.fits
  rw [isFull, decide_eq_true_iff]
  omega

theorem isFull_eq_false_iff : r.isFull = false ↔ r.entries.length < r.capacity := by
  rw [isFull, decide_eq_false_iff_not, Nat.not_le]

/-- A buffer that has room gives up nothing for an entry, and a full one its oldest entry. -/
theorem push_cases : (r.push e).1.capacity = r.capacity ∧
    ((r.isFull = false ∧ (r.push e).1.entries = r.entries ++ [e] ∧ (r.push e).2 = none) ∨
      (r.isFull ∧ ∃ oldest rest, r.entries = oldest :: rest ∧
        (r.push e).1.entries = rest ++ [e] ∧ (r.push e).2 = some oldest)) := by
  rw [isFull_iff, isFull_eq_false_iff]
  obtain ⟨capacity, entries, positive, fits⟩ := r
  cases entries with
  | nil => exact ⟨rfl, .inl ⟨positive, rfl, rfl⟩⟩
  | cons oldest rest =>
    rw [push]
    split
    · next hroom => exact ⟨rfl, .inl ⟨hroom, rfl, rfl⟩⟩
    · next hfull =>
      have hlength : rest.length + 1 = capacity := Nat.le_antisymm fits (Nat.le_of_not_lt hfull)
      exact ⟨rfl, .inr ⟨hlength, oldest, rest, rfl, rfl, rfl⟩⟩

@[simp] theorem capacity_push : (r.push e).1.capacity = r.capacity := (r.push_cases e).1

theorem isSome_push : (r.push e).2.isSome = r.isFull := by
  obtain ⟨_, ⟨hroom, _, hnone⟩ | ⟨hfull, _, _, _, _, hsome⟩⟩ := r.push_cases e
  · rw [hroom, hnone, Option.isSome_none]
  · rw [hfull, hsome, Option.isSome_some]

theorem evicted_push : (r.push e).2 = if r.isFull then r.entries.head? else none := by
  obtain ⟨_, ⟨hroom, _, hnone⟩ | ⟨hfull, _, _, hentries, _, hsome⟩⟩ := r.push_cases e
  · rw [hnone, hroom, if_neg Bool.false_ne_true]
  · rw [hsome, if_pos hfull, hentries, List.head?_cons]

/-- A push loses nothing: an entry is given up or still there. -/
theorem evicted_append_entries_push :
    (r.push e).2.toList ++ (r.push e).1.entries = r.entries ++ [e] := by
  obtain ⟨_, ⟨_, hpushed, hnone⟩ | ⟨_, oldest, rest, hentries, hpushed, hsome⟩⟩ := r.push_cases e
  · rw [hnone, hpushed, Option.toList_none, List.nil_append]
  · rw [hsome, hpushed, hentries, Option.toList_some, List.singleton_append, List.cons_append]

theorem rtake_rtake_concat (l : List α) (n : Nat) :
    (l.rtake n ++ [e]).rtake n = (l ++ [e]).rtake n := by
  simp only [List.rtake, List.length_append, List.length_drop, List.length_singleton]
  rw [List.drop_append, List.drop_append, List.drop_drop, List.length_drop]
  congr 2 <;> omega

theorem rtake_min_length (l : List α) (n : Nat) : l.rtake (min l.length n) = l.rtake n := by
  rw [List.rtake, List.rtake]
  congr 1
  omega

@[simp] theorem capacity_add : (r.add e).capacity = r.capacity := r.capacity_push e

theorem entries_add : (r.add e).entries = (r.entries ++ [e]).rtake r.capacity := by
  have hlength : (r.entries ++ [e]).length = r.entries.length + 1 := List.length_append
  rw [add, List.rtake, hlength]
  obtain ⟨_, ⟨hroom, hpushed, _⟩ | ⟨hfull, oldest, rest, hentries, hpushed, _⟩⟩ := r.push_cases e
  · rw [hpushed, Nat.sub_eq_zero_of_le ((isFull_eq_false_iff r).1 hroom), List.drop_zero]
  · rw [hpushed, (isFull_iff r).1 hfull, Nat.add_sub_cancel_left, hentries]
    rfl

example : (((empty 0).add 1).add 2).entries = [2] := rfl

/-- The buffer has what it can keep of the entries that were added. -/
def Keeps (r : Ring α) (added : List α) : Prop := r.entries = added.rtake r.capacity

theorem keeps_empty (n : Nat) : (empty n : Ring α).Keeps [] := (List.rtake_nil _).symm

theorem keeps_clear : r.clear.Keeps [] := (List.rtake_nil _).symm

variable {r} in
theorem Keeps.add {added : List α} (h : r.Keeps added) : (r.add e).Keeps (added ++ [e]) := by
  rw [Keeps, entries_add, h, capacity_add, rtake_rtake_concat]

/-! ## Since a buffer was cleared -/

/-- What is told of the things done since the last that cleared, with one more thing. -/
theorem filterMap_rtakeWhile_concat {β : Type} (clears : α → Bool) (f : α → Option β) (l : List α) :
    ((l ++ [e]).rtakeWhile (!clears ·)).filterMap f =
      if clears e then [] else (l.rtakeWhile (!clears ·)).filterMap f ++ (f e).toList := by
  rw [List.rtakeWhile_concat]
  cases clears e with
  | true => rfl
  | false =>
    simp only [Bool.not_false, ↓reduceIte, List.filterMap_append, Bool.false_eq_true]
    cases h : f e <;> simp [h]

/-- What is done to a buffer. -/
inductive Operation (α : Type) where
  | push (entry : α)
  | clear

namespace Operation

def entry? : Operation α → Option α
  | push entry => some entry
  | clear => none

def clears : Operation α → Bool
  | push _ => false
  | clear => true

/-- The entries that were pushed since the buffer was cleared. -/
def pushed (ops : List (Operation α)) : List α := (ops.rtakeWhile (!·.clears)).filterMap entry?

theorem pushed_concat (ops : List (Operation α)) (op : Operation α) :
    pushed (ops ++ [op]) = if op.clears then [] else pushed ops ++ op.entry?.toList :=
  filterMap_rtakeWhile_concat op clears entry? ops

end Operation

/-- The entries that were given up since the buffer was cleared, read off what was done and what
each push answered. -/
def evicted (log : List (Operation α × Option α)) : List α :=
  (log.rtakeWhile (!·.1.clears)).filterMap (·.2)

theorem evicted_concat (log : List (Operation α × Option α)) (op : Operation α)
    (answer : Option α) : evicted (log ++ [(op, answer)]) =
      if op.clears then [] else evicted log ++ answer.toList :=
  filterMap_rtakeWhile_concat (op, answer) (·.1.clears) (·.2) log

def step (r : Ring α) : Operation α → Ring α × Option α
  | .push entry => r.push entry
  | .clear => (r.clear, none)

/-- Does one thing after the other. Answers what was done, each with what was given up for it. -/
def run (r : Ring α) : List (Operation α) → Ring α × List (Operation α × Option α)
  | [] => (r, [])
  | op :: rest =>
    let (r, answer) := r.step op
    let (r, log) := r.run rest
    (r, (op, answer) :: log)

theorem run_concat (ops : List (Operation α)) (op : Operation α) : r.run (ops ++ [op]) =
    (((r.run ops).1.step op).1, (r.run ops).2 ++ [(op, ((r.run ops).1.step op).2)]) := by
  induction ops generalizing r with
  | nil => rfl
  | cons first rest ih => simp only [List.cons_append, run, ih]

theorem map_log_run (ops : List (Operation α)) : (r.run ops).2.map (·.1) = ops := by
  induction ops generalizing r with
  | nil => rfl
  | cons op rest ih => simp only [run, List.map_cons, ih]

theorem capacity_step (op : Operation α) : (r.step op).1.capacity = r.capacity := by
  cases op with
  | push entry => exact r.capacity_push entry
  | clear => rfl

theorem capacity_run (ops : List (Operation α)) : (r.run ops).1.capacity = r.capacity := by
  induction ops generalizing r with
  | nil => rfl
  | cons op rest ih => exact (ih _).trans (r.capacity_step op)

/-- The buffer has what it can keep of the entries that were pushed, and has given up the others. -/
structure Accounts (r : Ring α) (pushed evicted : List α) : Prop where
  keeps : r.Keeps pushed
  whole : evicted ++ r.entries = pushed

variable {r} in
theorem Accounts.push {pushed evicted : List α} (h : r.Accounts pushed evicted) :
    (r.push e).1.Accounts (pushed ++ [e]) (evicted ++ (r.push e).2.toList) where
  keeps := h.keeps.add e
  whole := by rw [List.append_assoc, evicted_append_entries_push, ← List.append_assoc, h.whole]

theorem accounts_clear : r.clear.Accounts [] [] := ⟨r.keeps_clear, rfl⟩

variable {r} in
theorem Accounts.step {ops : List (Operation α)} {log : List (Operation α × Option α)}
    (h : r.Accounts (Operation.pushed ops) (evicted log)) (op : Operation α) :
    (r.step op).1.Accounts (Operation.pushed (ops ++ [op]))
      (evicted (log ++ [(op, (r.step op).2)])) := by
  rw [Operation.pushed_concat, evicted_concat]
  cases op with
  | push entry => exact h.push entry
  | clear => exact r.accounts_clear

theorem accounts_run (capacity : Nat) (ops : List (Operation α)) :
    let (r, log) := (empty capacity).run ops
    r.Accounts (Operation.pushed ops) (evicted log) := by
  -- Both sides look back to where the buffer was cleared, so the last operation is taken off.
  induction ops using List.reverseRecOn with
  | nil => exact ⟨keeps_empty capacity, rfl⟩
  | append_singleton ops op ih =>
    rw [run_concat]
    exact ih.step op

/-- Whatever is pushed into a buffer and whenever it is cleared, it has the last of the entries that
were pushed since, oldest first and never more than it is for, where a buffer for nothing is one for
a single entry. A push gives up an entry if, and only if, the buffer is full, and that is the
oldest. The entries given up since the buffer was cleared and then those it has are the entries
pushed. -/
theorem run_evictions (capacity : Nat) (ops : List (Operation α)) :
    let r := ((empty capacity).run ops).1
    let log := ((empty capacity).run ops).2
    let pushed := Operation.pushed ops
    r.entries = pushed.rtake (min pushed.length (max 1 capacity)) ∧
    r.entries.length ≤ max 1 capacity ∧
    (∀ e, ((r.push e).2.isSome ↔ r.entries.length = max 1 capacity) ∧
      (r.push e).2 = if r.entries.length = max 1 capacity then r.entries.head? else none) ∧
    log.map (·.1) = ops ∧ evicted log ++ r.entries = pushed := by
  intro r log pushed
  have hcapacity : r.capacity = max 1 capacity := capacity_run (empty capacity) ops
  obtain ⟨hkeeps, hwhole⟩ : r.Accounts pushed (evicted log) := accounts_run capacity ops
  refine ⟨?_, hcapacity ▸ r.fits, fun e => ?_, map_log_run _ ops, hwhole⟩
  · rw [rtake_min_length, ← hcapacity]
    exact hkeeps
  · rw [← hcapacity, isSome_push, isFull_iff, evicted_push]
    simp only [isFull_iff, and_self]

end Ring

end Resilience
