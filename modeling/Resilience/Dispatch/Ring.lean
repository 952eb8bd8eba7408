/-!
Buffers of fixed capacity. A full buffer gives up its oldest entry for a new one.
-/

namespace Resilience

structure Ring (α : Type) where
  capacity : Nat
  /-- Oldest entry first. -/
  entries : List α
  positive : 0 < capacity
  fits : entries.length ≤ capacity

namespace Ring

variable {α : Type}

/-- An empty buffer, for one entry at least. -/
def empty (capacity : Nat) : Ring α where
  capacity := max 1 capacity
  entries := []
  positive := by omega
  fits := by simp

def isFull (r : Ring α) : Bool := r.capacity ≤ r.entries.length

/-- Adds an entry. Answers the one that was given up. -/
def push (r : Ring α) (entry : α) : Ring α × Option α :=
  match r with
  | ⟨capacity, [], positive, _⟩ => (⟨capacity, [entry], positive, positive⟩, none)
  | ⟨capacity, oldest :: rest, positive, fits⟩ =>
    if h : rest.length + 1 < capacity then
      (⟨capacity, oldest :: rest ++ [entry], positive, by simp; omega⟩, none)
    else (⟨capacity, rest ++ [entry], positive, by simpa using fits⟩, some oldest)

def clear (r : Ring α) : Ring α := ⟨r.capacity, [], r.positive, by simp⟩

/-- Adds an entry, whatever is given up for it. -/
def add (r : Ring α) (entry : α) : Ring α := (r.push entry).1

end Ring

end Resilience
