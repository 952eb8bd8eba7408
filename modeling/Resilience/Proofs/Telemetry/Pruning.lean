import Resilience.Telemetry.Event

/-!
# What pruning keeps

A value is followed from its root to its parts, one number for each step down (`Json.at?`). Pruning
leaves a value as it is in each place above the greatest depth, and at that depth it leaves the scalars
(`Telemetry.at?_prune`). So no array and no object is lost of a value that is not too deep, and what is
printed of any other is as deep as allowed (`Telemetry.stringify_to_depth`).
-/

namespace Resilience

/-! ## Places and depth -/

namespace Json

/-- The items of an array, or the values of the members of an object. -/
def parts : Json → List Json
  | .arr items => items
  | .obj members => members.map (·.2)
  | _ => []

/-- The value in a place, which gives for each step from the root the number of a part. -/
def at? : List Nat → Json → Option Json
  | [], v => some v
  | n :: place, v => v.parts[n]?.bind (at? place)

/-- What a value shows of itself besides its parts. -/
inductive Surface where
  | scalar (v : Json)
  | arr (length : Nat)
  | obj (keys : List String)

def surface : Json → Surface
  | .arr items => .arr items.length
  | .obj members => .obj (members.map (·.1))
  | v => .scalar v

def isContainer : Json → Bool
  | .arr _ | .obj _ => true
  | _ => false

mutual

/-- How many arrays and objects are inside one another, empty ones included. -/
def depth : Json → Nat
  | .arr items => depthItems items + 1
  | .obj members => depthMembers members + 1
  | _ => 0

def depthItems : List Json → Nat
  | [] => 0
  | v :: rest => max (depth v) (depthItems rest)

def depthMembers : List (String × Json) → Nat
  | [] => 0
  | (_, v) :: rest => max (depth v) (depthMembers rest)

end

variable {v w : Json} {n : Nat}

theorem depthItems_le_iff {items : List Json} :
    depthItems items ≤ n ↔ ∀ v ∈ items, v.depth ≤ n := by
  induction items with
  | nil => simp [depthItems]
  | cons v rest ih => rw [depthItems, Nat.max_le, ih, List.forall_mem_cons]

theorem depthMembers_eq (members : List (String × Json)) :
    depthMembers members = depthItems (members.map (·.2)) := by
  induction members with
  | nil => rfl
  | cons m rest ih => rw [depthMembers, ih, List.map_cons, depthItems]

theorem depth_eq_zero_iff : v.depth = 0 ↔ v.isContainer = false := by
  cases v <;> simp [depth, isContainer]

theorem depth_le_succ_iff : v.depth ≤ n + 1 ↔ ∀ w ∈ v.parts, w.depth ≤ n := by
  cases v with
  | arr items => rw [depth, Nat.add_le_add_iff_right, depthItems_le_iff, parts]
  | obj members => rw [depth, Nat.add_le_add_iff_right, depthMembers_eq, depthItems_le_iff, parts]
  | _ => simp [depth, parts]

/-- A value is its surface and its parts. -/
theorem ext_surface (hsurface : v.surface = w.surface) (hparts : v.parts = w.parts) : v = w := by
  cases v with
  | arr items =>
    cases w with
    | arr others => exact congrArg arr hparts
    | _ => cases hsurface
  | obj members =>
    cases w with
    | obj others =>
      have hkeys : members.map (·.1) = others.map (·.1) := Surface.obj.inj hsurface
      have hmembers : members = others :=
        (List.zip_of_prod hkeys hparts).trans (List.zip_of_prod rfl rfl).symm
      rw [hmembers]
    | _ => cases hsurface
  | _ =>
    cases w with
    | arr others => cases hsurface
    | obj others => cases hsurface
    | _ => exact Surface.scalar.inj hsurface

end Json

namespace Telemetry

open Json

variable {v : Json} {d n : Nat} {place : List Nat}

/-! ## One level -/

theorem pruneItems_eq (d : Nat) (items : List Json) : pruneItems d items = items.map (prune d) := by
  induction items with
  | nil => rfl
  | cons v rest ih => rw [pruneItems, ih, List.map_cons]

theorem pruneMembers_eq (d : Nat) (members : List (String × Json)) :
    pruneMembers d members = members.map fun (k, v) => (k, prune d v) := by
  induction members with
  | nil => rfl
  | cons m rest ih => rw [pruneMembers, ih, List.map_cons]

/-- Above the greatest depth only the parts of a value change. -/
theorem surface_prune (hd : d < maxDepth) (v : Json) : (prune d v).surface = v.surface := by
  cases v with
  | arr items => simp [prune, Nat.not_le_of_lt hd, surface, pruneItems_eq]
  | obj members => simp [prune, Nat.not_le_of_lt hd, surface, pruneMembers_eq, Function.comp_def]
  | _ => rfl

theorem parts_prune (hd : d < maxDepth) (v : Json) :
    (prune d v).parts = v.parts.map (prune (d + 1)) := by
  cases v with
  | arr items => simp [prune, Nat.not_le_of_lt hd, parts, pruneItems_eq]
  | obj members => simp [prune, Nat.not_le_of_lt hd, parts, pruneMembers_eq, Function.comp_def]
  | _ => rfl

theorem prune_maxDepth (v : Json) :
    prune maxDepth v = if v.isContainer then depthPlaceholder else v := by
  cases v <;> rfl

/-- An empty array goes too, and a scalar beside it stays. -/
example : prune 31 (.arr [.arr [], .null]) = .arr [.str "[Max Depth]", .null] := by decide

theorem isContainer_prune_maxDepth (v : Json) : (prune maxDepth v).isContainer = false := by
  cases v <;> rfl

theorem parts_prune_maxDepth (v : Json) : (prune maxDepth v).parts = [] := by
  cases v <;> rfl

/-! ## All levels

By induction on the number of levels that are left. -/

theorem depth_prune (h : d + n = maxDepth) (v : Json) : (prune d v).depth ≤ n := by
  induction n generalizing d v with
  | zero =>
    obtain rfl : d = maxDepth := h
    exact Nat.le_of_eq (depth_eq_zero_iff.2 (isContainer_prune_maxDepth v))
  | succ n ih =>
    rw [depth_le_succ_iff, parts_prune (by omega), List.forall_mem_map]
    exact fun w _ => ih (by omega) w

theorem prune_eq_self_iff (h : d + n = maxDepth) : prune d v = v ↔ v.depth ≤ n := by
  induction n generalizing d v with
  | zero =>
    obtain rfl : d = maxDepth := h
    rw [Nat.le_zero, depth_eq_zero_iff, prune_maxDepth]
    cases v <;> simp [isContainer, depthPlaceholder]
  | succ n ih =>
    have hd : d < maxDepth := by omega
    have hparts : prune d v = v ↔ v.parts.map (prune (d + 1)) = v.parts.map id := by
      rw [← parts_prune hd, List.map_id]
      exact ⟨congrArg parts, ext_surface (surface_prune hd v)⟩
    rw [hparts, List.map_inj_left, depth_le_succ_iff]
    exact forall₂_congr fun w _ => ih (by omega)

theorem prune_prune (h : d ≤ maxDepth) (v : Json) : prune d (prune d v) = prune d v :=
  have hlevels := Nat.add_sub_cancel' h
  (prune_eq_self_iff hlevels).2 (depth_prune hlevels v)

/-! ## All places

By induction on the steps to the place. -/

theorem at?_prune (h : d + place.length ≤ maxDepth) (v : Json) :
    (prune d v).at? place = (v.at? place).map (prune (d + place.length)) := by
  induction place generalizing d v with
  | nil => rfl
  | cons n place ih =>
    rw [List.length_cons] at h ⊢
    rw [at?, at?, parts_prune (by omega), List.getElem?_map, Option.bind_map, Option.map_bind]
    refine congrArg v.parts[n]?.bind (funext fun w => ?_)
    rw [Function.comp_apply, Function.comp_apply, ih (by omega), Nat.add_right_comm, Nat.add_assoc]

theorem at?_prune_eq_none (hd : d ≤ maxDepth) (h : maxDepth < d + place.length) (v : Json) :
    (prune d v).at? place = none := by
  induction place generalizing d v with
  | nil => simp at h; omega
  | cons n place ih =>
    rw [List.length_cons] at h
    rcases Nat.lt_or_eq_of_le hd with hlt | rfl
    · rw [at?, parts_prune hlt, List.getElem?_map, Option.bind_map, Option.bind_eq_none_iff]
      exact fun w _ => ih hlt (by omega) w
    · rw [at?, parts_prune_maxDepth]
      rfl

theorem surface_at?_prune (h : d + place.length < maxDepth) (v : Json) :
    ((prune d v).at? place).map surface = (v.at? place).map surface := by
  rw [at?_prune (Nat.le_of_lt h), Option.map_map]
  exact congrArg (Option.map · (v.at? place)) (funext (surface_prune h))

/-- What is printed of a value has arrays and objects at most 32 deep. It has the keys, the lengths and
the scalars of the value above that depth, and at that depth its scalars and a text in place of each of
its arrays and objects; that is all. It is the whole value just if that is no deeper, and pruning it again
changes nothing. So the error of a payload, before its length is limited, is the whole record of the
failure if this is no deeper. -/
theorem stringify_to_depth :
    (∀ v : Json, stringify (.ok v) = (prune 0 v).compact ∧ (prune 0 v).depth ≤ 32 ∧
      (∀ place, place.length ≤ 31 →
        ((prune 0 v).at? place).map surface = (v.at? place).map surface) ∧
      (∀ place, place.length = 32 → (prune 0 v).at? place =
        (v.at? place).map fun w => if w.isContainer then .str "[Max Depth]" else w) ∧
      (∀ place, 33 ≤ place.length → (prune 0 v).at? place = none) ∧
      (prune 0 v = v ↔ v.depth ≤ 32) ∧ prune 0 (prune 0 v) = prune 0 v) ∧
    ∀ (most : Nat) (e : Event) (f : Failure), e.what.error? = some f → f.toJson.depth ≤ 32 →
      (e.payload most).error = some (truncateField most f.toJson.compact) := by
  have hlevels : 0 + 32 = maxDepth := rfl
  constructor
  · intro v
    refine ⟨rfl, depth_prune hlevels v, fun place h => ?_, fun place h => ?_, fun place h => ?_,
      prune_eq_self_iff hlevels, prune_prune (Nat.zero_le _) v⟩
    · exact surface_at?_prune (by omega) v
    · have hdepth : 0 + place.length = maxDepth := h ▸ hlevels
      rw [at?_prune (Nat.le_of_eq hdepth), hdepth]
      exact congrArg (Option.map · (v.at? place)) (funext prune_maxDepth)
    · exact at?_prune_eq_none (Nat.zero_le _) (by omega) v
  · intro most e f hf hdepth
    have herror : (e.payload most).error =
        e.what.error?.map fun f => truncateField most (prune 0 f.toJson).compact := rfl
    rw [herror, hf, Option.map_some, (prune_eq_self_iff hlevels).2 hdepth]

end Telemetry

end Resilience
