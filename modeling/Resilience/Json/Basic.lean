import Resilience.Dict
import Resilience.Json.Number

/-!
JSON values. The members of an object are in increasing order of their keys, one per key, wherever
this library builds one.
-/

namespace Resilience

inductive Json where
  | null
  | bool (value : Bool)
  | num (value : Number)
  | str (value : String)
  | arr (items : List Json)
  | obj (members : List (String × Json))
deriving Inhabited

namespace Json

mutual

def decEq : (a b : Json) → Decidable (a = b)
  | .null, .null => isTrue rfl
  | .bool a, .bool b => if h : a = b then isTrue (h ▸ rfl) else isFalse (by simpa using h)
  | .num a, .num b => if h : a = b then isTrue (h ▸ rfl) else isFalse (by simpa using h)
  | .str a, .str b => if h : a = b then isTrue (h ▸ rfl) else isFalse (by simpa using h)
  | .arr a, .arr b => match decEqItems a b with
    | isTrue h => isTrue (h ▸ rfl)
    | isFalse h => isFalse (by simpa using h)
  | .obj a, .obj b => match decEqMembers a b with
    | isTrue h => isTrue (h ▸ rfl)
    | isFalse h => isFalse (by simpa using h)
  | .null, .bool _ | .null, .num _ | .null, .str _ | .null, .arr _ | .null, .obj _
  | .bool _, .null | .bool _, .num _ | .bool _, .str _ | .bool _, .arr _ | .bool _, .obj _
  | .num _, .null | .num _, .bool _ | .num _, .str _ | .num _, .arr _ | .num _, .obj _
  | .str _, .null | .str _, .bool _ | .str _, .num _ | .str _, .arr _ | .str _, .obj _
  | .arr _, .null | .arr _, .bool _ | .arr _, .num _ | .arr _, .str _ | .arr _, .obj _
  | .obj _, .null | .obj _, .bool _ | .obj _, .num _ | .obj _, .str _ | .obj _, .arr _ =>
    isFalse (by simp)

def decEqItems : (a b : List Json) → Decidable (a = b)
  | [], [] => isTrue rfl
  | [], _ :: _ | _ :: _, [] => isFalse (by simp)
  | a :: as, b :: bs => match decEq a b, decEqItems as bs with
    | isTrue h, isTrue hs => isTrue (h ▸ hs ▸ rfl)
    | isFalse h, _ => isFalse (by simp [h])
    | _, isFalse h => isFalse (by simp [h])

def decEqMembers : (a b : List (String × Json)) → Decidable (a = b)
  | [], [] => isTrue rfl
  | [], _ :: _ | _ :: _, [] => isFalse (by simp)
  | (k, a) :: as, (l, b) :: bs => match decEq a b, decEqMembers as bs with
    | isTrue h, isTrue hs =>
      if hk : k = l then isTrue (h ▸ hs ▸ hk ▸ rfl) else isFalse (by simp [hk])
    | isFalse h, _ => isFalse (by simp [h])
    | _, isFalse h => isFalse (by simp [h])

end

instance : DecidableEq Json := decEq

def int (n : Int) : Json := .num (.int n)

def nat (n : Nat) : Json := .num (.int n)

/-- A floating-point number; what is not finite is null. -/
def float (x : Binary64) : Json := if x.isFinite then .num (.float x) else .null

def ofDict (d : Dict Json) : Json := .obj d.entries

def isNull : Json → Bool
  | .null => true
  | _ => false

def str? : Json → Option String
  | .str s => some s
  | _ => none

/-- The value of the member `key`, if this is an object that has one. -/
def get? : Json → String → Option Json
  | .obj members, key => Dict.lookup key members
  | _, _ => none

/-- Members whose value is there. -/
def objSome (members : List (String × Option Json)) : Json :=
  .obj (members.filterMap fun (k, v) => v.map (k, ·))

theorem sizeOf_lookup {members : List (String × Json)} {key : String} {v : Json}
    (h : Dict.lookup key members = some v) : sizeOf v < sizeOf members := by
  induction members with
  | nil => simp [Dict.lookup] at h
  | cons head rest ih =>
    obtain ⟨k, w⟩ := head
    rw [Dict.lookup] at h
    split at h
    · cases h; simp; omega
    · have := ih h; simp; omega

theorem sizeOf_get? {v w : Json} {key : String} (h : v.get? key = some w) :
    sizeOf w < sizeOf v := by
  match v, h with
  | .obj members, h =>
    have := sizeOf_lookup h
    simp; omega

theorem get?_objSome {members : List (String × Option Json)} (h : (members.map (·.1)).Nodup)
    (key : String) : (objSome members).get? key = (Dict.lookup key members).join := by
  induction members with
  | nil => rfl
  | cons head rest ih =>
    obtain ⟨k, v⟩ := head
    obtain ⟨hk, hrest⟩ := List.nodup_cons.1 h
    cases v with
    | none =>
      have hskip : (objSome ((k, none) :: rest)).get? key = (objSome rest).get? key := rfl
      rw [hskip, ih hrest, Dict.lookup]
      split
      · next heq =>
        have habsent : ∀ e ∈ rest, e.1 ≠ key := fun e he hek =>
          hk (List.mem_map.2 ⟨e, he, hek.trans heq.symm⟩)
        rw [Dict.lookup_eq_none habsent]
        rfl
      · rfl
    | some v =>
      have hfirst : (objSome ((k, some v) :: rest)).get? key =
        if k = key then some v else (objSome rest).get? key := rfl
      rw [hfirst, ih hrest, Dict.lookup]
      split <;> rfl

end Json

end Resilience
