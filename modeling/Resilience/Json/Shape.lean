import Resilience.Json.Draft

/-!
Reading text whose form is known. A record is an object with known fields, none of them twice, and
perhaps other members, which are skipped whatever they hold; or it is an array that gives the
fields by position. The result is a plain object with the known fields.
-/

namespace Resilience.Json

/-- The form of a value, where records are told apart by names in `σ`. -/
inductive Shape (σ : Type) where
  | any
  /-- A name, or an object whose only member is named so. -/
  | choice
  | record (name : σ)
  | records (name : σ)

/-- The fields of each record, in the order in which an array gives them. -/
abbrev Grammar (σ : Type) := σ → List (String × Shape σ)

namespace Draft

variable {σ : Type}

/-- The field a member belongs to; none in a member with a broken name. -/
def field? (fields : List (String × Shape σ)) (key : Option String) :
    Option (Option (String × Shape σ)) :=
  key.map fun k => fields.find? (·.1 = k)

/-- Whether no known field is given twice. -/
def distinct (fields : List (String × Shape σ)) (members : List (Option String × Draft)) : Bool :=
  fields.all fun f => (members.filter (·.1 = some f.1)).length ≤ 1

mutual

/-- The value of a draft that has a shape, with arrays and objects at most `depth` deep. -/
def conform? (g : Grammar σ) (depth : Nat) (shape : Shape σ) : Draft → Option Json
  | .obj members =>
    match shape with
    | .record name =>
      if depth = 0 || !distinct (g name) members then none
      else (conformMembers? g (depth - 1) (g name) members).map fun ms =>
        Json.ofDict (Dict.ofList ms)
    | .choice => if 1 < members.length then none else toJson? depth (.obj members)
    | _ => toJson? depth (.obj members)
  | .arr items =>
    match shape with
    | .record name =>
      if depth = 0 || (g name).length < items.length then none
      else (conformFields? g (depth - 1) (g name) items).map fun ms =>
        Json.ofDict (Dict.ofList ms)
    | .records name =>
      if depth = 0 then none else (conformItems? g (depth - 1) name items).map .arr
    | _ => toJson? depth (.arr items)
  | d => toJson? depth d

def conformMembers? (g : Grammar σ) (depth : Nat) (fields : List (String × Shape σ)) :
    List (Option String × Draft) → Option (List (String × Json))
  | [] => some []
  | (key, d) :: rest => do
    match ← field? fields key with
    | none => conformMembers? g depth fields rest
    | some (k, shape) =>
      let v ← conform? g depth shape d
      let vs ← conformMembers? g depth fields rest
      some ((k, v) :: vs)

def conformFields? (g : Grammar σ) (depth : Nat) (fields : List (String × Shape σ)) :
    List Draft → Option (List (String × Json))
  | [] => some []
  | d :: rest =>
    match fields with
    | [] => none
    | (k, shape) :: fields => do
      let v ← conform? g depth shape d
      let vs ← conformFields? g depth fields rest
      some ((k, v) :: vs)

def conformItems? (g : Grammar σ) (depth : Nat) (name : σ) : List Draft → Option (List Json)
  | [] => some []
  | d :: rest => do
    let v ← conform? g depth (.record name) d
    let vs ← conformItems? g depth name rest
    some (v :: vs)

end

end Draft

def readRecord? {σ : Type} (g : Grammar σ) (name : σ) (text : String) : Option Json :=
  (Draft.read? text).bind (·.conform? g maxDepth (.record name))

end Resilience.Json
