import Resilience.Dict
import Resilience.Toml.Basic

/-!
Tables that are being filled. A table is opened by a header once; it is implied by the headers of
tables within it, or by dotted keys, and each of these ways keeps the others out.
-/

namespace Resilience.Toml

/-- A dotted key: the path to a table, and a name in it. -/
structure Key where
  path : List String
  name : String

/-- How a table came to be. -/
inductive Origin where
  | header
  /-- By the header of a table within it. -/
  | implied
  | dotted
deriving DecidableEq

inductive Branch where
  | leaf (value : Toml)
  | table (origin : Origin) (members : List (String × Branch))
  /-- An array of tables, last first. -/
  | tables (done : List (List (String × Branch)))

namespace Branch

abbrev Members := List (String × Branch)

def replace (key : String) (b : Branch) (ms : Members) : Members :=
  ms.map fun (k, old) => (k, if k = key then b else old)

/-- Changes the table at the end of a path. Tables on the path that are not there yet are made. An
array of tables is entered at its last one. A dotted key does not enter what a header opened. -/
def within (dotted : Bool) (change : Origin → Members → Option Members) :
    List String → Origin → Members → Option Members
  | [], origin, ms => change origin ms
  | key :: path, _, ms =>
    match Dict.lookup key ms with
    | none =>
      let origin := if dotted then Origin.dotted else .implied
      (within dotted change path origin []).map fun inner => ms ++ [(key, .table origin inner)]
    | some (.leaf _) | some (.tables []) => none
    | some (.tables (last :: before)) =>
      (within dotted change path .header last).map fun last =>
        replace key (.tables (last :: before)) ms
    | some (.table origin inner) =>
      if dotted && origin = .header then none
      else (within dotted change path origin inner).map fun inner =>
        replace key (.table origin inner) ms

/-- Gives a name a value. A dotted key ends in a table of dotted keys. -/
def assign (key : Key) (value : Toml) : Origin → Members → Option Members :=
  within true (fun origin ms =>
    if origin = .dotted ↔ key.path = [] then none
    else if (Dict.lookup key.name ms).isSome then none
    else some (ms ++ [(key.name, .leaf value)])) key.path

def openTable (key : Key) : Members → Option Members :=
  within false (fun _ ms =>
    match Dict.lookup key.name ms with
    | none => some (ms ++ [(key.name, .table .header [])])
    | some (.table .implied inner) => some (replace key.name (.table .header inner) ms)
    | some _ => none) key.path .header

/-- Opens the next table of an array of tables. -/
def openNext (key : Key) : Members → Option Members :=
  within false (fun _ ms =>
    match Dict.lookup key.name ms with
    | none => some (ms ++ [(key.name, .tables [[]])])
    | some (.tables done) => some (replace key.name (.tables ([] :: done)) ms)
    | some _ => none) key.path .header

mutual

def toToml : Branch → Toml
  | .leaf value => value
  | .table _ members => .table (membersToToml members)
  | .tables done => .array (tablesToToml done).reverse

def membersToToml : List (String × Branch) → List (String × Toml)
  | [] => []
  | (key, b) :: rest => (key, toToml b) :: membersToToml rest

def tablesToToml : List (List (String × Branch)) → List Toml
  | [] => []
  | members :: rest => .table (membersToToml members) :: tablesToToml rest

end

end Branch

end Resilience.Toml
