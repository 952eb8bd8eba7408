import Resilience.Binary64.Decimal
import Resilience.Dict
import Resilience.Text.Chars
import Resilience.Toml.Basic

/-!
Settings in layers: a document, and variables of the environment over it. The names of settings are
in lower case, whatever the layers say.
-/

namespace Resilience.Layers

/-- A step down into a value. An item is counted from the end if its number is negative. -/
inductive Step where
  | member (name : String)
  | item (index : Int)

/-! ## Places -/

def isNameChar (c : Char) : Bool := c.isAlphanum || c = ' ' || c = '_' || c = '-'

/-- A number in brackets, after the opening one. -/
def index? (cs : List Char) : Option (Int × List Char) := do
  let (negative, digits) := match cs.dropWhile Toml.isBlank with
    | '-' :: rest => (true, rest)
    | rest => (false, rest)
  let number := digits.takeWhile Char.isDigit
  guard (!number.isEmpty)
  let n := Text.digitsValue number
  match (digits.dropWhile Char.isDigit).dropWhile Toml.isBlank with
  | ']' :: rest => some (if negative then -(n : Int) else n, rest)
  | _ => none

/-- Names after points and numbers in brackets, at most so many. -/
def steps? : Nat → List Char → Option (List Step)
  | _, [] => some []
  | 0, _ :: _ => none
  | fuel + 1, '.' :: rest =>
    let name := rest.takeWhile isNameChar
    if name.isEmpty then none
    else (steps? fuel (rest.dropWhile isNameChar)).map (.member (String.ofList name) :: ·)
  | fuel + 1, '[' :: rest => do
    let (n, rest) ← index? rest
    (steps? fuel rest).map (.item n :: ·)
  | _, _ => none

/-- The place that a text describes. A text that describes none is the name of a member. -/
def place (text : String) : List Step :=
  (steps? (text.length + 1) ('.' :: text.toList)).getD [.member text]

/-! ## Putting values in places -/

/-- A value without points of time, which are texts here. -/
def plain : Toml → Toml
  | .time t => .text t
  | .array items => .array (plainItems items)
  | .table members => .table (plainMembers members)
  | v => v
where
  plainItems : List Toml → List Toml
    | [] => []
    | v :: rest => plain v :: plainItems rest
  plainMembers : List (String × Toml) → List (String × Toml)
    | [] => []
    | (k, v) :: rest => (k, plain v) :: plainMembers rest

def members : Toml → List (String × Toml)
  | .table ms => ms
  | _ => []

def items : Toml → List Toml
  | .array vs => vs
  | _ => []

/-- Gives a member a value; the name is put in lower case. -/
def assign (name : String) (value : Toml) (ms : List (String × Toml)) : List (String × Toml) :=
  let name := Text.lower name
  if (Dict.lookup name ms).isSome then ms.map fun (k, old) => (k, if k = name then value else old)
  else ms ++ [(name, value)]

def member? (name : String) (v : Toml) : Option Toml := Dict.lookup (Text.lower name) (members v)

mutual

/-- The members of a table are put over those that are there; any other value takes the place of
what is there. -/
def merge (old : Toml) : Toml → Toml
  | .table ms => mergeMembers old ms
  | v => v

def mergeMembers (old : Toml) : List (String × Toml) → Toml
  | [] => old
  | (name, v) :: rest =>
    let inner := merge ((member? name old).getD (.table [])) v
    mergeMembers (.table (assign name inner (members old))) rest

end

/-- The position of an item in a list with so many of them. -/
def position (length : Nat) (index : Int) : Nat :=
  if 0 ≤ index then index.toNat else length - index.natAbs

/-- Puts a value in a place. What is of another kind than the place asks for gives way, and a list
is filled up with empty tables. -/
def put (value : Toml) : List Step → Toml → Toml
  | [], old => merge old value
  | .member name :: rest, old =>
    .table (assign name (put value rest ((member? name old).getD (.table []))) (members old))
  | .item index :: rest, old =>
    let n := position (items old).length index
    let filled := items old ++ List.replicate (n + 1 - (items old).length) (.table [])
    .array (filled.modify n (put value rest))

/-! ## Layers -/

/-- The members of a document, each in its place. -/
def ofDocument (document : Toml) : Toml :=
  (members (plain document)).foldl (fun root (name, v) => put v (place name) root) (.table [])

/-- An integer of 64 bits, one of which is its sign. -/
def int? (cs : List Char) : Option Int :=
  let (negative, digits) := Binary64.sign cs
  let n : Int := Text.digitsValue digits
  let n := if negative then -n else n
  if !digits.isEmpty ∧ digits.all Char.isDigit ∧ Int64.minValue.toInt ≤ n ∧ n ≤ Int64.maxValue.toInt then some n else none

/-- The value of a variable: a truth value, an integer or another number if it reads so. -/
def ofVariable (text : String) : Toml :=
  let word := text.toList.map Char.toLower
  if word = "true".toList then .bool true
  else if word = "false".toList then .bool false
  else match int? text.toList, Binary64.ofChars? text.toList with
    | some n, _ => .int n
    | none, some x => .float x
    | none, none => .text text

/-- Two underscores lead down to a member. -/
def dotted : List Char → List Char
  | '_' :: '_' :: rest => '.' :: dotted rest
  | c :: rest => c :: dotted rest
  | [] => []

/-- How the name of a variable begins that is a setting. -/
def variableMark : String := "sitecraft__"

/-- The place of a variable, if it is a setting. -/
def setting? (name : String) : Option String :=
  let name := (Text.lower name).toList
  if variableMark.toList.isPrefixOf name then
    some (String.ofList (dotted (name.drop variableMark.length)))
  else none

/-- Puts variables over a layer. Of two variables for one place, the later one counts. -/
def withVariables (environment : List (String × String)) (layer : Toml) : Toml :=
  let settings := environment.filterMap fun (name, text) => (setting? name).map (·, text)
  (Dict.ofList settings).entries.foldl
    (fun root (name, text) => put (ofVariable text) (place name) root) layer

end Resilience.Layers
