import Resilience.Json.Basic
import Resilience.Json.Token

/-!
JSON text as it is written: members in their order and perhaps repeated. A draft becomes a value
when nothing in it is out of range; a repeated member counts with its last value.
-/

namespace Resilience.Json

inductive Draft where
  | null
  | bool (value : Bool)
  | num (value : Option Number)
  | str (value : Option String)
  | arr (items : List Draft)
  | obj (members : List (Option String × Draft))
deriving Inhabited

namespace Draft

/-- An array or object that is open, last item first. -/
inductive Frame where
  | items (done : List Draft)
  | members (done : List (Option String × Draft)) (key : Option String)

/-- What may come next. -/
inductive Expect where
  | value
  | valueOrClose
  | key (done : List (Option String × Draft))
  | keyOrClose
  | colon (done : List (Option String × Draft)) (key : Option String)
  | commaOrClose (last : Draft)

structure Assembly where
  frames : List Frame
  expect : Expect

/-- A finished value takes its place in the innermost open container. -/
def Assembly.finish (frames : List Frame) (d : Draft) : Assembly := ⟨frames, .commaOrClose d⟩

def Assembly.value (a : Assembly) : Token → Option Assembly
  | .null => some (.finish a.frames .null)
  | .bool b => some (.finish a.frames (.bool b))
  | .num n => some (.finish a.frames (.num n))
  | .str s => some (.finish a.frames (.str s))
  | .leftBracket => some ⟨.items [] :: a.frames, .valueOrClose⟩
  | .leftBrace => some ⟨a.frames, .keyOrClose⟩
  | _ => none

def Assembly.step (a : Assembly) (t : Token) : Option Assembly :=
  match a.expect, t, a.frames with
  | .value, t, _ => a.value t
  | .valueOrClose, .rightBracket, .items _ :: frames => some (.finish frames (.arr []))
  | .valueOrClose, t, _ => a.value t
  | .keyOrClose, .rightBrace, frames => some (.finish frames (.obj []))
  | .keyOrClose, .str k, frames => some ⟨frames, .colon [] k⟩
  | .key done, .str k, frames => some ⟨frames, .colon done k⟩
  | .colon done k, .colon, frames => some ⟨.members done k :: frames, .value⟩
  | .commaOrClose v, .comma, .items done :: frames => some ⟨.items (v :: done) :: frames, .value⟩
  | .commaOrClose v, .comma, .members done k :: frames => some ⟨frames, .key ((k, v) :: done)⟩
  | .commaOrClose v, .rightBracket, .items done :: frames =>
    some (.finish frames (.arr (v :: done).reverse))
  | .commaOrClose v, .rightBrace, .members done k :: frames =>
    some (.finish frames (.obj ((k, v) :: done).reverse))
  | _, _, _ => none

/-- The draft that the tokens spell, if they spell exactly one. -/
def ofTokens? (tokens : List Token) : Option Draft := do
  let a ← tokens.foldlM Assembly.step ⟨[], .value⟩
  match a.frames, a.expect with
  | [], .commaOrClose d => some d
  | _, _ => none

def read? (text : String) : Option Draft := (Token.scan text.toList).bind ofTokens?

mutual

/-- The value of a draft whose arrays and objects are nested at most `depth` deep. -/
def toJson? (depth : Nat) : Draft → Option Json
  | .null => some .null
  | .bool b => some (.bool b)
  | .num n => n.map .num
  | .str s => s.map .str
  | .arr items => if depth = 0 then none else (toItems? (depth - 1) items).map .arr
  | .obj members =>
    if depth = 0 then none
    else (toMembers? (depth - 1) members).map fun ms => Json.ofDict (Dict.ofList ms)

def toItems? (depth : Nat) : List Draft → Option (List Json)
  | [] => some []
  | d :: rest => do
    let v ← toJson? depth d
    let vs ← toItems? depth rest
    some (v :: vs)

def toMembers? (depth : Nat) : List (Option String × Draft) → Option (List (String × Json))
  | [] => some []
  | (k, d) :: rest => do
    let k ← k
    let v ← toJson? depth d
    let vs ← toMembers? depth rest
    some ((k, v) :: vs)

end

end Draft

/-- Deepest nesting of a text that is read. -/
def maxDepth : Nat := 127

/-- Reads a text that spells one value. -/
def read? (text : String) : Option Json := (Draft.read? text).bind (·.toJson? maxDepth)

/-- Reads a text that spells one value, however deep. -/
def readDeep? (text : String) : Option Json :=
  (Draft.read? text).bind (·.toJson? text.length)

end Resilience.Json
