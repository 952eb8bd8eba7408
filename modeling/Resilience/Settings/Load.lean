import Resilience.Files
import Resilience.Settings.Decode
import Resilience.Settings.Layers
import Resilience.Text.Shown

/-!
Settings from a file, with variables of the environment over it.
-/

namespace Resilience

inductive LoadError where
  | notFound (path : String)
  /-- A path that is no text, with what can be shown of it. -/
  | invalidPath (shown : String)
  /-- The file cannot be read, or what it says cannot be understood. -/
  | unusable
deriving DecidableEq

def LoadError.message : LoadError → String
  | notFound path => "configuration file not found: " ++ path
  | invalidPath shown => "invalid configuration path: " ++ shown
  | unusable => "failed to load configuration"

namespace Settings

def extension : String := ".toml"

/-- Whether the last name on a path has the extension, and something before it. -/
def isDocument (path : String) : Bool :=
  let name := (Disk.parts path).getLastD ""
  name.endsWith extension && name != extension

/-- The document beside a folder, which has the name of the folder. -/
def beside? (path : String) : Option String :=
  match (Disk.parts path).reverse.dropWhile Disk.stays with
  | [] => none
  | name :: above =>
    if name = ".." then none else some ("/".intercalate (name :: above).reverse ++ extension)

/-- The text of the document that a path leads to. -/
def document (disk : Disk) (path : String) : Except LoadError String :=
  match disk path with
  | .nothing | .blocked => .error (.notFound path)
  | .garbled => .error .unusable
  | .file text => if isDocument path then .ok text else .error .unusable
  | .folder => match (beside? path).map disk with
    | some (.file text) => .ok text
    | _ => .error .unusable

/-- The settings that a text and the environment describe, converted where need be. -/
def layered? (environment : List (String × String)) (text : String) : Option Settings := do
  let document ← Toml.ofText? (String.ofList (Toml.dropMark text.toList))
  decode? Conversion.lenient (Layers.withVariables environment (Layers.ofDocument document))

def load (disk : Disk) (environment : List (String × String)) (path : String) :
    Except LoadError Settings := do
  let text ← document disk path
  match layered? environment text with
  | some s => .ok s
  | none => .error .unusable

/-- Loads from a path that is given by its bytes. -/
def loadBytes (disk : Disk) (environment : List (String × String)) (path : List UInt8) :
    Except LoadError Settings :=
  match String.fromUTF8? ⟨path.toArray⟩ with
  | some text => load disk environment text
  | none => .error (.invalidPath (Text.shownBytes path))

end Settings

end Resilience
