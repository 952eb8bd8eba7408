import Resilience.Friendly.Basic

/-!
Friendly failures on a terminal, with colours or without.
-/

namespace Resilience

/-- Shares of red, green and blue. -/
structure Color where
  red : Nat
  green : Nat
  blue : Nat

structure Theme where
  error : Color := ⟨239, 68, 68⟩
  warning : Color := ⟨234, 179, 8⟩
  info : Color := ⟨59, 130, 246⟩
  suggestion : Color := ⟨34, 197, 94⟩
  muted : Color := ⟨107, 114, 128⟩

def Theme.forSeverity (t : Theme) : Severity → Color
  | .critical | .high => t.error
  | .medium => t.warning
  | .low => t.info

namespace Terminal

/-- A control sequence. -/
def control (parameters : String) : String := "\x1b[" ++ parameters ++ "m"

def colored (c : Color) (text : String) : String :=
  control ("38;2;" ++ toString c.red ++ ";" ++ toString c.green ++ ";" ++ toString c.blue) ++
    text ++ control "39"

def bold (text : String) : String := control "1" ++ text ++ control "0"

/-- Red and bold. -/
def alarm (text : String) : String := bold (control "31" ++ text ++ control "39")

/-- A line without the carriage return that ends it. -/
def trimReturn (line : List Char) : List Char :=
  if line.getLast? = some '\r' then line.dropLast else line

/-- The lines of a text, each without its line break. What follows the last line break is a line if
it is not empty. -/
def lines (text : List Char) : List (List Char) :=
  let pieces := Text.runs (· = '\n') text
  pieces.dropLast.map trimReturn ++ (pieces.getLast?.filter (!·.isEmpty)).toList

/-- The text in a colour, if there are colours. -/
def paint (color : Bool) (c : Color) (text : String) : String :=
  if color then colored c text else text

/-- What a user can do about a failure. -/
def actions (f : Friendly) : List String :=
  (if f.retryable then ["retry"] else []) ++ (if f.dismissible then ["dismiss"] else [])

/-- Title and code. -/
def heading (theme : Theme) (color : Bool) (f : Friendly) : String :=
  let title := paint color (theme.forSeverity f.severity) f.title
  (if color then bold title else title) ++ " " ++
    paint color theme.muted ("[" ++ f.code ++ "]") ++ "\n"

def suggestionLine (theme : Theme) (color : Bool) (f : Friendly) : String :=
  match f.suggestion with
  | some s => paint color theme.suggestion s ++ "\n"
  | none => ""

def actionsLine (f : Friendly) : String :=
  match actions f with
  | [] => ""
  | list => "Actions: " ++ ", ".intercalate list ++ "\n"

def detailLine (theme : Theme) (color : Bool) (line : List Char) : String :=
  "  " ++ paint color theme.muted (String.ofList line) ++ "\n"

/-- The lines of the technical text, if it is asked for. -/
def details (theme : Theme) (color : Bool) (f : Friendly) : String :=
  if f.showDetails then
    "\n" ++ String.join ((lines f.technical.toList).map (detailLine theme color))
  else ""

def render (theme : Theme) (color : Bool) (f : Friendly) : String :=
  heading theme color f ++ f.message ++ "\n" ++ suggestionLine theme color f ++ actionsLine f ++
    details theme color f

end Terminal

end Resilience
