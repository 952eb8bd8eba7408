import Resilience.Friendly.Terminal
import Resilience.Logging
import Resilience.Text.Shown

/-!
What a command tells about its work, and which of it is shown.
-/

namespace Resilience.Command

/-- A line for those who look for mistakes. -/
structure LogLine where
  /-- The part of the program that it comes from. -/
  target : String
  message : String
  fields : List (String × String)

namespace LogLine

def program : String := "sitecraft"

def valid (code : String) : LogLine :=
  ⟨program, "serialized error is valid", [("code", code)]⟩

def translating (code key : String) : LogLine :=
  ⟨program ++ "::translate::translator", "translating error",
    [("code", Text.shown code), ("key", key)]⟩

def styled (color : Bool) (style text : String) : String :=
  if color then Terminal.control style ++ text ++ Terminal.control "0" else text

/-- The line as it is shown, after a point of time if there is one. -/
def render (color target : Bool) (time : Option String) (l : LogLine) : String :=
  let dim := styled color "2"
  let time := match time with
    | some text => dim text ++ " "
    | none => ""
  let origin := if target then dim l.target ++ dim ":" ++ " " else ""
  let fields := l.fields.map fun (name, value) =>
    " " ++ styled color "3" name ++ dim "=" ++ value
  time ++ styled color "34" "DEBUG" ++ " " ++ origin ++ l.message ++ String.join fields ++ "\n"

end LogLine

/-- Up to which level lines are shown, by the beginning of where they come from. -/
abbrev LogFilter := List (String × LogLevel)

namespace LogFilter

def ofLevel (level : LogLevel) : LogFilter := [("", level)]

/-- A level by its name in any case or by its rank; a level without a name is that of errors. -/
def level? (text : String) : Option LogLevel :=
  let name := String.ofList (text.toList.map Char.toLower)
  if name = "" then some .error
  else LogLevel.all.find? fun l => l.name = name || toString l.rank = name

/-- A level for everything, or a target with a level, which is the highest if it is left out. -/
def directive? (text : String) : Option (String × LogLevel) :=
  match (Text.runs (· = '=') text.toList).map String.ofList with
  | [one] => some (match level? one with
    | some level => ("", level)
    | none => (one, .trace))
  | [target, level] => (level? level).map (target, ·)
  | _ => none

/-- Directives with commas between them; those that make no sense are skipped. -/
def ofText (text : String) : LogFilter :=
  let parts := (Text.runs (· = ',') text.toList).filter (!·.isEmpty)
  match parts.filterMap fun part => directive? (String.ofList part) with
  | [] => ofLevel .error
  | directives => directives

/-- The longest beginning of a target decides, and of several the last one. -/
def shows (f : LogFilter) (level : LogLevel) (target : String) : Bool :=
  let fits := f.filter fun d => target.startsWith d.1
  let best := fits.foldl (fun best d => match best with
    | some b => if d.1.length < b.1.length then some b else some d
    | none => some d) (none : Option (String × LogLevel))
  best.any fun d => level.rank ≤ d.2.rank

end LogFilter

end Resilience.Command
