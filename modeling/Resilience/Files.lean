import Resilience.Text.Split

/-!
What is found at a path. A folder of files is given by their paths; the folders within it are those
on the way to a file, and around it nothing is known but that folders are there.
-/

namespace Resilience

inductive Found where
  | file (text : String)
  /-- A file that holds no text. -/
  | garbled
  | folder
  | nothing
  /-- What should be a folder on the way is a file. -/
  | blocked

abbrev Disk := String → Found

namespace Disk

/-- The names on a path, from its beginning to its end. -/
def parts (path : String) : List String :=
  (Text.runs (· = '/') path.toList).map String.ofList

/-- Whether a part of a path stays where it is. -/
def stays (part : String) : Bool := part = "" || part = "."

/-- Files and their texts, by the names on the way to them. -/
abbrev Tree := List (List String × String)

/-- What has these names on the way to it. -/
def standing (tree : Tree) (names : List String) : Found :=
  match tree.find? (·.1 = names) with
  | some (_, text) => .file text
  | none =>
    if names.isEmpty || tree.any fun (way, _) => names.isPrefixOf way then .folder else .nothing

/-- Goes on from a place, which is outside the tree if it has no names. -/
def walk (tree : Tree) : Option (List String) → List String → Found
  | none, [] => .folder
  | none, part :: rest => if stays part || part = ".." then walk tree none rest else .nothing
  | some names, [] => standing tree names
  | some names, part :: rest =>
    match standing tree names with
    | .folder =>
      if stays part then walk tree (some names) rest
      else if part = ".." then
        walk tree (if names.isEmpty then none else some names.dropLast) rest
      else walk tree (some (names ++ [part])) rest
    | .file _ => .blocked
    | found => found

/-- The disk of somebody who is in a folder with these files. The last one with a path counts. -/
def ofFiles (files : List (String × String)) : Disk := fun path =>
  let tree := files.reverse.map fun (name, text) => ((parts name).filter (!stays ·), text)
  match parts path with
  | [""] => .nothing
  | "" :: rest => walk tree none rest
  | way => walk tree (some []) way

end Disk

end Resilience
