import Resilience.Json.Printer

/-!
Bounded text of values that are reported: nesting is cut off at a depth, and long text at a length.
-/

namespace Resilience.Telemetry

/-- Ends a text that was cut. -/
def truncationMarker : String := "...[truncated]"

/-- At most so many characters, and the marker if there were more. -/
def truncateField (most : Nat) (text : String) : String :=
  let cs := text.toList
  if cs.length ≤ most then text else String.ofList (cs.take most) ++ truncationMarker

/-- Depth at which arrays and objects are replaced. -/
def maxDepth : Nat := 32

def depthPlaceholder : Json := .str "[Max Depth]"

mutual

/-- A value that stands at a depth, without arrays and objects at the greatest depth. -/
def prune (depth : Nat) : Json → Json
  | .arr items => if maxDepth ≤ depth then depthPlaceholder else .arr (pruneItems (depth + 1) items)
  | .obj members =>
    if maxDepth ≤ depth then depthPlaceholder else .obj (pruneMembers (depth + 1) members)
  | v => v

def pruneItems (depth : Nat) : List Json → List Json
  | [] => []
  | v :: rest => prune depth v :: pruneItems depth rest

def pruneMembers (depth : Nat) : List (String × Json) → List (String × Json)
  | [] => []
  | (k, v) :: rest => (k, prune depth v) :: pruneMembers depth rest

end

/-- The compact text of a value; what has no value shows why. -/
def stringify : Except String Json → String
  | .ok v => (prune 0 v).compact
  | .error reason => "[Unserializable: " ++ reason ++ "]"

end Resilience.Telemetry
