import Resilience.Dict

/-!
Finite sets of names, listed in increasing order.
-/

namespace Resilience

abbrev Names := Dict Unit

namespace Names

def ofList (names : List String) : Names := Dict.ofList (names.map (·, ()))

def toList (names : Names) : List String := names.keys

def add (names : Names) (name : String) : Names := names.insert name ()

end Names

end Resilience
