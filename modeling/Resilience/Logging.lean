import Resilience.Json.Basic

/-!
How much is written to the log, and how a line looks.
-/

namespace Resilience

/-- From nothing to everything. -/
inductive LogLevel where
  | off
  | error
  | warn
  | info
  | debug
  | trace
deriving DecidableEq

namespace LogLevel

def name : LogLevel → String
  | off => "off"
  | error => "error"
  | warn => "warn"
  | info => "info"
  | debug => "debug"
  | trace => "trace"

def all : List LogLevel := [off, error, warn, info, debug, trace]

def ofName? (name : String) : Option LogLevel := all.find? (·.name = name)

def rank : LogLevel → Nat
  | off => 0
  | error => 1
  | warn => 2
  | info => 3
  | debug => 4
  | trace => 5

/-- The level that is so many steps above; there is none above everything. -/
def raised (l : LogLevel) (steps : Nat) : LogLevel := (all.drop (l.rank + steps)).headD trace

end LogLevel

structure Logging where
  level : LogLevel := .info
  /-- Whether a line says where it comes from. -/
  target : Bool := true
  timestamps : Bool := false

namespace Logging

def raised (l : Logging) (steps : Nat) : Logging := { l with level := l.level.raised steps }

def toJson (l : Logging) : Json :=
  .obj [("level", .str l.level.name), ("target", .bool l.target),
    ("timestamps", .bool l.timestamps)]

end Logging

end Resilience
