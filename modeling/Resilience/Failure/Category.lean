/-!
What kind of failure it is and how serious, and the names of both.
-/

namespace Resilience

inductive Category where
  | system
  | network
  | fileSystem
  | validation
  | configuration
  | businessLogic
  | externalService
  | website
  | server
  | dns
  | certificate
  | atomicOperation
  | ipc
deriving DecidableEq

/-- From least to most serious. -/
inductive Severity where
  | low
  | medium
  | high
  | critical
deriving DecidableEq

/-- A name that stands for nothing. -/
inductive UnknownName where
  | category (name : String)
  | severity (name : String)
  | environment (name : String)
deriving DecidableEq

def UnknownName.message : UnknownName → String
  | .category name => "unknown error category: " ++ name
  | .severity name => "unknown severity: " ++ name
  | .environment name => "unknown environment: " ++ name

namespace Severity

def all : List Severity := [.low, .medium, .high, .critical]

def name : Severity → String
  | low => "LOW"
  | medium => "MEDIUM"
  | high => "HIGH"
  | critical => "CRITICAL"

def rank : Severity → Nat
  | low => 0
  | medium => 1
  | high => 2
  | critical => 3

instance : LE Severity := ⟨fun a b => a.rank ≤ b.rank⟩
instance : DecidableRel (α := Severity) (· ≤ ·) := fun a b => inferInstanceAs (Decidable (a.rank ≤ b.rank))

def ofName? (name : String) : Except UnknownName Severity :=
  match all.find? (·.name = name) with
  | some s => .ok s
  | none => .error (.severity name)

theorem ofName?_name (s : Severity) : ofName? s.name = .ok s := by cases s <;> rfl

end Severity

namespace Category

def all : List Category :=
  [.system, .network, .fileSystem, .validation, .configuration, .businessLogic,
    .externalService, .website, .server, .dns, .certificate, .atomicOperation, .ipc]

def name : Category → String
  | system => "SYSTEM"
  | network => "NETWORK"
  | fileSystem => "FILE_SYSTEM"
  | validation => "VALIDATION"
  | configuration => "CONFIGURATION"
  | businessLogic => "BUSINESS_LOGIC"
  | externalService => "EXTERNAL_SERVICE"
  | website => "WEBSITE"
  | server => "SERVER"
  | dns => "DNS"
  | certificate => "CERTIFICATE"
  | atomicOperation => "ATOMIC_OPERATION"
  | ipc => "IPC"

/-- What a failure of this category is called unless it has a name of its own. -/
def typeName : Category → String
  | system => "SystemError"
  | network => "NetworkError"
  | fileSystem => "FileSystemError"
  | validation => "ValidationError"
  | configuration => "ConfigurationError"
  | businessLogic => "BusinessLogicError"
  | externalService => "ExternalServiceError"
  | website => "WebsiteError"
  | server => "ServerError"
  | dns => "DnsError"
  | certificate => "CertificateError"
  | atomicOperation => "AtomicOperationError"
  | ipc => "IpcError"

def defaultSeverity : Category → Severity
  | system | server | certificate | atomicOperation => .high
  | _ => .medium

def ofName? (name : String) : Except UnknownName Category :=
  match all.find? (·.name = name) with
  | some c => .ok c
  | none => .error (.category name)

theorem ofName?_name (c : Category) : ofName? c.name = .ok c := by cases c <;> rfl

end Category

end Resilience
