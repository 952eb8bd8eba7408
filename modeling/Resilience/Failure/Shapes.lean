import Resilience.Failure.Basic
import Resilience.Failure.Code

/-!
Failures of common shapes, each with its category, code and what is usually known about it.
-/

namespace Resilience.Failure

variable (now : Timestamp)

def ofSystem (message code : String) : Failure := make now message code .system

def ofNetwork (message code : String) : Failure := make now message code .network

def ofFile (message code path : String) : Failure :=
  { make now message code .fileSystem with resource := some path }

def ofInput (message field : String) : Failure :=
  (make now message "VALIDATION_ERROR" .validation).withContext "field" (.str field)

def ofConfiguration (message key : String) : Failure :=
  (make now message "CONFIGURATION_ERROR" .configuration).withContext "configKey" (.str key)

def ofBusinessRule (message code : String) : Failure := make now message code .businessLogic

def ofService (message service : String) : Failure :=
  (make now message "EXTERNAL_SERVICE_ERROR" .externalService).withContext "service" (.str service)

def ofWebsite (message code website : String) : Failure :=
  { make now message code .website with resource := some website }

def websiteNotFound (website : String) : Failure :=
  { make now ("Website " ++ website ++ " does not exist") "WEBSITE_NOT_FOUND" .website with
    severity := .medium
    resource := some website }

def ofServer (message code : String) (port : UInt16) : Failure :=
  (make now message code .server).withContext "port" (.nat port.toNat)

def ofDomainLookup (message domain : String) : Failure :=
  { (make now message "DNS_RESOLUTION_FAILED" .dns).withContext "domain" (.str domain) with
    resource := some domain }

def ofCertificate (message domain : String) : Failure :=
  { make now message "CERTIFICATE_INVALID" .certificate with resource := some domain }

/-- An operation of several steps failed; it is critical unless all of them were undone. -/
def ofSteps (message operation : String) (rolledBack : Bool) (steps : List Failure) : Failure :=
  let f := (make now message "ATOMIC_OPERATION_FAILED" .atomicOperation).withContext
    "rolledBack" (.bool rolledBack)
  { f with
    operation := some operation
    severity := if rolledBack then f.severity else .critical
    inner := steps }

def handlerMissing (channel : String) : Failure :=
  { make now ("No handler registered for '" ++ channel ++ "'") Code.handlerMissing .ipc with
    severity := .high
    operation := some channel }

end Resilience.Failure
