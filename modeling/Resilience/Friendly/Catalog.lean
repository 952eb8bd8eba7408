import Resilience.Failure.Basic
import Resilience.Failure.Code

/-!
Templates of what a user is told, and the catalog that finds one by its key.
-/

namespace Resilience

/-- What a template can draw on. -/
structure Template.Context where
  channel : Option String := none
  operation : Option String := none
  resource : Option String := none
  filename : Option String := none
  retryCount : UInt32 := 0
  maxRetries : Option UInt32 := none
  details : Dict Json := Dict.empty

namespace Template.Context

/-- An entry of the details as text. Arrays, objects and null have none. -/
def detail (c : Context) (key : String) : Option String :=
  match c.details.get? key with
  | some (.str s) => some s
  | some (.num n) => some n.text
  | some (.bool b) => some (toString b)
  | _ => none

/-- The file by its name, or as the requested one, which is capitalized at the start of a
sentence. -/
def file (c : Context) (atStart : Bool) : String :=
  match c.filename with
  | some name => "\"" ++ name ++ "\""
  | none => if atStart then "The requested file" else "the requested file"

end Template.Context

/-- A fixed text or a function of the context, which may fail. -/
inductive Template.Text where
  | literal (text : String)
  | computed (render : Template.Context → Option String)

namespace Template.Text

def render (t : Text) (c : Context) : Option String :=
  match t with
  | literal text => some text
  | computed f => f c

/-- A function of the context that does not fail. -/
def total (f : Context → String) : Text := computed fun c => some (f c)

end Template.Text

structure Template where
  title : String
  message : Template.Text
  suggestion : Option Template.Text
  category : Category
  severity : Severity
  retryable : Bool := false
  dismissible : Bool := true

structure Catalog where
  templates : Dict Template

namespace Catalog

open Template (Text)

/-- The key of the template for what has no other. -/
def unknownKey : String := "UNKNOWN"

def unknownTemplate : Template where
  title := "Something Went Wrong"
  message := .literal "An unexpected error occurred."
  suggestion := some (.literal "Try again. If the problem continues, restart the application.")
  category := .system
  severity := .medium
  retryable := true

/-- Nothing but the template for what has no other. -/
def empty : Catalog := ⟨Dict.empty.insert unknownKey unknownTemplate⟩

def insert (c : Catalog) (key : String) (t : Template) : Catalog := ⟨c.templates.insert key t⟩

def get? (c : Catalog) (key : String) : Option Template := c.templates.get? key

@[simp] theorem get?_insert (c : Catalog) (key other : String) (t : Template) :
    (c.insert key t).get? other = if other = key then some t else c.get? other :=
  Dict.get?_insert ..

theorem get?_empty (key : String) :
    empty.get? key = if key = unknownKey then some unknownTemplate else none :=
  Dict.get?_insert ..

def contains (c : Catalog) (key : String) : Bool := c.templates.contains key

def keys (c : Catalog) : List String := c.templates.keys

def unknown (c : Catalog) : Template := (c.get? unknownKey).getD unknownTemplate

/-- A text that names a detail if there is one. -/
def withDetail (key : String) (named : String → String) (otherwise : String) : Text :=
  .total fun c => match c.detail key with
    | some d => named d
    | none => otherwise

def builtinTemplates : List (String × Template) :=
  [("ENOENT", {
      title := "File Not Found"
      message := .total fun c => c.file true ++ " could not be found."
      suggestion := some (.literal "Check that the file exists and has not been moved or renamed.")
      category := .fileSystem
      severity := .medium }),
    ("EACCES", {
      title := "Permission Denied"
      message := .total fun c => "You don't have permission to access " ++ c.file false ++ "."
      suggestion := some (.literal "Check the file permissions or choose a different location.")
      category := .fileSystem
      severity := .high }),
    ("EEXIST", {
      title := "File Already Exists"
      message := .total fun c => c.file true ++ " already exists."
      suggestion := some (.literal "Choose a different name or remove the existing file first.")
      category := .fileSystem
      severity := .low }),
    ("ENOSPC", {
      title := "Disk Full"
      message := .literal "There is not enough disk space to complete this operation."
      suggestion := some (.literal "Free up some disk space and try again.")
      category := .fileSystem
      severity := .high
      retryable := true }),
    ("ECONNREFUSED", {
      title := "Connection Refused"
      message := withDetail "service" (fun s => "Could not connect to " ++ s ++ ".")
        "Could not connect to the server."
      suggestion := some (.literal "Make sure the server is running, then try again.")
      category := .network
      severity := .medium
      retryable := true }),
    ("ETIMEDOUT", {
      title := "Request Timed Out"
      message := .literal "The operation took too long to respond."
      suggestion := some (.total fun c => match c.maxRetries with
        | some most =>
          if 0 < most ∧ most ≤ c.retryCount then
            "Retried " ++ toString most.toNat ++ " times without success. Check your connection."
          else "Check your internet connection and try again."
        | none => "Check your internet connection and try again.")
      category := .network
      severity := .medium
      retryable := true }),
    ("ENOTFOUND", {
      title := "Host Not Found"
      message := .literal "The server address could not be found."
      suggestion := some (.literal "Check the address and your internet connection.")
      category := .network
      severity := .medium
      retryable := true }),
    ("ECONNRESET", {
      title := "Connection Lost"
      message := .literal "The connection was interrupted."
      suggestion := some (.literal "Try again in a moment.")
      category := .network
      severity := .medium
      retryable := true }),
    ("NETWORK_ERROR", {
      title := "Network Error"
      message := .literal "A network problem prevented the operation from completing."
      suggestion := some (.literal "Check your internet connection and try again.")
      category := .network
      severity := .medium
      retryable := true }),
    ("VALIDATION_ERROR", {
      title := "Invalid Input"
      message := withDetail "field" (fun f => "The value for \"" ++ f ++ "\" is not valid.")
        "Some of the information entered is not valid."
      suggestion := some (.literal "Review the highlighted fields and try again.")
      category := .validation
      severity := .low }),
    ("CONFIGURATION_ERROR", {
      title := "Configuration Problem"
      message := withDetail "configKey"
        (fun k => "The setting \"" ++ k ++ "\" is missing or invalid.")
        "The application settings are missing or invalid."
      suggestion := some (.literal "Review your settings or restore the defaults.")
      category := .configuration
      severity := .medium }),
    ("WEBSITE_NOT_FOUND", {
      title := "Website Not Found"
      message := .literal "The website could not be found. It may have been moved or deleted."
      suggestion := some (.literal "Choose another website from the list or create a new one.")
      category := .website
      severity := .medium }),
    ("WEBSITE_BUILD_FAILED", {
      title := "Build Failed"
      message := .literal "The website could not be built."
      suggestion := some (.literal "Check the build output for errors in your content or theme.")
      category := .website
      severity := .high
      retryable := true }),
    ("SCHEMA_PARSE_ERROR", {
      title := "Invalid Website Schema"
      message := .literal "The website's schema could not be read."
      suggestion := some (.literal "Check the schema file for syntax errors.")
      category := .website
      severity := .medium }),
    ("EADDRINUSE", {
      title := "Port In Use"
      message := withDetail "port"
        (fun p => "Port " ++ p ++ " is already in use by another program.")
        "The preview server port is already in use."
      suggestion := some (.literal "Close the other program or pick a different port.")
      category := .server
      severity := .high
      retryable := true }),
    ("DNS_RESOLUTION_FAILED", {
      title := "Domain Lookup Failed"
      message := withDetail "domain" (fun d => "The domain \"" ++ d ++ "\" could not be resolved.")
        "The domain could not be resolved."
      suggestion := some (.literal "DNS changes can take a while to propagate. Try again later.")
      category := .dns
      severity := .medium
      retryable := true }),
    ("CERTIFICATE_INVALID", {
      title := "Certificate Problem"
      message := .literal "The security certificate is invalid or has expired."
      suggestion := some (.literal "Renew the certificate or check the domain settings.")
      category := .certificate
      severity := .high }),
    ("ATOMIC_OPERATION_FAILED", {
      title := "Operation Incomplete"
      message := .total fun c =>
        if c.detail "rolledBack" = some "true" then
          "The operation failed and all changes were undone."
        else "The operation failed part-way through."
      suggestion := some (.literal "Review recent changes before trying again.")
      category := .atomicOperation
      severity := .high
      dismissible := false }),
    (Code.handlerMissing, {
      title := "Feature Unavailable"
      message := .literal "This feature is not available right now."
      suggestion := some (.literal "Restart the application and try again.")
      category := .ipc
      severity := .high })]

def builtin : Catalog :=
  builtinTemplates.foldl (fun c (key, t) => c.insert key t) empty

end Catalog

end Resilience
