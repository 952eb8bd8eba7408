import Resilience.Failure.Category
import Resilience.Text.Split

/-!
Codes that are known by name, and how one is found in a message.
-/

namespace Resilience.Code

def unknown : String := "UNKNOWN_ERROR"

/-- The code of what was thrown without being an error. -/
def nonErrorValue : String := "NON_ERROR_VALUE"

/-- The code of what could not be decoded. -/
def invalidPayload : String := "INVALID_PAYLOAD"

/-- The code of a channel that has no route. -/
def handlerMissing : String := "IPC_HANDLER_MISSING"

def known : List (String × Category) :=
  [("ENOENT", .fileSystem), ("EACCES", .fileSystem), ("EPERM", .fileSystem),
    ("EEXIST", .fileSystem), ("ENOSPC", .fileSystem), ("EISDIR", .fileSystem),
    ("ENOTDIR", .fileSystem), ("ENOTEMPTY", .fileSystem), ("EMFILE", .fileSystem),
    ("EBUSY", .fileSystem), ("EROFS", .fileSystem),
    ("ECONNREFUSED", .network), ("ECONNRESET", .network), ("ECONNABORTED", .network),
    ("ETIMEDOUT", .network), ("ENOTFOUND", .network), ("EAI_AGAIN", .network),
    ("EPIPE", .network), ("EHOSTUNREACH", .network), ("ENETUNREACH", .network),
    ("EADDRINUSE", .server), (invalidPayload, .ipc)]

def category? (code : String) : Option Category :=
  (known.find? (·.1 = code)).map (·.2)

def isCodeChar (c : Char) : Bool := c.isAlphanum || c = '_'

/-- The first known code that stands in the message as a word of its own. -/
def infer? (message : String) : Option String :=
  ((Text.runs (!isCodeChar ·) message.toList).map String.ofList).find? fun t => (category? t).isSome

end Resilience.Code
