import Resilience.Text.Pattern

/-!
Rules that find the key of a message by its wording. They are tried in order, so the exact name of
an error comes before general words.
-/

namespace Resilience

open Text (Pattern)

structure Rule where
  /-- Whether the rule is for a message. -/
  fits : String → Bool
  key : String
  description : String

namespace Rule

/-- A rule for the messages in which a pattern occurs. -/
def ofPattern (p : Pattern) (key description : String) : Rule := ⟨p.occursIn, key, description⟩

def classify (rules : List Rule) (message : String) : Option String :=
  (rules.find? (·.fits message)).map (·.key)

/-- The test for a pattern of letters and blanks, which may begin with a mark for letters of any
case. An opening bracket makes no pattern. -/
def pattern? (source : String) : Option (String → Bool) :=
  let mark := "(?i)".toList
  let cs := source.toList
  if mark.isPrefixOf cs then
    let rest := cs.drop 4
    if rest.contains '(' then none
    else some (Pattern.letters (String.ofList (rest.map Char.toLower))).occursIn
  else if cs.contains '(' then none
  else some (Pattern.exactly source).occursIn

open Text.Pattern

def builtin : List Rule :=
  -- Names of errors and their usual wording.
  [.ofPattern (word "econnrefused" <|> phrase ["connection", "refused"])
      "ECONNREFUSED" "Connection refused",
    .ofPattern (word "econnreset" <|>
        letters "connection" ++ blanks ++ optional (letters "was" ++ blanks) ++ letters "reset" <|>
        phrase ["socket", "hang", "up"])
      "ECONNRESET" "Connection reset",
    .ofPattern (word "etimedout" <|>
        boundary ++ letters "time" ++ optional (letters "d") ++ many Text.isBlank ++
          letters "out" ++ boundary)
      "ETIMEDOUT" "Operation timed out",
    .ofPattern (word "enotfound" <|> letters "getaddrinfo")
      "ENOTFOUND" "Host lookup failed",
    .ofPattern (word "eaddrinuse" <|> phrase ["address", "already", "in", "use"] <|>
        letters "port" ++ blanks ++ oneOrMore Text.isDigit ++ blanks ++ letters "is" ++ blanks ++
          optional (letters "already" ++ blanks) ++ phrase ["in", "use"])
      "EADDRINUSE" "Port already in use",
    .ofPattern (word "enoent" <|> phrase ["no", "such", "file"] <|> phrase ["file", "not", "found"])
      "ENOENT" "Missing file",
    .ofPattern (word "eacces" <|> word "eperm" <|> phrase ["permission", "denied"] <|>
        phrase ["operation", "not", "permitted"])
      "EACCES" "Permission denied",
    .ofPattern (word "eexist" <|> phrase ["already", "exists"])
      "EEXIST" "File already exists",
    .ofPattern (word "enospc" <|> phrase ["no", "space", "left"])
      "ENOSPC" "Disk full",
    -- Wording of the domain.
    .ofPattern (letters "certificate" <|> word "ssl" <|> word "tls")
      "CERTIFICATE_INVALID" "Certificate problem",
    .ofPattern (word "dns" <|> phrase ["resolve", "domain"])
      "DNS_RESOLUTION_FAILED" "DNS resolution failure",
    .ofPattern (letters "website" ++ blanks ++ many (fun c => !Text.isBlank c) ++ many Text.isBlank ++
        (phrase ["not", "found"] <|> phrase ["does", "not", "exist"]))
      "WEBSITE_NOT_FOUND" "Unknown website",
    .ofPattern (phrase ["build", "failed"] <|> phrase ["failed", "to", "build"])
      "WEBSITE_BUILD_FAILED" "Site build failure",
    .ofPattern (phrase ["no", "handler"] ++ blanks ++ (letters "registered" <|> letters "found"))
      "IPC_HANDLER_MISSING" "Missing invocation handler",
    .ofPattern (letters "schema")
      "SCHEMA_PARSE_ERROR" "Schema problem",
    .ofPattern (word "invalid" <|> word "validation" <|> word "required")
      "VALIDATION_ERROR" "Invalid input",
    .ofPattern (boundary ++ letters "config" ++ optional (letters "uration") ++ boundary)
      "CONFIGURATION_ERROR" "Configuration problem",
    -- General words of networks come last.
    .ofPattern (letters "network" <|> letters "connection" <|> letters "socket" <|>
        phrase ["fetch", "failed"])
      "NETWORK_ERROR" "Generic network failure"]

end Rule

end Resilience
