import Resilience.Settings.Basic
import Resilience.Settings.Conversion
import Resilience.Toml.Document

/-!
Settings from a table. Members that name no setting are skipped, and a setting that is not named
has its default. A section may also be a list, which gives the settings in their order.
-/

namespace Resilience

/-- The values that are given for settings, by name. -/
abbrev Given := List (String × Toml)

namespace Given

/-- The values in a section whose settings have these names. A point of time names none of them. -/
def of? (names : List String) : Toml → Option Given
  | .table members => some members
  | .array items => some (names.zip items)
  | .time _ => some []
  | _ => none

/-- The setting with a name, or its default if nothing is given for it. -/
def read {α : Type} (g : Given) (name : String) (default : α) (convert : Toml → Option α) :
    Option α :=
  match Dict.lookup name g with
  | some v => convert v
  | none => some default

end Given

variable (c : Conversion)

def ChannelSettings.decode? (v : Toml) : Option ChannelSettings := do
  let g ← Given.of? ["max_attempts", "base_delay_ms", "max_delay_ms", "retryable_error_codes"] v
  some {
    maxAttempts := ← g.read "max_attempts" none fun v => (c.word v).map some
    baseDelayMs := ← g.read "base_delay_ms" none fun v => (c.natural v).map some
    maxDelayMs := ← g.read "max_delay_ms" none fun v => (c.natural v).map some
    codes := ← g.read "retryable_error_codes" none fun v => (c.texts v).map some }

/-- The settings of channels by the channels' names. -/
def channels? : Toml → Option (Dict ChannelSettings)
  | .table members => do
    let channels ← members.mapM fun (name, v) => do some (name, ← ChannelSettings.decode? c v)
    some (Dict.ofList channels)
  | _ => none

def RetrySettings.decode? (v : Toml) : Option RetrySettings := do
  let g ← Given.of? ["max_attempts", "base_delay_ms", "max_delay_ms", "retryable_error_codes",
    "blacklist", "builtin_channels", "channels"] v
  let d : RetrySettings := {}
  some {
    maxAttempts := ← g.read "max_attempts" d.maxAttempts c.word
    baseDelayMs := ← g.read "base_delay_ms" d.baseDelayMs c.natural
    maxDelayMs := ← g.read "max_delay_ms" d.maxDelayMs c.natural
    codes := ← g.read "retryable_error_codes" d.codes c.texts
    blacklist := ← g.read "blacklist" d.blacklist c.texts
    builtin := ← g.read "builtin_channels" d.builtin c.truth
    channels := ← g.read "channels" d.channels (channels? c) }

def TelemetrySettings.decode? (v : Toml) : Option TelemetrySettings := do
  let g ← Given.of? ["enabled", "sampling_rate", "batch_size", "flush_interval_ms",
    "max_field_length", "config_ttl_ms"] v
  let d : TelemetrySettings := {}
  some {
    enabled := ← g.read "enabled" d.enabled c.truth
    samplingRate := ← g.read "sampling_rate" d.samplingRate c.number
    batchSize := ← g.read "batch_size" d.batchSize c.natural
    flushIntervalMs := ← g.read "flush_interval_ms" d.flushIntervalMs c.natural
    maxFieldLength := ← g.read "max_field_length" d.maxFieldLength c.natural
    configTtlMs := ← g.read "config_ttl_ms" d.configTtlMs c.natural }

/-- The environment with a name as it is written in settings. -/
def environment? (v : Toml) : Option Environment := do
  let name ← c.choice v
  [Environment.development, .production].find? (·.name = name)

def TranslatorSettings.decode? (v : Toml) : Option TranslatorSettings := do
  let g ← Given.of? ["environment", "max_message_length"] v
  let d : TranslatorSettings := {}
  some {
    environment := ← g.read "environment" d.environment (environment? c)
    maxMessageLength := ← g.read "max_message_length" d.maxMessageLength c.natural }

def ReportingSettings.decode? (v : Toml) : Option ReportingSettings := do
  let g ← Given.of? ["max_attempts", "retry_delay_ms", "breadcrumb_capacity", "history_capacity"] v
  let d : ReportingSettings := {}
  some {
    maxAttempts := ← g.read "max_attempts" d.maxAttempts c.word
    retryDelayMs := ← g.read "retry_delay_ms" d.retryDelayMs c.natural
    breadcrumbCapacity := ← g.read "breadcrumb_capacity" d.breadcrumbCapacity c.natural
    historyCapacity := ← g.read "history_capacity" d.historyCapacity c.natural }

def Logging.decode? (v : Toml) : Option Logging := do
  let g ← Given.of? ["level", "timestamps", "target"] v
  let d : Logging := {}
  some {
    level := ← g.read "level" d.level fun v => (c.choice v).bind LogLevel.ofName?
    timestamps := ← g.read "timestamps" d.timestamps c.truth
    target := ← g.read "target" d.target c.truth }

def Settings.decode? (v : Toml) : Option Settings := do
  let g ← Given.of? ["retry", "telemetry", "translator", "reporting", "logging"] v
  let d : Settings := {}
  some {
    retry := ← g.read "retry" d.retry (RetrySettings.decode? c)
    telemetry := ← g.read "telemetry" d.telemetry (TelemetrySettings.decode? c)
    translator := ← g.read "translator" d.translator (TranslatorSettings.decode? c)
    reporting := ← g.read "reporting" d.reporting (ReportingSettings.decode? c)
    logging := ← g.read "logging" d.logging (Logging.decode? c) }

/-- The settings that a document describes, each of its own type. -/
def Settings.ofText? (text : String) : Option Settings :=
  (Toml.ofText? text).bind (Settings.decode? Conversion.strict)

end Resilience
