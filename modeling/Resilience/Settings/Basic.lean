import Resilience.Dispatch.Registry
import Resilience.Friendly.Basic
import Resilience.Logging
import Resilience.Retry.Policy
import Resilience.Telemetry.Batcher

/-!
The settings of the whole library, by section, and what is made of them. Every setting has a
default.
-/

namespace Resilience

/-- What is set for one channel. -/
structure ChannelSettings where
  maxAttempts : Option UInt32 := none
  baseDelayMs : Option Nat := none
  maxDelayMs : Option Nat := none
  codes : Option (List String) := none

structure RetrySettings where
  maxAttempts : UInt32 := 3
  baseDelayMs : Nat := 1000
  maxDelayMs : Nat := 10000
  codes : List String := []
  /-- Channels on which nothing is attempted twice, besides the known ones. -/
  blacklist : List String := []
  /-- Whether the known channels have their own policies. -/
  builtin : Bool := true
  channels : Dict ChannelSettings := ∅

structure TelemetrySettings where
  enabled : Bool := true
  samplingRate : Binary64 := Binary64.one
  batchSize : Nat := 10
  flushIntervalMs : Nat := 30000
  maxFieldLength : Nat := 10000
  configTtlMs : Nat := 60000

structure TranslatorSettings where
  environment : Environment := .production
  maxMessageLength : Nat := 500

structure ReportingSettings where
  maxAttempts : UInt32 := 3
  retryDelayMs : Nat := 1000
  breadcrumbCapacity : Nat := 50
  historyCapacity : Nat := 100

structure Settings where
  retry : RetrySettings := {}
  telemetry : TelemetrySettings := {}
  translator : TranslatorSettings := {}
  reporting : ReportingSettings := {}
  logging : Logging := {}

/-! ## What they are for -/

def ChannelSettings.override (s : ChannelSettings) : Policy.Override where
  maxAttempts := s.maxAttempts
  baseDelay := s.baseDelayMs.map Span.ofMillis
  maxDelay := s.maxDelayMs.map Span.ofMillis
  codes := s.codes.map Names.ofList

namespace RetrySettings

def defaults (s : RetrySettings) : Policy where
  maxAttempts := s.maxAttempts
  baseDelay := Span.ofMillis s.baseDelayMs
  maxDelay := Span.ofMillis s.maxDelayMs
  codes := Names.ofList s.codes

/-- The policies of the known channels, if they are wanted, then those of the configured ones. -/
def policies (s : RetrySettings) : Policies :=
  let base : Policies :=
    if s.builtin then Policies.builtin s.defaults else { defaults := s.defaults }
  let set := s.channels.entries.foldl (fun ps (channel, c) => ps.set channel c.override) base
  s.blacklist.foldl Policies.forbid set

end RetrySettings

def TelemetrySettings.batcher (s : TelemetrySettings) : Telemetry.BatcherSettings :=
  let plain : Telemetry.BatcherSettings :=
    { enabled := s.enabled
      flushInterval := Span.ofMillis s.flushIntervalMs
      maxFieldLength := s.maxFieldLength
      configTtl := Span.ofMillis s.configTtlMs }
  (plain.withSamplingRate s.samplingRate).withBatchSize s.batchSize

def TranslatorSettings.translator (s : TranslatorSettings) : Translator :=
  { environment := s.environment, limit := s.maxMessageLength }

def ReportingSettings.reporting (s : ReportingSettings) : Reporting where
  maxAttempts := s.maxAttempts
  retryDelay := Span.ofMillis s.retryDelayMs
  breadcrumbCapacity := s.breadcrumbCapacity
  historyCapacity := s.historyCapacity

/-! ## As JSON -/

def jsonTexts (texts : List String) : Json := .arr (texts.map .str)

def ChannelSettings.toJson (s : ChannelSettings) : Json :=
  .obj [("max_attempts", (s.maxAttempts.map fun n => Json.nat n.toNat).getD .null),
    ("base_delay_ms", (s.baseDelayMs.map Json.nat).getD .null),
    ("max_delay_ms", (s.maxDelayMs.map Json.nat).getD .null),
    ("retryable_error_codes", (s.codes.map jsonTexts).getD .null)]

def RetrySettings.toJson (s : RetrySettings) : Json :=
  .obj [("max_attempts", .nat s.maxAttempts.toNat), ("base_delay_ms", .nat s.baseDelayMs),
    ("max_delay_ms", .nat s.maxDelayMs), ("retryable_error_codes", jsonTexts s.codes),
    ("blacklist", jsonTexts s.blacklist), ("builtin_channels", .bool s.builtin),
    ("channels", .obj (s.channels.entries.map fun (channel, c) => (channel, c.toJson)))]

def TelemetrySettings.toJson (s : TelemetrySettings) : Json :=
  .obj [("enabled", .bool s.enabled), ("sampling_rate", .float s.samplingRate),
    ("batch_size", .nat s.batchSize), ("flush_interval_ms", .nat s.flushIntervalMs),
    ("max_field_length", .nat s.maxFieldLength), ("config_ttl_ms", .nat s.configTtlMs)]

def TranslatorSettings.toJson (s : TranslatorSettings) : Json :=
  .obj [("environment", .str s.environment.name), ("max_message_length", .nat s.maxMessageLength)]

def ReportingSettings.toJson (s : ReportingSettings) : Json :=
  .obj [("max_attempts", .nat s.maxAttempts.toNat), ("retry_delay_ms", .nat s.retryDelayMs),
    ("breadcrumb_capacity", .nat s.breadcrumbCapacity),
    ("history_capacity", .nat s.historyCapacity)]

def Settings.toJson (s : Settings) : Json :=
  .obj [("retry", s.retry.toJson), ("telemetry", s.telemetry.toJson),
    ("translator", s.translator.toJson), ("reporting", s.reporting.toJson),
    ("logging", s.logging.toJson)]

end Resilience
