import MetastoreFederation.Document.Datum
import MetastoreFederation.Error
import MetastoreFederation.Resolution
import MetastoreFederation.Yaml.Node.Reading

/-!
Settings of a running federation, as a record of a settings file. Spans of time are written as
texts.
-/

set_option autoImplicit false
set_option relaxedAutoImplicit false

namespace MetastoreFederation

open Document

/-- What can be tuned while a federation runs. -/
structure Settings where
  resolution : Resolution := .prefixed
  /-- The longest that one refresh of all statuses takes. -/
  statusDeadline : Duration := .ofSeconds 60
  /-- The time between two refreshes in the background. -/
  pollingInterval : Duration := .ofSeconds 300
  /-- How long a call to several metastores waits, without their latencies. -/
  requestTimeout : Duration := .ofSeconds 5
  /-- The federation file is written anew on shutdown. -/
  overwriteOnShutdown : Bool := false
deriving DecidableEq, Repr

namespace Settings

variable {ν : Type} [Source ν]

private def readDuration (v : ν) : Except DataError Duration := do
  (Duration.parse (← readText v)).mapError DataError.duration

/-- The record of the settings. -/
def record : RecordType ν Settings where
  title := "FederationSettings"
  blank := {}
  fields := [
    ⟨"database-resolution", false,
      fun v s => do return { s with resolution := ← Source.variant Resolution.names v }⟩,
    ⟨"status-deadline", false,
      fun v s => do return { s with statusDeadline := ← readDuration v }⟩,
    ⟨"status-polling-interval", false,
      fun v s => do return { s with pollingInterval := ← readDuration v }⟩,
    ⟨"request-timeout", false,
      fun v s => do return { s with requestTimeout := ← readDuration v }⟩,
    ⟨"overwrite-config-on-shutdown", false,
      fun v s => do return { s with overwriteOnShutdown := ← Source.flag v }⟩]

/-- The settings as a record. -/
def toDatum (s : Settings) : Datum :=
  .fields [("database-resolution", .text s.resolution.name),
    ("status-deadline", .text s.statusDeadline.render),
    ("status-polling-interval", .text s.pollingInterval.render),
    ("request-timeout", .text s.requestTimeout.render),
    ("overwrite-config-on-shutdown", .flag s.overwriteOnShutdown)]

/-- Reads the text of a settings file. -/
def parse (text : String) : Except ConfigError Settings :=
  (Yaml.readDocument record.read text).mapError ConfigError.unreadable

private def zeroProblem (d : Duration) (what : String) : List String :=
  if d.isZero then [what ++ " cannot be 0"] else []

/-- What is wrong with the settings. -/
def problems (s : Settings) : List String :=
  zeroProblem s.statusDeadline "Status deadline" ++
    zeroProblem s.pollingInterval "Status polling interval" ++
    zeroProblem s.requestTimeout "Request timeout"

end Settings

end MetastoreFederation
