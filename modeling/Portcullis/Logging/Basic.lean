import Portcullis.Environment

/-!
# Logging

What is logged and in what form, as variables or presets set it.
-/

namespace Portcullis

/-- The form of log lines. -/
inductive LogFormat
  | json
  | pretty
  deriving DecidableEq, Repr

/-- Which events are logged. -/
inductive SamplingMode
  | all
  | errorsOnly
  /-- A fraction of those that are no warnings or errors. -/
  | sampled
  deriving DecidableEq, Repr

/-- Reads a form. Case does not matter, and what is no form stands for JSON. -/
def LogFormat.ofName (name : String) : LogFormat :=
  if name.toLower = "pretty" then .pretty else .json

/-- Reads a mode. Case does not matter, and what is no mode stands for all events. -/
def SamplingMode.ofName (name : String) : SamplingMode :=
  match name.toLower with
  | "error-only" | "error_only" => .errorsOnly
  | "sampled" => .sampled
  | _ => .all

/-- How the host logs. -/
structure Logging where
  level : String := "info"
  format : LogFormat := .json
  mode : SamplingMode := .all
  /-- The fraction of events that is logged where they are sampled. -/
  rate : Binary64 := .ofNat 1
  /-- Do other threads write the lines? -/
  detached : Bool := false
  /-- Levels for parts of the program. -/
  targets : Option String := none
  /-- Do lines say where in the program they come from? -/
  location : Bool := false
  deriving DecidableEq, Repr

namespace Logging

/-- For development. -/
def development : Logging where
  level := "debug"
  format := .pretty
  location := true

/-- For production. -/
def production : Logging where
  mode := .sampled
  rate := .ofRatio 1 10
  detached := true

/-- Reads true or false. -/
def flag? : String → Option Bool
  | "true" => some true
  | "false" => some false
  | _ => none

/-- Logging as variables set it. Values that cannot be read count as not set. -/
def ofVariables (vars : Variables) : Logging :=
  let d : Logging := {}
  { level := (vars "BRRTG_LOG_LEVEL").getD d.level
    format := ((vars "BRRTG_LOG_FORMAT").map .ofName).getD d.format
    mode := ((vars "BRRTG_LOG_SAMPLING_MODE").map .ofName).getD d.mode
    rate := ((vars "BRRTG_LOG_SAMPLING_RATE").bind Binary64.parse?).getD d.rate
    detached := ((vars "BRRTG_LOG_ASYNC").bind flag?).getD d.detached
    targets := vars "BRRTG_LOG_TARGET_FILTER"
    location := ((vars "BRRTG_LOG_INCLUDE_LOCATION").bind flag?).getD d.location }

end Logging

end Portcullis
