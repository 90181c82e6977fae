import Portcullis.Counter
import Portcullis.Logging.Basic

/-!
# Sampling

Of the events that are no warnings or errors, a sampler lets every `n`-th pass, where `n` is one divided by the rate,
rounded down. Spans always pass.
-/

namespace Portcullis

/-- How serious an event is. -/
inductive Severity
  | trace
  | debug
  | info
  | warn
  | error
  deriving DecidableEq, Repr

/-- Is an event of this severity important whatever the mode? -/
def Severity.isImportant : Severity → Bool
  | .warn | .error => true
  | _ => false

/-- What a sampler is asked about. -/
inductive LogItem
  | event (severity : Severity)
  | span (severity : Severity)
  deriving DecidableEq, Repr

/-- A sampler at work. -/
structure Sampler where
  mode : SamplingMode
  rate : Binary64
  /-- How many events have been counted. -/
  count : Counter := .zero
  deriving DecidableEq, Repr

namespace Sampler

/-- A sampler for a mode and a rate, which is brought between 0 and 1. -/
def start (mode : SamplingMode) (rate : Binary64) : Sampler where
  mode := mode
  rate := rate.clampUnit

/-- Every so many events one passes; none if it is zero. -/
def interval (s : Sampler) : Nat :=
  s.rate.reciprocal.floorWord

/-- Counts an event: does it pass? -/
def sample (s : Sampler) : Bool × Sampler :=
  if s.rate.isNonPositive then (false, s)
  else (0 < s.interval && s.count.val % s.interval == 0, { s with count := s.count.advance 1 })

/-- Does an item pass? -/
def passes (s : Sampler) : LogItem → Bool × Sampler
  | .span _ => (true, s)
  | .event severity =>
    match s.mode with
    | .all => (true, s)
    | .errorsOnly => (severity.isImportant, s)
    | .sampled => if severity.isImportant then (true, s) else s.sample

/-- Which of several items pass. -/
def passesAll (s : Sampler) : List LogItem → List Bool
  | [] => []
  | item :: items => (s.passes item).1 :: passesAll (s.passes item).2 items

end Sampler

end Portcullis
