import Portcullis.Counter
import Portcullis.Decimal.Binary64
import Portcullis.Http.Response

/-!
# Metrics

What is counted of the requests that pass the metrics stage, and the text in which the counts are published.
-/

namespace Portcullis

/-- The counts. -/
structure Metrics where
  requests : Counter := .zero
  /-- The sum of all latencies, in nanoseconds. -/
  latency : Counter := .zero
  /-- Answers that refuse credentials: status 401, or a redirect to a page with `?error`. -/
  authFailures : Counter := .zero
  /-- Answers with status 403. -/
  denied : Counter := .zero
  /-- Requests without an answer. -/
  errors : Counter := .zero
  deriving DecidableEq, Repr

namespace Metrics

/-- Is the answer a redirect to a page that shows an error? -/
def isErrorRedirect (r : Response) : Bool :=
  r.status = 302 && (r.headers.get? "location").any fun l => Text.holds "?error".toList l.toList

/-- Counts one request by its answer, if it got one, and its latency in nanoseconds. -/
def observe (m : Metrics) (answer : Option Response) (latency : Nat) : Metrics :=
  let m := { m with requests := m.requests.advance 1, latency := m.latency.advance latency }
  match answer with
  | none => { m with errors := m.errors.advance 1 }
  | some r =>
    if r.status = 401 || isErrorRedirect r then { m with authFailures := m.authFailures.advance 1 }
    else if r.status = 403 then { m with denied := m.denied.advance 1 }
    else m

/-- The average latency in nanoseconds, rounded down. -/
def averageLatency (m : Metrics) : Nat :=
  if m.requests.val = 0 then 0 else m.latency.val / m.requests.val

/-- The lines that publish one value. -/
def publish (name kind help value : String) : String :=
  "# HELP " ++ name ++ " " ++ help ++ "\n# TYPE " ++ name ++ " " ++ kind ++ "\n" ++ name ++ " " ++ value ++ "\n"

/-- A span of nanoseconds in seconds, with six places. -/
def secondsText (ns : Nat) : String :=
  (Binary64.add (.ofNat (ns / 1000000000)) (.ofRatio (ns % 1000000000) 1000000000)).fixed 6

/-- The text in which the counts are published. -/
def text (m : Metrics) : String :=
  publish "brrtguard_requests_total" "counter" "Requests handled by the pipeline" (Text.decimal m.requests) ++
  publish "brrtguard_auth_failures_total" "counter" "Failed authentication attempts" (Text.decimal m.authFailures) ++
  publish "brrtguard_access_denied_total" "counter" "Requests answered with 403" (Text.decimal m.denied) ++
  publish "brrtguard_errors_total" "counter" "Requests aborted by a pipeline error" (Text.decimal m.errors) ++
  publish "brrtguard_request_latency_seconds" "gauge" "Average request latency" (secondsText m.averageLatency)

end Metrics

end Portcullis
