import Portcullis.CommandLine.Command
import Portcullis.Logging.Basic
import Portcullis.Settings.Yaml

/-!
# Doing what a command line asks for

`execute` gives the text that is printed, or says why nothing is. It reads the file with the settings through a
function, and knows nothing else of the host but the environment and where new session ids come from.
-/

namespace Portcullis.CommandLine

/-- Why nothing is printed. -/
inductive Failure
  /-- Nobody says where the settings are. -/
  | noSettings
  | unreadable (path : String)
  | invalidSettings (path : String)
  | setup (cause : SetupError)
  | invalidMethod (method : String)
  | invalidHeader (header : String)
  | invalidCookie (cookie : String)
  deriving DecidableEq, Repr

/-- What is said about a failure. -/
def Failure.message : Failure → String
  | .noSettings => "no configuration file: pass --config or set BRRTG_CONFIG"
  | .unreadable path => "Failed to read config file " ++ path
  | .invalidSettings path => "Invalid config file " ++ path
  | .setup _ => "Configuration check failed"
  | .invalidMethod method => "'" ++ method ++ "' is not a valid HTTP method"
  | .invalidHeader header => "header '" ++ header ++ "' is not of the form 'Name: value'"
  | .invalidCookie cookie => "cookie '" ++ cookie ++ "' is not of the form 'name=value'"

/-- What the host offers. -/
structure Host where
  environment : Environment
  /-- The text of a file, if it can be read. -/
  file : String → Option String
  /-- Where new session ids come from. -/
  supply : Nat → SessionId

/-- The logging that an invocation asks for, if it does. -/
def LogPreset.logging : LogPreset → Logging
  | .development => .development
  | .production => .production

/-- Reads the settings. -/
def loadSettings (host : Host) (path : Option String) : Except Failure Settings :=
  match path <|> host.environment.settingsPath with
  | none => .error .noSettings
  | some path =>
    match host.file path with
    | none => .error (.unreadable path)
    | some text =>
      match Settings.ofYaml? text with
      | none => .error (.invalidSettings path)
      | some settings => .ok (host.environment.apply settings)

/-- The sessions of a run. -/
def sessions (host : Host) (settings : Settings) : Sessions where
  supply := host.supply
  timeout := some settings.timeout

/-- The text of lines. -/
def lines (ls : List String) : String :=
  String.join (ls.map (· ++ "\n"))

/-- What a check prints: every chain with its stages. -/
def report (g : Guard Sessions) : String :=
  lines ((g.chains.flatMap fun c => ("chain " ++ c.matcher.text) :: c.stageNames.map ("  " ++ ·)) ++
    ["configuration ok"])

/-- Adds a header as it is written. -/
def addHeader (r : Request) (header : String) : Except Failure Request :=
  match Text.cutString ':' header with
  | some (name, value) => .ok (r.withHeader (Text.trimmed name) (Text.trimmed value))
  | none => .error (.invalidHeader header)

/-- Adds a cookie as it is written. -/
def addCookie (r : Request) (cookie : String) : Except Failure Request :=
  match Text.cutString '=' cookie with
  | some (name, value) => .ok (r.withCookie (Text.trimmed name) (Text.trimmed value))
  | none => .error (.invalidCookie cookie)

/-- The request that the words describe. -/
def RequestWords.request (w : RequestWords) : Except Failure Request := do
  let some method := Method.ofName? w.method | throw (.invalidMethod w.method)
  let r := Request.ofTarget method w.path
  let r := (w.origin.map (r.withHeader "origin")).getD r
  let r ← w.headers.foldlM addHeader r
  let r ← w.cookies.foldlM addCookie r
  return (w.body.map r.withBody).getD r

/-- The handler of simulated requests: it says who the request speaks for. -/
def simulatedHandler : Flow Sessions Response := do
  let e ← Flow.exchange
  return .json 200 (.object [("handler", .string "simulate"),
    ("principal", .ofOption (e.context.authentication.map (·.principal)))])

/-- A response as text. -/
def responseText (r : Response) : String :=
  lines (("status " ++ Text.decimal r.status) :: r.headers.map fun (name, value) => name ++ ": " ++ value) ++
    (if r.body.isNull then "" else r.body.pretty "" ++ "\n")

/-- Does what is asked for; the text that is printed. -/
def execute (host : Host) (invocation : Invocation) : Except Failure String := do
  let settings ← loadSettings host invocation.settings
  let g ← (settings.guard Sessions.store).mapError .setup
  match invocation.action with
  | .check => return report g
  | .simulate words =>
    let (response, _) := g.serve simulatedHandler (← words.request) { backend := sessions host settings }
    return responseText response

end Portcullis.CommandLine
