import Portcullis.CommandLine.Execute

/-!
# The program

Reads the command line, the environment and the file with the settings, and prints what `execute` says.
-/

open Portcullis Portcullis.CommandLine

namespace Portcullis.Terminal

/-- The variables that the program looks at. -/
def variableNames : List String :=
  ["BRRTG_CONFIG", "BRRTG_SESSION_COOKIE", "BRRTG_SESSION_MAX_INACTIVE_SECS"]

/-- The variables that are set. -/
def readVariables : IO Variables := do
  let set ← variableNames.mapM fun name => do return (name, ← IO.getEnv name)
  return fun name => (set.lookup name).bind id

/-- The text of a file, if it can be read. -/
def readText (path : String) : IO (Option String) := do
  try return some (← IO.FS.readFile path) catch _ => return none

/-- Fresh ids: the time, and a number drawn by lot. -/
def freshIds : IO (Nat → SessionId) := do
  let now ← IO.monoMsNow
  let lot ← IO.rand 0 (Nat.pow 2 62)
  return fun n => Ulid.ofNat (now * Nat.pow 2 80 + lot * Nat.pow 2 16 + n)

/-- How the program is called. -/
def usage : String :=
  "usage: [--log-preset dev|prod] check|simulate [options]"

/-- Does what the command line asks for. -/
def run (words : List String) : IO UInt32 := do
  match Invocation.parse words with
  | .error fault =>
    IO.eprintln usage
    return if fault = .help then 0 else 2
  | .ok invocation =>
    let environment := Environment.ofVariables (← readVariables)
    let path := invocation.settings <|> environment.settingsPath
    let text ← match path with
      | some path => readText path
      | none => pure none
    let host : Host := { environment := environment, file := fun _ => text, supply := ← freshIds }
    match execute host invocation with
    | .ok printed =>
      IO.print printed
      return 0
    | .error failure =>
      IO.eprintln ("Error: " ++ failure.message)
      return 1

end Portcullis.Terminal

/-- The program. -/
def main (words : List String) : IO UInt32 :=
  Portcullis.Terminal.run words
