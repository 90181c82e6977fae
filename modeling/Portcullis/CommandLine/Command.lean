import Portcullis.CommandLine.Options

/-!
# Commands

What the program can be asked to do: to check settings, or to simulate one request under them.

* `Invocation.parse`: what a command line asks for.
-/

namespace Portcullis.CommandLine

/-- How the program is to log. -/
inductive LogPreset
  | development
  | production
  deriving DecidableEq, Repr

/-- The request to simulate, as it is written. -/
structure RequestWords where
  method : String
  path : String
  origin : Option String
  /-- Headers, with a colon between name and value. -/
  headers : List String
  /-- Cookies, with `=` between name and value. -/
  cookies : List String
  body : Option String
  deriving DecidableEq, Repr

/-- What is to be done. -/
inductive Action
  | check
  | simulate (request : RequestWords)
  deriving DecidableEq, Repr

/-- What a command line asks for. -/
structure Invocation where
  preset : Option LogPreset
  /-- Where the settings are. -/
  settings : Option String
  action : Action
  deriving DecidableEq, Repr

/-- The names of presets. -/
def presetNames : List (String × LogPreset) :=
  [("dev", .development), ("prod", .production)]

/-- The option for a preset, which may stand before and after the name of a command. -/
def presetOption : Spec :=
  { name := "log-preset", accepts := fun v => (presetNames.lookup v).isSome }

/-- The option for where the settings are. -/
def settingsOption : Spec :=
  { name := "config", letter := some 'c', accepts := fun v => v != "" }

/-- The words before the name of a command. -/
def topGrammar : Grammar where
  options := [presetOption]
  commands := ["check", "simulate", "help"]

/-- The words after `check`. -/
def checkGrammar : Grammar where
  options := [presetOption, settingsOption]

/-- The words after `simulate`. -/
def simulateGrammar : Grammar where
  options := [presetOption, settingsOption, { name := "method", letter := some 'm' },
    { name := "path", letter := some 'p' }, { name := "origin" },
    { name := "header", letter := some 'H', repeats := true }, { name := "cookie", repeats := true },
    { name := "body" }]

/-- The words after `help`: at most the name of a command. -/
def helpFault : List String → UsageError
  | [] => .help
  | [name] => if topGrammar.commands.contains name then .help else .unknownCommand
  | _ => .unknownCommand

/-- The options of a command that has been named. -/
def optionsOf (g : Grammar) (words : List String) : Except UsageError Met := do
  (← g.scan false {} words).1.settle

/-- The request that options describe. -/
def requestOf (m : Met) : Except UsageError RequestWords :=
  match m.get? "path" with
  | none => .error .missingOption
  | some path => .ok
    { method := (m.get? "method").getD "GET", path := path, origin := m.get? "origin", headers := m.getAll "header"
      cookies := m.getAll "cookie", body := m.get? "body" }

/-- The preset that the words before and after the name of a command give; those after it count for more. -/
def presetOf (before after : Met) : Option LogPreset :=
  (after.get? "log-preset" <|> before.get? "log-preset").bind fun v => presetNames.lookup v

/-- What the words after the name of a command ask for. -/
def commandOf (name : String) (words : List String) : Except UsageError (Met × Action) :=
  match name with
  | "check" => do return (← optionsOf checkGrammar words, .check)
  | "simulate" => do
    let m ← optionsOf simulateGrammar words
    return (m, .simulate (← requestOf m))
  | _ => .error (helpFault words)

/-- What a command line asks for. -/
def Invocation.parse (words : List String) : Except UsageError Invocation := do
  let (before, command) ← topGrammar.scan false {} words
  match command with
  | none =>
    let before ← before.settle
    throw (if before.given.isEmpty then .nothingAsked else .missingCommand)
  | some (name, words) =>
    let (after, action) ← commandOf name words
    let before ← before.settle
    return ⟨presetOf before after, after.get? "config", action⟩

end Portcullis.CommandLine
