/-!
# Options

How the words of a command line are told apart: options with a value of their own, the name of a command, and words
that nothing calls for. An option takes its value from the same word (`--name=value`, `-nvalue`, `-n=value`) or from the
next one, which may be anything that does not look like an option.

* `Grammar.scan`: the options up to the name of a command, or up to the end.
-/

namespace Portcullis.CommandLine

/-- Why a command line is not understood, or that help is asked for. -/
inductive UsageError
  /-- Help is asked for. -/
  | help
  /-- Nothing is asked for, which is answered with help. -/
  | nothingAsked
  | unknownArgument
  | unknownCommand
  /-- An option has no value, or one that it does not accept. -/
  | invalidValue
  | missingOption
  | missingCommand
  /-- An option is given twice that may be given only once. -/
  | repeated
  /-- A flag is given a value. -/
  | unwantedValue
  deriving DecidableEq, Repr

/-- An option. -/
structure Spec where
  name : String
  letter : Option Char := none
  /-- May it be given several times? -/
  repeats : Bool := false
  /-- The values that it accepts. -/
  accepts : String → Bool := fun _ => true

/-- The options of a command, and the names of the commands that may follow them. -/
structure Grammar where
  options : List Spec
  commands : List String := []

/-- An option that has been named, whose value has not been looked at. -/
structure Pending where
  spec : Spec
  value : Option String := none

/-- The options that have been met. -/
structure Met where
  /-- Names and values, the latest first. -/
  given : List (String × String) := []
  pending : Option Pending := none

namespace Met

/-- Is a value still to come? -/
def awaits (m : Met) : Bool :=
  m.pending.any (·.value.isNone)

/-- Takes up an option with its value. -/
def take (m : Met) (spec : Spec) (value : String) : Except UsageError Met :=
  if !spec.repeats && (m.given.lookup spec.name).isSome then .error .repeated
  else if !spec.accepts value then .error .invalidValue
  else .ok { m with given := (spec.name, value) :: m.given }

/-- Takes up the option that has been named. -/
def settle (m : Met) : Except UsageError Met :=
  match m.pending with
  | none => .ok m
  | some ⟨_, none⟩ => .error .invalidValue
  | some ⟨spec, some value⟩ => take { m with pending := none } spec value

/-- An option has been named, maybe with its value. -/
def name (m : Met) (spec : Spec) (value : Option String) : Except UsageError Met := do
  let m ← m.settle
  match value with
  | some value => m.take spec value
  | none => return { m with pending := some { spec := spec } }

/-- The value that was awaited. -/
def fill (m : Met) (value : String) : Met :=
  { m with pending := m.pending.map fun p => { p with value := some value } }

/-- The value of an option that is given at most once. -/
def get? (m : Met) (option : String) : Option String :=
  m.given.lookup option

/-- The values of an option, in order. -/
def getAll (m : Met) (option : String) : List String :=
  ((m.given.filter (·.1 == option)).map (·.2)).reverse

end Met

/-- What a word looks like. -/
inductive Shape
  /-- Two dashes, a name, and maybe a value. -/
  | long (name : String) (value : Option String)
  /-- A dash, a letter, and what follows it. -/
  | short (letter : Char) (rest : List Char)
  | plain

/-- What a word looks like. The word that is two dashes is none of these. -/
def Shape.of (word : String) : Shape :=
  match word.toList with
  | '-' :: '-' :: cs =>
    let (name, rest) := cs.span (· != '=')
    .long (String.ofList name) (if rest.isEmpty then none else some (String.ofList (rest.drop 1)))
  | '-' :: c :: cs => .short c cs
  | _ => .plain

/-- The value that follows a letter in the same word. -/
def attached? : List Char → Option String
  | [] => none
  | '=' :: cs => some (String.ofList cs)
  | cs => some (String.ofList cs)

namespace Grammar

/-- Is help asked for here? It is, unless the option at hand lacks its value. -/
def helpAsked (m : Met) : Except UsageError Met := do
  discard m.settle
  throw .help

/-- Takes up a word that looks like an option. -/
def takeOption (g : Grammar) (m : Met) : Shape → Except UsageError Met
  | .long "help" (some _) => .error .unwantedValue
  | .long "help" none => helpAsked m
  | .long name value =>
    match g.options.find? (·.name == name) with
    | some spec => m.name spec value
    | none => .error .unknownArgument
  | .short 'h' _ => helpAsked m
  | .short letter rest =>
    match g.options.find? (·.letter == some letter) with
    | some spec => m.name spec (attached? rest)
    | none => .error .unknownArgument
  | .plain => .error .unknownArgument

/-- What is wrong with a word that nothing calls for. Behind a word of two dashes, commands are not called for. -/
def strayFault (g : Grammar) (behindDashes : Bool) (word : String) : UsageError :=
  if behindDashes && g.commands.contains word then .unknownArgument
  else if g.commands.isEmpty then .unknownArgument
  else .unknownCommand

/-- Takes up words: the options that are met, and the command with the words after it, if one is named. -/
def scan (g : Grammar) (behindDashes : Bool) (m : Met) :
    List String → Except UsageError (Met × Option (String × List String))
  | [] => .ok (m, none)
  | word :: rest =>
    if behindDashes then .error (g.strayFault true word)
    else if !m.awaits && g.commands.contains word then .ok (m, some (word, rest))
    else if word == "--" then g.scan true m rest
    else
      match Shape.of word with
      | .plain =>
        if m.awaits then g.scan false (m.fill word) rest else .error (g.strayFault false word)
      | shape =>
        match g.takeOption m shape with
        | .ok m => g.scan false m rest
        | .error fault => .error fault

end Grammar

end Portcullis.CommandLine
