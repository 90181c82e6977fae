import Portcullis.Text.Basic

/-!
# Faults in settings

Why a tree is not what a reader wants it to be, and what is said about it.
-/

namespace Portcullis.Settings

/-- Why a tree is refused. -/
inductive Fault
  /-- It is of another type. -/
  | wrongType (found expected : String)
  /-- It is of the type, but out of bounds. -/
  | wrongValue (found expected : String)
  /-- A list has too few items or too many. -/
  | wrongLength (length : Nat) (expected : String)
  /-- A record has a field that it should not have. -/
  | unknownField (name : String) (known : List String)
  | duplicateField (name : String)
  | missingField (name : String)
  /-- A choice is none of those that are offered. -/
  | unknownChoice (name : String) (known : List String)
  /-- None of several forms fits. -/
  | noForm (type : String)
  /-- A text does not say what it should say. -/
  | refused (message : String)
  deriving DecidableEq, Repr

namespace Fault

/-- A name in backticks. -/
def ticked (name : String) : String :=
  "`" ++ name ++ "`"

/-- Which names there are to choose from. -/
def offer : List String → String
  | [] => "there are no names"
  | [name] => "expected " ++ ticked name
  | [first, second] => "expected " ++ ticked first ++ " or " ++ ticked second
  | names => "expected one of " ++ String.intercalate ", " (names.map ticked)

/-- What is said about a fault. -/
def message : Fault → String
  | .wrongType found expected => "invalid type: " ++ found ++ ", expected " ++ expected
  | .wrongValue found expected => "invalid value: " ++ found ++ ", expected " ++ expected
  | .wrongLength length expected => "invalid length " ++ Text.decimal length ++ ", expected " ++ expected
  | .unknownField name known => "unknown field " ++ ticked name ++ ", " ++ offer known
  | .duplicateField name => "duplicate field " ++ ticked name
  | .missingField name => "missing field " ++ ticked name
  | .unknownChoice name known => "unknown variant " ++ ticked name ++ ", " ++ offer known
  | .noForm type => "data did not match any variant of untagged enum " ++ type
  | .refused message => message

end Fault

end Portcullis.Settings
