import Portcullis.Guard.Blueprint
import Portcullis.Settings.Reader
import Portcullis.SetupError

/-!
# Settings of security

Readers for the parts of settings that stand for accounts, authentications and requirements.

* `readAccess`: a requirement, as an expression or as a table of one entry.
-/

namespace Portcullis.Settings

variable {α : Type} [Tree α]

/-! ## Requirements -/

/-- A requirement as it is written. -/
inductive AccessForm
  | expression (s : String)
  /-- Names, each with the arguments that stand under it. -/
  | entries (entries : List (String × List String))

/-- The arguments that stand under a name: one, or a list of them. -/
def readArguments : Reader Datum (List String) :=
  firstForm "Arg" [fun x => (fun s => [s]) <$> text x, list text]

/-- Reads the form. -/
def readAccessForm : Reader α AccessForm :=
  firstForm "Raw" [fun x => .expression <$> text x, fun x => .entries <$> table readArguments x]

/-- The expression that a name and its arguments stand for. -/
def callText (name : String) (arguments : List String) : String :=
  name ++ "(" ++ String.intercalate ", " arguments ++ ")"

/-- The expression that a form stands for. -/
def AccessForm.text : AccessForm → Except Fault String
  | .expression s => .ok s
  | .entries [(name, arguments)] => .ok (callText name arguments)
  | .entries _ => .error (.refused "access must have exactly one key, e.g. \x7b has_role: ADMIN \x7d")

/-- Reads a requirement. -/
def readAccess : Reader α Access := fun x => do
  let expression ← (← readAccessForm x).text
  match Access.parse? expression with
  | some access => return access
  | none => throw (.refused (SetupError.invalidAccess expression).message)

/-! ## Accounts -/

/-- The fields of an account. -/
def userRecord : Record α User :=
  User.mk <$> .required "username" text <*> .required "password" text <*> .withDefault "roles" (list text) [] <*>
    .withDefault "enabled" flag true

/-- Reads an account; fields that it does not have are passed over. -/
def readUser : Reader α User :=
  userRecord.read "UserDetails" false

/-! ## Authentications -/

/-- Reads a kind of authentication. -/
def readKind : Reader α AuthenticationKind :=
  choice (AuthenticationKind.all.map fun kind => (kind.name, kind))

/-- The fields of an authentication. -/
def authenticationRecord : Record α Authentication :=
  Authentication.mk <$> .required "principal" text <*> .required "authorities" (list text) <*>
    .required "authenticated" flag <*> .required "kind" readKind

/-- Reads an authentication; fields that it does not have are passed over. -/
def readAuthentication : Reader α Authentication :=
  authenticationRecord.read "Authentication" false

/-- Reads a security context; fields that it does not have are passed over. -/
def readContext : Reader α SecurityContext :=
  Record.read "SecurityContext" false (SecurityContext.mk <$> .mayLack "authentication" readAuthentication)

/-- Reads when sessions are opened. -/
def readSessionPolicy : Reader α SessionPolicy :=
  choice [("always", .always), ("if_required", .ifRequired), ("never", .never), ("stateless", .stateless)]

end Portcullis.Settings
