import Portcullis.Text.Basic
import Portcullis.Security.Authentication

/-!
# Access requirements

What a rule demands of the authentication in an exchange, and the expressions in which requirements are written.

* `Access.parse?`: reading an expression.
* `Access.text`: writing one.
* `Access.granted`: whether an authentication meets the requirement.
-/

namespace Portcullis

/-- What is demanded of whoever sends a request. -/
inductive Access
  | permitAll
  | denyAll
  | authenticated
  | anonymous
  | hasRole (role : String)
  | hasAnyRole (roles : List String)
  | hasAuthority (authority : String)
  deriving DecidableEq, Repr

namespace Access

/-- Does the authentication meet the requirement? Roles and authorities count only for somebody who is authenticated
and not anonymous. -/
def granted (access : Access) (authentication : Option Authentication) : Bool :=
  let real := authentication.filter Authentication.isReal
  match access with
  | .permitAll => true
  | .denyAll => false
  | .authenticated => real.isSome
  | .anonymous => real.isNone
  | .hasRole role => real.any (·.hasRole role)
  | .hasAnyRole roles => real.any fun a => roles.any a.hasRole
  | .hasAuthority authority => real.any (·.hasAuthority authority)

/-! ## Expressions -/

/-- The quotes that may stand around an argument. -/
def isQuote (c : Char) : Bool :=
  c == '\'' || c == '"'

/-- One argument, without the blanks and then the quotes around it. -/
def argument (cs : List Char) : String :=
  String.ofList (Text.stripEnds isQuote (Text.trim cs))

/-- The arguments between the parentheses; empty ones are left out. -/
def arguments (cs : List Char) : List String :=
  ((cs.splitOn ',').map argument).filter (· != "")

/-- The requirement of a name with arguments. -/
def ofCall? (name : String) (args : List String) : Option Access :=
  match name, args with
  | "has_role", [role] => some (.hasRole role)
  | "has_authority", [authority] => some (.hasAuthority authority)
  | "has_any_role", role :: roles => some (.hasAnyRole (role :: roles))
  | _, _ => none

/-- A name, and arguments in parentheses up to the end. -/
def parseCall? (cs : List Char) : Option Access := do
  let (name, rest) ← Text.cut '(' cs
  let body ← if rest.getLast? = some ')' then some rest.dropLast else none
  ofCall? (String.ofList (Text.trim name)) (arguments body)

/-- Reads an expression. -/
def parse? (s : String) : Option Access :=
  let cs := Text.trim s.toList
  match String.ofList cs with
  | "permit_all" => some .permitAll
  | "deny_all" => some .denyAll
  | "authenticated" => some .authenticated
  | "anonymous" => some .anonymous
  | _ => parseCall? cs

/-- Writes an expression. -/
def text : Access → String
  | .permitAll => "permit_all"
  | .denyAll => "deny_all"
  | .authenticated => "authenticated"
  | .anonymous => "anonymous"
  | .hasRole role => "has_role(" ++ role ++ ")"
  | .hasAnyRole roles => "has_any_role(" ++ String.intercalate ", " roles ++ ")"
  | .hasAuthority authority => "has_authority(" ++ authority ++ ")"

end Access

end Portcullis
