import Portcullis.Security.Authentication

/-!
# User accounts

* `Users.authenticate`: the check of a name and a password. An unknown name and a wrong password are refused alike; only
  who knows the password learns that an account is disabled.
-/

namespace Portcullis

/-- A user account. -/
structure User where
  username : String
  password : String
  roles : List String := []
  enabled : Bool := true
  deriving DecidableEq, Repr

/-- The authorities that an account's roles stand for. -/
def User.authorities (u : User) : List String :=
  u.roles.map roleAuthority

/-- Accounts in order of registration; a later account of the same name replaces an earlier one. -/
structure Users where
  accounts : List User := []
  deriving DecidableEq, Repr

/-- Why credentials are refused. -/
inductive CredentialFault
  | badCredentials
  | disabled
  deriving DecidableEq, Repr

/-- What a refusal says. -/
def CredentialFault.message : CredentialFault → String
  | .badCredentials => "Bad credentials"
  | .disabled => "User is disabled"

namespace Users

/-- The account of a name. -/
def find? (users : Users) (username : String) : Option User :=
  users.accounts.reverse.find? (·.username == username)

/-- How many different names there are. -/
def size (users : Users) : Nat :=
  (users.accounts.map (·.username)).eraseDups.length

/-- Checks a name and a password. -/
def authenticate (users : Users) (username password : String) (kind : AuthenticationKind) :
    Except CredentialFault Authentication :=
  match users.find? username with
  | none => .error .badCredentials
  | some user =>
    if user.password ≠ password then .error .badCredentials
    else if !user.enabled then .error .disabled
    else .ok ⟨user.username, user.authorities, true, kind⟩

end Users

end Portcullis
