import Portcullis.Settings.Setup

/-!
# The environment

What the host sets by environment variables. A variable that holds only white space counts as not set.
-/

namespace Portcullis

/-- The variables that are set, by name. -/
abbrev Variables := String → Option String

namespace Text

/-- Reads a natural number below `2 ^ 64`, which may have a plus sign. -/
def word? (s : String) : Option Nat :=
  let digits := match s.toList with
    | '+' :: cs => cs
    | cs => cs
  (decimalValue? digits).filter (· < UInt64.size)

end Text

/-- What the host sets. -/
structure Environment where
  /-- Where the settings are. -/
  settingsPath : Option String := none
  sessionCookie : Option String := none
  /-- How many seconds a session lives unused. -/
  sessionTimeout : Nat := 1800
  deriving DecidableEq, Repr

namespace Environment

/-- The value of a variable, unless it is blank. -/
def nonBlank? (vars : Variables) (name : String) : Option String :=
  (vars name).filter (!Text.isBlankText ·)

/-- The environment that variables make. A timeout that is no number counts as not set. -/
def ofVariables (vars : Variables) : Environment where
  settingsPath := nonBlank? vars "BRRTG_CONFIG"
  sessionCookie := nonBlank? vars "BRRTG_SESSION_COOKIE"
  sessionTimeout :=
    ((nonBlank? vars "BRRTG_SESSION_MAX_INACTIVE_SECS").bind fun s => Text.word? (Text.trimmed s)).getD 1800

/-- Settings in an environment: its cookie name takes the place of theirs, their timeout the place of its. -/
def apply (e : Environment) (s : Settings) : Settings :=
  { s with session := { s.session with
    cookieName := e.sessionCookie <|> s.session.cookieName
    timeout := s.session.timeout <|> some e.sessionTimeout } }

end Environment

end Portcullis
