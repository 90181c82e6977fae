import Portcullis.Text.Basic
import Portcullis.Ulid

/-!
# Session ids
-/

namespace Portcullis

/-- The id of a session. -/
abbrev SessionId := Ulid

namespace SessionId

/-- Reads the value of a session cookie; blanks around it do not matter. -/
def ofCookie? (value : String) : Option SessionId :=
  (Ulid.parse (Text.trimmed value)).toOption

end SessionId

end Portcullis
