/-!
# Request methods

A method is a non-empty token of HTTP; case matters. `Method.parse?` reads the token as it stands,
`Method.ofName?` reads a name that people write in any case.
-/

namespace Portcullis

namespace Method

/-- The characters of a token. -/
def isTokenChar (c : Char) : Bool :=
  c.isAlphanum || "!#$%&'*+-.^_`|~".toList.contains c

/-- A non-empty run of token characters. -/
def IsToken (s : String) : Prop :=
  s ≠ "" ∧ s.toList.all isTokenChar = true

instance (s : String) : Decidable (IsToken s) :=
  inferInstanceAs (Decidable (_ ∧ _))

end Method

/-- A request method. -/
structure Method where
  name : String
  isToken : Method.IsToken name
  deriving DecidableEq

namespace Method

/-- Reads a method as it stands. -/
def parse? (s : String) : Option Method :=
  if h : IsToken s then some ⟨s, h⟩ else none

/-- Reads a method written in any case. -/
def ofName? (s : String) : Option Method :=
  parse? s.toUpper

theorem parse?_name (m : Method) : parse? m.name = some m := by
  simp [parse?, m.isToken]

/-- The method `GET`. -/
def get : Method := ⟨"GET", by decide +kernel⟩
/-- The method `HEAD`. -/
def head : Method := ⟨"HEAD", by decide +kernel⟩
/-- The method `POST`. -/
def post : Method := ⟨"POST", by decide +kernel⟩
/-- The method `OPTIONS`. -/
def options : Method := ⟨"OPTIONS", by decide +kernel⟩

end Method

end Portcullis
