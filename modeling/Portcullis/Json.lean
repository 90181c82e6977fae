import Portcullis.Text.Basic

/-!
# JSON values

The bodies of responses, and their indented text.
-/

namespace Portcullis

/-- A JSON value. Numbers are decimals: `mantissa / 10 ^ places`. -/
inductive Json
  | null
  | bool (b : Bool)
  | number (mantissa : Int) (places : Nat)
  | string (s : String)
  | array (items : List Json)
  | object (entries : List (String × Json))
  deriving Repr, Inhabited

namespace Json

/-- A text, or null. -/
def ofOption : Option String → Json
  | some s => .string s
  | none => .null

/-- Is the value null? -/
def isNull : Json → Bool
  | .null => true
  | _ => false

/-- A character within quotes: the quote, the backslash and the control characters are escaped. -/
def escape (c : Char) : List Char :=
  match c with
  | '"' => ['\\', '"']
  | '\\' => ['\\', '\\']
  | '\n' => ['\\', 'n']
  | '\r' => ['\\', 'r']
  | '\t' => ['\\', 't']
  | c =>
    if c.toNat = 8 then ['\\', 'b']
    else if c.toNat = 12 then ['\\', 'f']
    else if c.toNat < 32 then
      ['\\', 'u', '0', '0', Nat.digitChar (c.toNat / 16), Nat.digitChar (c.toNat % 16)]
    else [c]

/-- A text in quotes. -/
def quote (s : String) : String :=
  String.ofList ('"' :: s.toList.flatMap escape ++ ['"'])

/-- A decimal number: its digits, with a point before the last `places` of them. -/
def numeral (mantissa : Int) (places : Nat) : String :=
  let sign := if mantissa < 0 then "-" else ""
  let n := mantissa.natAbs
  sign ++ if places = 0 then Text.decimal n else Text.withPoint n places

/-- The lines of a bracketed group: the items on lines of their own, indented by one step more than the group. -/
def group (opening closing : String) (indent : String) (items : List String) : String :=
  if items.isEmpty then opening ++ closing
  else opening ++ "\n" ++ String.intercalate ",\n" (items.map (indent ++ "  " ++ ·)) ++ "\n" ++ indent ++ closing

mutual

/-- The value over several lines, two blanks per level of nesting. -/
def pretty (indent : String) : Json → String
  | .null => "null"
  | .bool b => if b then "true" else "false"
  | .number m p => numeral m p
  | .string s => quote s
  | .array items => group "[" "]" indent (prettyItems (indent ++ "  ") items)
  | .object entries => group "\x7b" "\x7d" indent (prettyEntries (indent ++ "  ") entries)

/-- The texts of the items of an array. -/
def prettyItems (indent : String) : List Json → List String
  | [] => []
  | v :: vs => pretty indent v :: prettyItems indent vs

/-- The texts of the entries of an object. -/
def prettyEntries (indent : String) : List (String × Json) → List String
  | [] => []
  | (k, v) :: es => (quote k ++ ": " ++ pretty indent v) :: prettyEntries indent es

end

end Json

end Portcullis
