/-!
# Text

What the rest of the library asks of text: Unicode white space and trimming, letter case within ASCII, and cutting at
a separator. Parsers work on `List Char`, so that they recurse on their input; the domain types hold `String`.

* `cut_eq_some_iff`: a cut is made exactly at the first separator.
-/

namespace Portcullis.Text

/-! ## White space -/

/-- The characters with the Unicode property `White_Space`. -/
def isBlank (c : Char) : Bool :=
  let n := c.toNat
  (9 ≤ n && n ≤ 13) || n == 32 || n == 0x85 || n == 0xA0 || n == 0x1680 || (0x2000 ≤ n && n ≤ 0x200A) ||
    n == 0x2028 || n == 0x2029 || n == 0x202F || n == 0x205F || n == 0x3000

/-- The text without the characters of `p` at either end. -/
def stripEnds (p : Char → Bool) (cs : List Char) : List Char :=
  ((cs.dropWhile p).reverse.dropWhile p).reverse

/-- The text without white space at either end. -/
def trim (cs : List Char) : List Char :=
  stripEnds isBlank cs

/-- The text without white space at its start. -/
def trimStart (cs : List Char) : List Char :=
  cs.dropWhile isBlank

/-- `trim` on strings. -/
def trimmed (s : String) : String :=
  String.ofList (trim s.toList)

/-- The text holds nothing but white space. -/
def isBlankText (s : String) : Bool :=
  s.toList.all isBlank

/-! ## Letter case within ASCII -/

/-- Equality up to the case of ASCII letters. -/
def sameIgnoringCase (a b : String) : Bool :=
  a.toLower == b.toLower

theorem sameIgnoringCase_self (a : String) : sameIgnoringCase a a = true := by
  simp [sameIgnoringCase]

theorem sameIgnoringCase_comm (a b : String) : sameIgnoringCase a b = sameIgnoringCase b a :=
  BEq.comm

/-! ## Cutting at a separator -/

/-- The parts before and after the first `sep`. -/
def cut (sep : Char) : List Char → Option (List Char × List Char)
  | [] => none
  | c :: cs => if c = sep then some ([], cs) else (cut sep cs).map fun (a, b) => (c :: a, b)

theorem cut_append {sep : Char} {a b : List Char} (h : sep ∉ a) : cut sep (a ++ sep :: b) = some (a, b) := by
  induction a with
  | nil => simp [cut]
  | cons c a ih =>
    have hc : c ≠ sep := fun e => h (by simp [e])
    have ha : sep ∉ a := fun e => h (by simp [e])
    simp [cut, hc, ih ha]

theorem eq_append_of_cut {sep : Char} {cs a b : List Char} (h : cut sep cs = some (a, b)) :
    sep ∉ a ∧ cs = a ++ sep :: b := by
  induction cs generalizing a with
  | nil => simp [cut] at h
  | cons c cs ih =>
    by_cases hc : c = sep
    · simp only [cut, hc, if_true, Option.some.injEq, Prod.mk.injEq] at h
      obtain ⟨rfl, rfl⟩ := h
      simp [hc]
    · simp only [cut, hc, if_false, Option.map_eq_some_iff] at h
      obtain ⟨⟨a', b'⟩, h', he⟩ := h
      obtain ⟨rfl, rfl⟩ := Prod.mk.inj he
      obtain ⟨hn, rfl⟩ := ih h'
      exact ⟨by simp [hn, Ne.symm hc], rfl⟩

theorem cut_eq_some_iff {sep : Char} {cs a b : List Char} :
    cut sep cs = some (a, b) ↔ sep ∉ a ∧ cs = a ++ sep :: b :=
  ⟨eq_append_of_cut, fun ⟨h, e⟩ => e ▸ cut_append h⟩

/-- `cut` on strings. -/
def cutString (sep : Char) (s : String) : Option (String × String) :=
  (cut sep s.toList).map fun (a, b) => (String.ofList a, String.ofList b)

/-- The part before the first `sep`, or the whole text. -/
def upTo (sep : Char) (cs : List Char) : List Char :=
  cs.takeWhile (· != sep)

/-- The parts between the separators; one part more than there are separators. -/
def fields (sep : Char) (s : String) : List String :=
  (s.toList.splitOn sep).map String.ofList

/-- The trimmed parts of a list written with commas, empty ones included. -/
def commaParts (s : String) : List String :=
  (s.toList.splitOn ',').map fun part => String.ofList (trim part)

/-- The trimmed, non-empty parts of a list written with commas. -/
def commaTokens (s : String) : List String :=
  (commaParts s).filter (· != "")

/-- The text without `start`, if it starts with it. -/
def after? : List Char → List Char → Option (List Char)
  | [], cs => some cs
  | _ :: _, [] => none
  | a :: start, c :: cs => if a = c then after? start cs else none

/-- Does the text hold `part` somewhere? -/
def holds (part : List Char) : List Char → Bool
  | [] => part.isEmpty
  | c :: cs => part.isPrefixOf (c :: cs) || holds part cs

/-- The numeral of `n` in decimal digits. -/
def decimal (n : Nat) : String :=
  String.ofList (Nat.toDigits 10 n)

/-- Digits with zeros in front, up to a width. -/
def padded (width : Nat) (digits : List Char) : String :=
  String.ofList (List.replicate (width - digits.length) '0' ++ digits)

/-- The numeral of `n / 10 ^ places` with a point: all its places, or a zero where there are none. -/
def withPoint (n places : Nat) : String :=
  decimal (n / Nat.pow 10 places) ++ "." ++ padded places (Nat.toDigits 10 (n % Nat.pow 10 places))

/-- The value of a non-empty run of decimal digits. -/
def decimalValue? (cs : List Char) : Option Nat :=
  if cs.isEmpty then none else cs.foldlM (fun n c => if c.isDigit then some (n * 10 + (c.toNat - 48)) else none) 0

end Portcullis.Text
