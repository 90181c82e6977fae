import Portcullis.Text.Basic

/-!
# Numbers of double precision

The numbers `± m · 2 ^ e` with `m < 2 ^ 53` and `-1074 ≤ e ≤ 971`, two infinities and a value that is no number. All
arithmetic is exact arithmetic on natural numbers followed by one rounding to the nearest such number, ties to even.

* `Binary64.ofRatio`: the number nearest to a quotient.
* `Binary64.parse?`: the number nearest to a decimal text.
* `Binary64.fixed`, `Binary64.text`: the text with a fixed number of places, and the shortest that reads back.
-/

namespace Portcullis

/-- A number of double precision. -/
inductive Binary64
  | nan
  | infinite (negative : Bool)
  | finite (negative : Bool) (mantissa : Nat) (exponent : Int)
  deriving DecidableEq, Repr

/-- The quotient rounded to the nearest natural number, ties to even. -/
def roundDiv (n d : Nat) : Nat :=
  let q := n / d
  if 2 * (n % d) > d ∨ (2 * (n % d) = d ∧ q % 2 = 1) then q + 1 else q

namespace Binary64

/-! ## Rounding -/

/-- Numerator and denominator of `num / den / 2 ^ e`. -/
def scale (num den : Nat) (e : Int) : Nat × Nat :=
  if 0 ≤ e then (num, den * Nat.pow 2 e.toNat) else (num * Nat.pow 2 (-e).toNat, den)

/-- The exponent at which a positive quotient has 53 bits before the point, or the least exponent. -/
def exponentOf (num den : Nat) : Int :=
  let e := max ((num.log2 : Int) - den.log2 - 53) (-1074)
  let (n, d) := scale num den e
  if Nat.pow 2 53 ≤ n / d then e + 1 else e

/-- The number with a mantissa of at most `2 ^ 53`. -/
def ofParts (negative : Bool) (m : Nat) (e : Int) : Binary64 :=
  let (m, e) := if m = Nat.pow 2 53 then (Nat.pow 2 52, e + 1) else (m, e)
  if 971 < e then .infinite negative else .finite negative m e

/-- The number nearest to `num / den`, with a sign. -/
def ofSignedRatio (negative : Bool) (num den : Nat) : Binary64 :=
  if num = 0 then .finite negative 0 (-1074)
  else
    let e := exponentOf num den
    let (n, d) := scale num den e
    ofParts negative (roundDiv n d) e

/-- The number nearest to `num / den`. -/
def ofRatio (num den : Nat) : Binary64 :=
  ofSignedRatio false num den

/-- The number nearest to a natural number. -/
def ofNat (n : Nat) : Binary64 :=
  ofRatio n 1

/-- Numerator and denominator of the size of a finite number. -/
def ratio (m : Nat) (e : Int) : Nat × Nat :=
  if 0 ≤ e then (m * Nat.pow 2 e.toNat, 1) else (m, Nat.pow 2 (-e).toNat)

/-- The sum of two numbers that are finite and not negative; other numbers have none. -/
def add : Binary64 → Binary64 → Binary64
  | .finite false m e, .finite false m' e' =>
    let (n, d) := ratio m e
    let (n', d') := ratio m' e'
    ofRatio (n * d' + n' * d) (d * d')
  | _, _ => .nan

/-- The size of a number rounded down to a natural number below `2 ^ 64`; the greatest of them if it is too great. -/
def floorWord : Binary64 → Nat
  | .nan => 0
  | .infinite _ => Nat.pow 2 64 - 1
  | .finite _ m e =>
    let (n, d) := ratio m e
    min (n / d) (Nat.pow 2 64 - 1)

/-- One divided by a number that is positive; other numbers give no number. -/
def reciprocal : Binary64 → Binary64
  | .finite false m e => if m = 0 then .nan else ofRatio (ratio m e).2 (ratio m e).1
  | _ => .nan

/-! ## Decimal text -/

/-- The digits at the start of a text, and what follows. -/
def spanDigits (cs : List Char) : List Char × List Char :=
  cs.span Char.isDigit

/-- The value of a run of digits. -/
def digitsValue (cs : List Char) : Nat :=
  cs.foldl (fun n c => n * 10 + (c.toNat - 48)) 0

/-- A sign at the start of a text, and what follows. -/
def spanSign : List Char → Bool × List Char
  | '-' :: cs => (true, cs)
  | '+' :: cs => (false, cs)
  | cs => (false, cs)

/-- Reads an exponent, up to the end of the text. -/
def exponent? : List Char → Option Int
  | [] => some 0
  | c :: cs =>
    if c = 'e' ∨ c = 'E' then
      let (negative, ds) := spanSign cs
      if ds.isEmpty ∨ !ds.all Char.isDigit then none
      else some (if negative then -(digitsValue ds : Int) else digitsValue ds)
    else none

/-- The number nearest to `digits · 10 ^ e`. An exponent far out of range decides without computing the power. -/
def ofDecimal (negative : Bool) (digits : List Char) (e : Int) : Binary64 :=
  let n := digitsValue digits
  if n = 0 then ofSignedRatio negative 0 1
  else if 400 < e then .infinite negative
  else if (digits.length : Int) + e < -400 then ofSignedRatio negative 0 1
  else if 0 ≤ e then ofSignedRatio negative (n * Nat.pow 10 e.toNat) 1
  else ofSignedRatio negative n (Nat.pow 10 (-e).toNat)

/-- Reads digits, with or without a point among them, and an exponent. -/
def parseDigits? (negative : Bool) (cs : List Char) : Option Binary64 := do
  let (whole, rest) := spanDigits cs
  let (fraction, rest) := match rest with
    | '.' :: cs => spanDigits cs
    | rest => ([], rest)
  let e ← exponent? rest
  if whole.isEmpty && fraction.isEmpty then none
  else some (ofDecimal negative (whole ++ fraction) (e - fraction.length))

/-- Reads a number: a decimal text, or the name of an infinity or of no number, in any case. -/
def parse? (s : String) : Option Binary64 :=
  let (negative, cs) := spanSign s.toList
  match (String.ofList cs).toLower with
  | "nan" => some .nan
  | "inf" | "infinity" => some (.infinite negative)
  | _ => parseDigits? negative cs

/-- The size of a finite number with a fixed number of places, ties to even. -/
def fixed (places : Nat) : Binary64 → String
  | .nan => "NaN"
  | .infinite negative => if negative then "-inf" else "inf"
  | .finite negative m e =>
    let (n, d) := ratio m e
    (if negative then "-" else "") ++ Text.withPoint (roundDiv (n * Nat.pow 10 places) d) places

/-! ## The shortest text -/

/-- The ends of the interval of values that round to `m · 2 ^ e`, as numerators over four times the denominator. -/
def roundingEnds (m : Nat) (e : Int) : Nat × Nat :=
  (if m = Nat.pow 2 52 ∧ -1074 < e then 4 * m - 1 else 4 * m - 2, 4 * m + 2)

/-- The nearer of the two neighbours of a number on the grid of multiples of `10 ^ k`, if it rounds to the number. -/
def onGrid? (m : Nat) (e k : Int) : Option Nat :=
  let (n, d) := ratio m e
  let (n, d) := if 0 ≤ k then (n, d * Nat.pow 10 k.toNat) else (n * Nat.pow 10 (-k).toNat, d)
  -- in units of the grid, the number is `n / d` and an end of the interval `low / 4m` of it
  let (low, high) := roundingEnds m e
  let inside (x : Nat) : Bool :=
    let lhs := x * d * 4 * m
    if m % 2 = 0 then n * low ≤ lhs && lhs ≤ n * high else n * low < lhs && lhs < n * high
  let below := n / d
  let near := roundDiv n d
  let far := if near = below then below + 1 else below
  if inside near then some near else if inside far then some far else none

/-- The decimal exponent of the first digit of a positive number. -/
def leading (m : Nat) (e : Int) : Int :=
  let (n, d) := ratio m e
  if d ≤ n then ((Nat.toDigits 10 (n / d)).length : Int) - 1
  else -((Nat.toDigits 10 ((d - 1) / n)).length : Int)

/-- The fewest digits that read back, and the exponent of the last of them. -/
def shortest (m : Nat) (e : Int) : Nat × Int :=
  let k := leading m e
  ((List.range 17).findSome? fun (i : Nat) =>
    (onGrid? m e (k - i)).bind fun x =>
      if x = 0 then none else if x % 10 = 0 then some (x / 10, k - i + 1) else some (x, k - i)).getD (0, 0)

/-- A decimal number in positional notation, with a point in any case. -/
def positional (digits : Nat) (e : Int) : String :=
  Text.withPoint (digits * Nat.pow 10 e.toNat) (-e).toNat

/-- A decimal number with one digit before the point, and no point if that is all. -/
def scientific (digits : Nat) (e : Int) : String :=
  let ds := Nat.toDigits 10 digits
  String.ofList (ds.take 1 ++ (if ds.length = 1 then [] else '.' :: ds.drop 1)) ++ "e" ++
    toString (e + ds.length - 1)

/-- The shortest text that reads back: positional where the point stands within 16 digits or after at most four zeros,
scientific elsewhere. -/
def text : Binary64 → String
  | .nan => "NaN"
  | .infinite negative => if negative then "-inf" else "inf"
  | .finite negative m e =>
    let (digits, k) := shortest m e
    let point := (Nat.toDigits 10 digits).length + k
    (if negative then "-" else "") ++
      if m = 0 then "0.0" else if -5 < point ∧ point ≤ 16 then positional digits k else scientific digits k

/-! ## Bits -/

/-- The 64 bits of a number, as a natural number. -/
def bits : Binary64 → Nat
  | .nan => 0x7FF8000000000000
  | .infinite negative => (if negative then Nat.pow 2 63 else 0) + 0x7FF0000000000000
  | .finite negative m e =>
    (if negative then Nat.pow 2 63 else 0) +
      if m < Nat.pow 2 52 then m else (e + 1075).toNat * Nat.pow 2 52 + (m - Nat.pow 2 52)

/-- The bits as 16 hexadecimal digits. -/
def hexBits (b : Binary64) : String :=
  Text.padded 16 (Nat.toDigits 16 b.bits)

/-! ## Order -/

/-- Is the number zero or negative? -/
def isNonPositive : Binary64 → Bool
  | .nan => false
  | .infinite negative => negative
  | .finite negative m _ => negative || m = 0

/-- The number nearest to it between 0 and 1; zeros and what is no number stay as they are. -/
def clampUnit : Binary64 → Binary64
  | .nan => .nan
  | .infinite negative => if negative then ofNat 0 else ofNat 1
  | .finite negative m e =>
    let (n, d) := ratio m e
    if negative then (if m = 0 then .finite negative m e else ofNat 0)
    else if d < n then ofNat 1 else .finite negative m e

end Binary64

end Portcullis
