/-!
# Punycode

Text written with the characters of host names alone: first the ASCII characters as they are, then, after a hyphen, the
others as a series of steps. A step says how many places and characters to skip before the next insertion; it is a
number with digits of 36 values whose thresholds adapt to the steps before it.

* `readStep_length`: a step takes at least one digit, so that reading ends.
-/

namespace Portcullis.Punycode

/-- The value of a digit, in either case. -/
def digitValue? (c : Char) : Option Nat :=
  if 'a' ≤ c ∧ c ≤ 'z' then some (c.toNat - 97)
  else if 'A' ≤ c ∧ c ≤ 'Z' then some (c.toNat - 65)
  else if '0' ≤ c ∧ c ≤ '9' then some (c.toNat - 22)
  else none

/-- The digit of a value below 36. -/
def digit (n : Nat) : Char :=
  if n < 26 then Char.ofNat (n + 97) else Char.ofNat (n + 22)

/-- The threshold of the digit with weight position `k`: below it, the digit is the last of its number. -/
def threshold (k bias : Nat) : Nat :=
  if k ≤ bias then 1 else min 26 (k - bias)

theorem one_le_threshold (k bias : Nat) : 1 ≤ threshold k bias := by
  unfold threshold; split <;> omega

theorem threshold_le (k bias : Nat) : threshold k bias ≤ 26 := by
  unfold threshold; split <;> omega

/-- Divides by 35 until at most 455 is left; the quotient, and 36 for every division. -/
def shrink (delta k : Nat) : Nat × Nat :=
  if 455 < delta then shrink (delta / 35) (k + 36) else (delta, k)
termination_by delta
decreasing_by exact Nat.div_lt_self (by omega) (by omega)

/-- The bias after a step; the first step of a text counts for less. -/
def adapt (delta count : Nat) (first : Bool) : Nat :=
  let halved := if first then delta / 700 else delta / 2
  let (rest, k) := shrink (halved + halved / count) 0
  k + 36 * rest / (rest + 38)

/-! ## Reading -/

/-- Reads a step: the number, and what follows it. -/
def readStep (bias : Nat) : Nat → Nat → Nat → List Char → Option (Nat × List Char)
  | _, _, _, [] => none
  | k, weight, sum, c :: cs =>
    match digitValue? c with
    | none => none
    | some d =>
      let t := threshold k bias
      if d < t then some (sum + d * weight, cs)
      else readStep bias (k + 36) (weight * (36 - t)) (sum + d * weight) cs

theorem readStep_length {bias : Nat} {cs rest : List Char} :
    ∀ {k weight sum n : Nat}, readStep bias k weight sum cs = some (n, rest) → rest.length < cs.length := by
  induction cs with
  | nil => intro k weight sum n h; simp [readStep] at h
  | cons c cs ih =>
    intro k weight sum n h
    rw [readStep] at h
    split at h
    · simp at h
    · dsimp only at h
      split at h
      · obtain ⟨-, rfl⟩ := Prod.mk.inj (Option.some.inj h)
        simp
      · exact Nat.lt_succ_of_lt (ih h)

/-- Reads the steps and makes the insertions. `n` is the character inserted last and `place` the place after it. -/
def readSteps (bias n place : Nat) (first : Bool) (out cs : List Char) : Option (List Char) :=
  if cs = [] then some out
  else match _step : readStep bias 36 1 0 cs with
    | none => none
    | some (delta, rest) =>
      let count := out.length + 1
      let next := n + (place + delta) / count
      let spot := (place + delta) % count
      if next.isValidChar then
        readSteps (adapt delta count first) next (spot + 1) false (out.insertIdx spot (Char.ofNat next)) rest
      else none
termination_by cs.length
decreasing_by exact readStep_length _step

/-- Reads a text. The ASCII characters are what stands before the last hyphen, and a hyphen at the start is none. -/
def decode? (cs : List Char) : Option (List Char) :=
  let tail := (cs.reverse.takeWhile (· != '-')).reverse
  let ascii := cs.take (cs.length - tail.length - 1)
  if cs.contains '-' && ascii.isEmpty then none
  else if ascii.all (·.toNat < 128) then readSteps 72 128 0 true ascii tail
  else none

/-! ## Writing -/

/-- Writes a step. -/
def writeStep (bias k n : Nat) : List Char :=
  let t := threshold k bias
  if n < t then [digit n]
  else digit (t + (n - t) % (36 - t)) :: writeStep bias (k + 36) ((n - t) / (36 - t))
termination_by n
decreasing_by
  have h₁ := one_le_threshold k bias
  have h₂ := threshold_le k bias
  exact Nat.lt_of_le_of_lt (Nat.div_le_self _ _) (by omega)

/-- Where writing stands: the characters handled, the step so far, the bias. -/
structure Progress where
  out : List Char := []
  handled : Nat
  delta : Nat := 0
  bias : Nat := 72
  first : Bool := true

/-- Passes one character of the text while the characters `n` are inserted. -/
def pass (n : Nat) (p : Progress) (c : Char) : Progress :=
  if c.toNat < n then { p with delta := p.delta + 1 }
  else if c.toNat = n then
    { out := p.out ++ writeStep p.bias 36 p.delta
      handled := p.handled + 1
      delta := 0
      bias := adapt p.delta (p.handled + 1) p.first
      first := false }
  else p

/-- Inserts the characters `n` for each `n` of an ascending list; `done` is one more than the one before. -/
def writeSteps (cs : List Char) : Nat → List Nat → Progress → List Char
  | _, [], p => p.out
  | done, n :: ns, p =>
    let p := { p with delta := p.delta + (n - done) * (p.handled + 1) }
    let p := cs.foldl (pass n) p
    writeSteps cs (n + 1) ns { p with delta := p.delta + 1 }

/-- Writes a text. -/
def encode (cs : List Char) : List Char :=
  let ascii := cs.filter (·.toNat < 128)
  let others := ((cs.filter (128 ≤ ·.toNat)).map Char.toNat).mergeSort.eraseDups
  ascii ++ (if ascii.isEmpty then [] else ['-']) ++ writeSteps cs 128 others { handled := ascii.length }

end Portcullis.Punycode
