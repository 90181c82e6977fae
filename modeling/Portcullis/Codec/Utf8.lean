/-!
# UTF-8

Text as bytes and back. Bytes that encode no character are refused by `decode?`; `decodeLossy` puts U+FFFD for each of
them, or for each start of a character that is broken off.

* `readTail_length`: reading never gives back more bytes than there were, so that decoding ends.
-/

namespace Portcullis.Utf8

/-- The bytes of a text. -/
def encode (cs : List Char) : List UInt8 :=
  cs.flatMap String.utf8EncodeChar

/-- What the first byte of a character of several bytes says: the bits it carries, the number of bytes that follow,
and the range of the first of these. -/
structure Lead where
  bits : Nat
  more : Nat
  low : Nat := 0x80
  high : Nat := 0xBF

/-- Reads a first byte above 0x7F. -/
def lead? (b : Nat) : Option Lead :=
  if 0xC2 ≤ b ∧ b ≤ 0xDF then some { bits := b - 0xC0, more := 1 }
  else if b = 0xE0 then some { bits := 0, more := 2, low := 0xA0 }
  else if b = 0xED then some { bits := 0xD, more := 2, high := 0x9F }
  else if 0xE1 ≤ b ∧ b ≤ 0xEF then some { bits := b - 0xE0, more := 2 }
  else if b = 0xF0 then some { bits := 0, more := 3, low := 0x90 }
  else if 0xF1 ≤ b ∧ b ≤ 0xF3 then some { bits := b - 0xF0, more := 3 }
  else if b = 0xF4 then some { bits := 4, more := 3, high := 0x8F }
  else none

/-- Reads the bytes that follow a first one: the character, or nothing if they break off, and what is left. -/
def readTail (bits : Nat) : Nat → Nat → Nat → List UInt8 → Option Char × List UInt8
  | 0, _, _, bs => (some (Char.ofNat bits), bs)
  | _ + 1, _, _, [] => (none, [])
  | more + 1, low, high, b :: bs =>
    if low ≤ b.toNat ∧ b.toNat ≤ high then readTail (bits * 64 + b.toNat % 64) more 0x80 0xBF bs
    else (none, b :: bs)

theorem readTail_length (more : Nat) : ∀ (bits low high : Nat) (bs : List UInt8),
    (readTail bits more low high bs).2.length ≤ bs.length := by
  induction more with
  | zero => intros; simp [readTail]
  | succ more ih =>
    intro bits low high bs
    cases bs with
    | nil => simp [readTail]
    | cons b bs =>
      rw [readTail]
      split
      · exact Nat.le_trans (ih _ _ _ _) (by simp)
      · simp

/-- Reads one character, or finds that the bytes encode none. -/
def readOne (b : UInt8) (bs : List UInt8) : Option Char × List UInt8 :=
  if b.toNat < 0x80 then (some (Char.ofNat b.toNat), bs)
  else match lead? b.toNat with
    | none => (none, bs)
    | some l => readTail l.bits l.more l.low l.high bs

theorem readOne_length (b : UInt8) (bs : List UInt8) : (readOne b bs).2.length ≤ bs.length := by
  unfold readOne
  split
  · simp
  · split
    · simp
    · exact readTail_length _ _ _ _ _

/-- The characters that the bytes encode, with a gap wherever they encode none. -/
def readAll : List UInt8 → List (Option Char)
  | [] => []
  | b :: bs => (readOne b bs).1 :: readAll (readOne b bs).2
termination_by bs => bs.length
decreasing_by exact Nat.lt_succ_of_le (readOne_length b bs)

/-- The text that the bytes encode, if they encode one. -/
def decode? (bs : List UInt8) : Option (List Char) :=
  (readAll bs).mapM id

/-- The text that the bytes encode, with U+FFFD in every gap. -/
def decodeLossy (bs : List UInt8) : List Char :=
  (readAll bs).map (·.getD '\uFFFD')

end Portcullis.Utf8
