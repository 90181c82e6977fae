import Mathlib.Data.List.Basic
import Mathlib.Tactic.IntervalCases
import Portcullis.Codec.Utf8

/-!
# Text as bytes, and back

Every text has one spelling in bytes: bytes that encode a text are those that it is written with
(`Utf8.decode?_eq_some_iff`). It is enough to see this for one character (`Utf8.readOne_charBytes`,
`Utf8.eq_charBytes_of_readOne`): the first byte says how many follow and how the first of these is bounded
(`Utf8.lead?_cases`), and the bounds leave out what has a shorter spelling or stands for no character.
-/

namespace Portcullis.Utf8

variable {n m bits more low high : Nat} {b : UInt8} {bs bs' : List UInt8} {c : Char} {cs : List Char}

/-! ## Numbers of characters -/

/-- The bytes of the character of a number. -/
def charBytes (n : Nat) : List UInt8 :=
  if n ≤ 127 then [.ofNat n]
  else if n ≤ 2047 then [.ofNat (n / 64 % 32 + 192), .ofNat (n % 64 + 128)]
  else if n ≤ 65535 then [.ofNat (n / 4096 % 16 + 224), .ofNat (n / 64 % 64 + 128), .ofNat (n % 64 + 128)]
  else [.ofNat (n / 262144 % 8 + 240), .ofNat (n / 4096 % 64 + 128), .ofNat (n / 64 % 64 + 128), .ofNat (n % 64 + 128)]

theorem utf8EncodeChar_eq (c : Char) : String.utf8EncodeChar c = charBytes c.toNat := rfl

theorem toNat_ofNat (h : n.isValidChar) : (Char.ofNat n).toNat = n := by
  rw [Char.ofNat, dif_pos h]
  rfl

theorem toNat_byte (h : n < 256) : (UInt8.ofNat n).toNat = n :=
  UInt8.toNat_ofNat_of_lt' h

theorem isValidChar_toNat (c : Char) : c.toNat.isValidChar :=
  c.valid

/-! ## First bytes -/

theorem lead?_two (hlow : 2 ≤ m) (hhigh : m < 32) : lead? (m + 192) = some { bits := m, more := 1 } := by
  interval_cases m <;> rfl

theorem lead?_three (h : m < 16) : lead? (m + 224) =
    some { bits := m, more := 2, low := if m = 0 then 0xA0 else 0x80, high := if m = 13 then 0x9F else 0xBF } := by
  interval_cases m <;> rfl

theorem lead?_four (h : m < 5) : lead? (m + 240) =
    some { bits := m, more := 3, low := if m = 0 then 0x90 else 0x80, high := if m = 4 then 0x8F else 0xBF } := by
  interval_cases m <;> rfl

/-- There are no other first bytes of characters of several bytes. -/
theorem lead?_cases {l : Lead} (h : lead? n = some l) :
    (∃ m, 2 ≤ m ∧ m < 32 ∧ n = m + 192) ∨ (∃ m, m < 16 ∧ n = m + 224) ∨ ∃ m, m < 5 ∧ n = m + 240 := by
  have hrange : 192 + 2 ≤ n ∧ n < 192 + 32 ∨ 224 ≤ n ∧ n < 224 + 16 ∨ 240 ≤ n ∧ n < 240 + 5 := by
    by_contra hout
    have hnone : lead? n = none := by
      unfold lead?
      repeat' rw [if_neg (by omega)]
    rw [hnone] at h
    cases h
  rcases hrange with hn | hn | hn
  · exact .inl ⟨n - 192, by omega, by omega, by omega⟩
  · exact .inr (.inl ⟨n - 224, by omega, by omega⟩)
  · exact .inr (.inr ⟨n - 240, by omega, by omega⟩)

theorem readOne_of_lead {l : Lead} (hb : 0x80 ≤ b.toNat) (hl : lead? b.toNat = some l) (bs : List UInt8) :
    readOne b bs = readTail l.bits l.more l.low l.high bs := by
  rw [readOne, if_neg (by omega), hl]

/-! ## Tails -/

theorem readTail_cons (hlow : low ≤ n) (hhigh : n ≤ high) (hn : n < 256) (bs : List UInt8) :
    readTail bits (more + 1) low high (.ofNat n :: bs) = readTail (bits * 64 + n % 64) more 0x80 0xBF bs := by
  rw [readTail, toNat_byte hn, if_pos ⟨hlow, hhigh⟩]

/-- Where a tail is read, its first byte is within the bounds. -/
theorem exists_of_readTail (h : readTail bits (more + 1) low high bs = (some c, bs')) :
    ∃ n rest, bs = .ofNat n :: rest ∧ low ≤ n ∧ n ≤ high ∧
      readTail (bits * 64 + n % 64) more 0x80 0xBF rest = (some c, bs') := by
  cases bs with
  | nil => cases h
  | cons b rest =>
    rw [readTail] at h
    split at h
    · obtain ⟨hlow, hhigh⟩ := ‹low ≤ b.toNat ∧ b.toNat ≤ high›
      exact ⟨b.toNat, rest, by rw [UInt8.ofNat_toNat], hlow, hhigh, h⟩
    · cases h

/-! ## One character -/

/-- What is written for a character is read as this character. -/
theorem readOne_charBytes (h : n.isValidChar) (bs : List UInt8) :
    ∃ b rest, charBytes n = b :: rest ∧ readOne b (rest ++ bs) = (some (Char.ofNat n), bs) := by
  unfold Nat.isValidChar at h
  unfold charBytes
  split
  · refine ⟨_, _, rfl, ?_⟩
    rw [readOne, toNat_byte (by omega), if_pos (by omega)]
    rfl
  split
  · refine ⟨_, _, rfl, ?_⟩
    have hb := toNat_byte (n := n / 64 % 32 + 192) (by omega)
    rw [readOne_of_lead (by omega) (by rw [hb]; exact lead?_two (by omega) (by omega))]
    simp only [List.cons_append, List.nil_append]
    rw [readTail_cons (by omega) (by omega) (by omega), readTail]
    congr 3
    omega
  split
  · refine ⟨_, _, rfl, ?_⟩
    have hb := toNat_byte (n := n / 4096 % 16 + 224) (by omega)
    rw [readOne_of_lead (by omega) (by rw [hb]; exact lead?_three (by omega))]
    simp only [List.cons_append, List.nil_append]
    rw [readTail_cons (by split <;> omega) (by split <;> omega) (by omega),
      readTail_cons (by omega) (by omega) (by omega), readTail]
    congr 3
    omega
  · refine ⟨_, _, rfl, ?_⟩
    have hb := toNat_byte (n := n / 262144 % 8 + 240) (by omega)
    rw [readOne_of_lead (by omega) (by rw [hb]; exact lead?_four (by omega))]
    simp only [List.cons_append, List.nil_append]
    rw [readTail_cons (by split <;> omega) (by split <;> omega) (by omega),
      readTail_cons (by omega) (by omega) (by omega), readTail_cons (by omega) (by omega) (by omega), readTail]
    congr 3
    omega

/-- Two bytes spell a character that has no shorter spelling. -/
theorem charBytes_two {n₁ : Nat} (hm : 2 ≤ m) (hm' : m < 32) (hlow : 128 ≤ n₁) (hhigh : n₁ ≤ 191) :
    (m * 64 + n₁ % 64).isValidChar ∧ charBytes (m * 64 + n₁ % 64) = [.ofNat (m + 192), .ofNat n₁] := by
  refine ⟨.inl (by omega), ?_⟩
  rw [charBytes, if_neg (by omega), if_pos (by omega), show (m * 64 + n₁ % 64) / 64 % 32 = m by omega,
    show (m * 64 + n₁ % 64) % 64 + 128 = n₁ by omega]

/-- Three bytes spell a character that has no shorter spelling, unless they stand for a surrogate. -/
theorem charBytes_three {n₁ n₂ : Nat} (hm : m < 16) (hlow : 128 ≤ n₁ ∧ (m = 0 → 160 ≤ n₁))
    (hhigh : n₁ ≤ 191 ∧ (m = 13 → n₁ ≤ 159)) (hlow₂ : 128 ≤ n₂) (hhigh₂ : n₂ ≤ 191) :
    ((m * 64 + n₁ % 64) * 64 + n₂ % 64).isValidChar ∧
      charBytes ((m * 64 + n₁ % 64) * 64 + n₂ % 64) = [.ofNat (m + 224), .ofNat n₁, .ofNat n₂] := by
  refine ⟨?_, ?_⟩
  · unfold Nat.isValidChar
    omega
  rw [charBytes, if_neg (by omega), if_neg (by omega), if_pos (by omega),
    show ((m * 64 + n₁ % 64) * 64 + n₂ % 64) / 4096 % 16 = m by omega,
    show ((m * 64 + n₁ % 64) * 64 + n₂ % 64) / 64 % 64 + 128 = n₁ by omega,
    show ((m * 64 + n₁ % 64) * 64 + n₂ % 64) % 64 + 128 = n₂ by omega]

/-- Four bytes spell a character that has no shorter spelling, unless they stand for a number past the last one. -/
theorem charBytes_four {n₁ n₂ n₃ : Nat} (hm : m < 5) (hlow : 128 ≤ n₁ ∧ (m = 0 → 144 ≤ n₁))
    (hhigh : n₁ ≤ 191 ∧ (m = 4 → n₁ ≤ 143)) (hlow₂ : 128 ≤ n₂) (hhigh₂ : n₂ ≤ 191) (hlow₃ : 128 ≤ n₃)
    (hhigh₃ : n₃ ≤ 191) : (((m * 64 + n₁ % 64) * 64 + n₂ % 64) * 64 + n₃ % 64).isValidChar ∧
      charBytes (((m * 64 + n₁ % 64) * 64 + n₂ % 64) * 64 + n₃ % 64) =
        [.ofNat (m + 240), .ofNat n₁, .ofNat n₂, .ofNat n₃] := by
  refine ⟨?_, ?_⟩
  · unfold Nat.isValidChar
    omega
  rw [charBytes, if_neg (by omega), if_neg (by omega), if_neg (by omega),
    show (((m * 64 + n₁ % 64) * 64 + n₂ % 64) * 64 + n₃ % 64) / 262144 % 8 = m by omega,
    show (((m * 64 + n₁ % 64) * 64 + n₂ % 64) * 64 + n₃ % 64) / 4096 % 64 + 128 = n₁ by omega,
    show (((m * 64 + n₁ % 64) * 64 + n₂ % 64) * 64 + n₃ % 64) / 64 % 64 + 128 = n₂ by omega,
    show (((m * 64 + n₁ % 64) * 64 + n₂ % 64) * 64 + n₃ % 64) % 64 + 128 = n₃ by omega]

/-- What is read as a character of several bytes has been written for it. -/
theorem eq_charBytes_of_lead (h : readOne b bs = (some c, bs')) (hb : 0x80 ≤ b.toNat) :
    b :: bs = charBytes c.toNat ++ bs' := by
  cases hl : lead? b.toNat with
  | none =>
    rw [readOne, if_neg (by omega), hl] at h
    cases h
  | some l =>
    rw [readOne_of_lead hb hl] at h
    rw [← UInt8.ofNat_toNat (x := b)]
    rcases lead?_cases hl with ⟨m, hlow, hhigh, hm⟩ | ⟨m, hm', hm⟩ | ⟨m, hm', hm⟩
    · rw [hm, lead?_two hlow hhigh] at hl
      cases hl
      obtain ⟨n₁, rest, rfl, hlow₁, hhigh₁, h⟩ := exists_of_readTail h
      cases h
      obtain ⟨hvalid, hbytes⟩ := charBytes_two hlow hhigh hlow₁ hhigh₁
      rw [toNat_ofNat hvalid, hbytes, hm]
      rfl
    · rw [hm, lead?_three hm'] at hl
      cases hl
      obtain ⟨n₁, rest, rfl, hlow₁, hhigh₁, h⟩ := exists_of_readTail h
      obtain ⟨n₂, rest, rfl, hlow₂, hhigh₂, h⟩ := exists_of_readTail h
      cases h
      dsimp only at hlow₁ hhigh₁
      have hshort : 128 ≤ n₁ ∧ (m = 0 → 160 ≤ n₁) := by split at hlow₁ <;> omega
      have hsurrogate : n₁ ≤ 191 ∧ (m = 13 → n₁ ≤ 159) := by split at hhigh₁ <;> omega
      obtain ⟨hvalid, hbytes⟩ := charBytes_three hm' hshort hsurrogate hlow₂ hhigh₂
      rw [toNat_ofNat hvalid, hbytes, hm]
      rfl
    · rw [hm, lead?_four hm'] at hl
      cases hl
      obtain ⟨n₁, rest, rfl, hlow₁, hhigh₁, h⟩ := exists_of_readTail h
      obtain ⟨n₂, rest, rfl, hlow₂, hhigh₂, h⟩ := exists_of_readTail h
      obtain ⟨n₃, rest, rfl, hlow₃, hhigh₃, h⟩ := exists_of_readTail h
      cases h
      dsimp only at hlow₁ hhigh₁
      have hshort : 128 ≤ n₁ ∧ (m = 0 → 144 ≤ n₁) := by split at hlow₁ <;> omega
      have hlast : n₁ ≤ 191 ∧ (m = 4 → n₁ ≤ 143) := by split at hhigh₁ <;> omega
      obtain ⟨hvalid, hbytes⟩ := charBytes_four hm' hshort hlast hlow₂ hhigh₂ hlow₃ hhigh₃
      rw [toNat_ofNat hvalid, hbytes, hm]
      rfl

/-- What is read as a character has been written for it. -/
theorem eq_charBytes_of_readOne (h : readOne b bs = (some c, bs')) : b :: bs = charBytes c.toNat ++ bs' := by
  by_cases hb : b.toNat < 0x80
  · rw [readOne, if_pos hb] at h
    cases h
    rw [toNat_ofNat (.inl (by omega)), charBytes, if_pos (by omega), UInt8.ofNat_toNat]
    rfl
  · exact eq_charBytes_of_lead h (by omega)

/-! ## Texts -/

theorem readAll_encode (cs : List Char) : readAll (encode cs) = cs.map some := by
  induction cs with
  | nil => rw [encode, List.flatMap_nil, readAll, List.map_nil]
  | cons c cs ih =>
    obtain ⟨b, rest, hbytes, hread⟩ := readOne_charBytes (isValidChar_toNat c) (encode cs)
    have hcons : encode (c :: cs) = b :: (rest ++ encode cs) := by
      rw [encode, List.flatMap_cons, utf8EncodeChar_eq, hbytes]
      rfl
    rw [hcons, readAll, hread, ih, Char.ofNat_toNat, List.map_cons]

theorem eq_encode_of_readAll (h : readAll bs = cs.map some) : bs = encode cs := by
  fun_induction readAll bs generalizing cs with
  | case1 =>
    cases cs with
    | nil => rfl
    | cons c cs => cases h
  | case2 b bs ih =>
    cases cs with
    | nil => cases h
    | cons c cs =>
      obtain ⟨hc, hrest⟩ := List.cons.inj h
      have hread : readOne b bs = (some c, (readOne b bs).2) := Prod.ext hc rfl
      rw [eq_charBytes_of_readOne hread, ih hrest]
      rfl

/-- A list has no gaps if all that it has is there. -/
theorem mapM_id_eq_some_iff {os : List (Option Char)} : os.mapM id = some cs ↔ os = cs.map some := by
  induction os generalizing cs with
  | nil => cases cs <;> simp
  | cons o os ih =>
    rw [List.mapM_cons]
    cases o with
    | none => cases cs <;> simp
    | some c' =>
      cases cs with
      | nil => cases os.mapM id <;> simp
      | cons c cs =>
        rw [List.map_cons, List.cons.injEq, ← ih, Option.some.injEq]
        cases os.mapM id <;> simp

/-- Bytes encode a text exactly if they are what it is written with. -/
theorem decode?_eq_some_iff : decode? bs = some cs ↔ bs = encode cs := by
  rw [decode?, mapM_id_eq_some_iff]
  constructor
  · exact eq_encode_of_readAll
  · rintro rfl
    exact readAll_encode cs

theorem encode_injective : Function.Injective encode := by
  intro cs cs' h
  have hread := decode?_eq_some_iff.2 h
  rw [decode?_eq_some_iff.2 rfl] at hread
  exact Option.some.inj hread

end Portcullis.Utf8
