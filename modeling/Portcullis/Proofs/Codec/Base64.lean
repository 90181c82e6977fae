import Portcullis.Codec.Base64
import Portcullis.Proofs.Codec.Utf8
import Portcullis.Text.Basic

/-!
# Base 64 and bytes

Every list of bytes has one written form, and nothing else is read (`Base64.decode?_eq_some_iff`). Four digits and the
three bytes that they stand for say the same (`Base64.encode_bytes3`, `Base64.bytes3_toNat`); the last group may be
filled up, if the bits that its last digit has too many are zero (`Base64.decodeLast?_eq_some_iff`).
-/

namespace Portcullis.Base64

open Utf8 (toNat_byte)

variable {n a b c d : Nat} {ch : Char} {cs : List Char} {bs : List UInt8}

/-! ## Digits -/

theorem value?_digit (h : n < 64) : value? (digit n) = some n := by
  have hall : ∀ i : Fin 64, value? (digit i) = some i.val := by decide
  exact hall ⟨n, h⟩

theorem digit_plain (h : n < 64) : digit n ≠ '=' ∧ Text.isBlank (digit n) = false := by
  have hall : ∀ i : Fin 64, digit i ≠ '=' ∧ Text.isBlank (digit i) = false := by decide
  exact hall ⟨n, h⟩

theorem value?_eq_some_iff : value? ch = some n ↔ n < 64 ∧ ch = digit n := by
  constructor
  · intro h
    unfold value? at h
    unfold digit
    split at h
    · rename_i hrange
      obtain ⟨hlow, hhigh⟩ : 65 ≤ ch.toNat ∧ ch.toNat ≤ 90 := hrange
      cases h
      rw [if_pos (by omega), Nat.sub_add_cancel hlow, Char.ofNat_toNat]
      exact ⟨by omega, rfl⟩
    split at h
    · rename_i hrange
      obtain ⟨hlow, hhigh⟩ : 97 ≤ ch.toNat ∧ ch.toNat ≤ 122 := hrange
      cases h
      rw [if_neg (by omega), if_pos (by omega), Nat.sub_add_cancel (by omega), Char.ofNat_toNat]
      exact ⟨by omega, rfl⟩
    split at h
    · rename_i hrange
      obtain ⟨hlow, hhigh⟩ : 48 ≤ ch.toNat ∧ ch.toNat ≤ 57 := hrange
      cases h
      rw [if_neg (by omega), if_neg (by omega), if_pos (by omega), Nat.add_sub_cancel, Char.ofNat_toNat]
      exact ⟨by omega, rfl⟩
    split at h
    · cases h
      exact ⟨by decide, ‹_›⟩
    split at h
    · cases h
      exact ⟨by decide, ‹_›⟩
    · cases h
  · rintro ⟨hn, rfl⟩
    exact value?_digit hn

/-! ## Groups -/

/-- Four digits and the bytes that they stand for say the same. -/
theorem encode_bytes3 (ha : a < 64) (hb : b < 64) (hc : c < 64) (hd : d < 64) (bs : List UInt8) :
    encode (bytes3 a b c d ++ bs) = digit a :: digit b :: digit c :: digit d :: encode bs := by
  have hbytes : bytes3 a b c d ++ bs =
      .ofNat (a * 4 + b / 16) :: .ofNat (b % 16 * 16 + c / 4) :: .ofNat (c % 4 * 64 + d) :: bs := rfl
  rw [hbytes, encode, toNat_byte (by omega), toNat_byte (by omega), toNat_byte (by omega),
    show (a * 4 + b / 16) / 4 = a by omega,
    show (a * 4 + b / 16) % 4 * 16 + (b % 16 * 16 + c / 4) / 16 = b by omega,
    show (b % 16 * 16 + c / 4) % 16 * 4 + (c % 4 * 64 + d) / 64 = c by omega,
    show (c % 4 * 64 + d) % 64 = d by omega]

theorem bytes3_toNat (x y z : UInt8) : bytes3 (x.toNat / 4) (x.toNat % 4 * 16 + y.toNat / 16)
    (y.toNat % 16 * 4 + z.toNat / 64) (z.toNat % 64) = [x, y, z] := by
  have hy : y.toNat < 256 := y.toNat_lt
  have hz : z.toNat < 256 := z.toNat_lt
  rw [bytes3, show x.toNat / 4 * 4 + (x.toNat % 4 * 16 + y.toNat / 16) / 16 = x.toNat by omega,
    show (x.toNat % 4 * 16 + y.toNat / 16) % 16 * 16 + (y.toNat % 16 * 4 + z.toNat / 64) / 4 = y.toNat by omega,
    show (y.toNat % 16 * 4 + z.toNat / 64) % 4 * 64 + z.toNat % 64 = z.toNat by omega]
  simp only [UInt8.ofNat_toNat]

/-! ## The last group -/

/-- The last group stands for one byte, for two or for three. -/
theorem decodeLast?_eq_some_iff {c₁ c₂ c₃ c₄ : Char} : decodeLast? c₁ c₂ c₃ c₄ = some bs ↔ ∃ a b, a < 64 ∧ b < 64 ∧
    c₁ = digit a ∧ c₂ = digit b ∧
      (c₃ = '=' ∧ c₄ = '=' ∧ b % 16 = 0 ∧ bs = (bytes3 a b 0 0).take 1 ∨
        ∃ c < 64, c₃ = digit c ∧
          (c₄ = '=' ∧ c % 4 = 0 ∧ bs = (bytes3 a b c 0).take 2 ∨ ∃ d < 64, c₄ = digit d ∧ bs = bytes3 a b c d)) := by
  constructor
  · intro h
    obtain ⟨a, ha, h⟩ := Option.bind_eq_some_iff.1 h
    obtain ⟨b, hb, h⟩ := Option.bind_eq_some_iff.1 h
    rw [value?_eq_some_iff] at ha hb
    refine ⟨a, b, ha.1, hb.1, ha.2, hb.2, ?_⟩
    split at h
    · obtain ⟨⟨hpad, hzero⟩, ⟨⟩⟩ := Option.ite_none_right_eq_some.1 h
      exact .inl ⟨‹_›, hpad, hzero, rfl⟩
    obtain ⟨c, hc, h⟩ := Option.bind_eq_some_iff.1 h
    rw [value?_eq_some_iff] at hc
    refine .inr ⟨c, hc.1, hc.2, ?_⟩
    split at h
    · obtain ⟨hzero, ⟨⟩⟩ := Option.ite_none_right_eq_some.1 h
      exact .inl ⟨‹_›, hzero, rfl⟩
    obtain ⟨d, hd, ⟨⟩⟩ := Option.bind_eq_some_iff.1 h
    rw [value?_eq_some_iff] at hd
    exact .inr ⟨d, hd.1, hd.2, rfl⟩
  · rintro ⟨a, b, ha, hb, rfl, rfl, ⟨rfl, rfl, hzero, rfl⟩ | ⟨c, hc, rfl, ⟨rfl, hzero, rfl⟩ | ⟨d, hd, rfl, rfl⟩⟩⟩
    · simp [decodeLast?, value?_digit ha, value?_digit hb, hzero]
    · simp [decodeLast?, value?_digit ha, value?_digit hb, value?_digit hc, digit_plain hc, hzero]
    · simp [decodeLast?, value?_digit ha, value?_digit hb, value?_digit hc, digit_plain hc, value?_digit hd,
        digit_plain hd]

/-! ## Lists of bytes -/

theorem decode?_digits (ha : a < 64) (hb : b < 64) (hc : c < 64) (hd : d < 64) (cs : List Char) :
    decode? (digit a :: digit b :: digit c :: digit d :: cs) = (decode? cs).map (bytes3 a b c d ++ ·) := by
  cases cs with
  | nil => exact decodeLast?_eq_some_iff.2 ⟨a, b, ha, hb, rfl, rfl, .inr ⟨c, hc, rfl, .inr ⟨d, hd, rfl, rfl⟩⟩⟩
  | cons e cs =>
    rw [decode?, value?_digit ha, value?_digit hb, value?_digit hc, value?_digit hd]
    cases decode? (e :: cs) <;> rfl

theorem decode?_encode (bs : List UInt8) : decode? (encode bs) = some bs := by
  fun_induction encode bs with
  | case1 => rfl
  | case2 x =>
    have hx : x.toNat < 256 := x.toNat_lt
    refine decodeLast?_eq_some_iff.2 ⟨_, _, ?_, ?_, rfl, rfl, .inl ⟨rfl, rfl, ?_, ?_⟩⟩ <;> try omega
    rw [bytes3, show x.toNat / 4 * 4 + x.toNat % 4 * 16 / 16 = x.toNat by omega, UInt8.ofNat_toNat]
    rfl
  | case3 x y =>
    have hx : x.toNat < 256 := x.toNat_lt
    have hy : y.toNat < 256 := y.toNat_lt
    refine decodeLast?_eq_some_iff.2 ⟨_, _, ?_, ?_, rfl, rfl, .inr ⟨_, ?_, rfl, .inl ⟨rfl, ?_, ?_⟩⟩⟩ <;> try omega
    rw [bytes3, show x.toNat / 4 * 4 + (x.toNat % 4 * 16 + y.toNat / 16) / 16 = x.toNat by omega,
      show (x.toNat % 4 * 16 + y.toNat / 16) % 16 * 16 + y.toNat % 16 * 4 / 4 = y.toNat by omega, UInt8.ofNat_toNat,
      UInt8.ofNat_toNat]
    rfl
  | case4 x y z bs ih =>
    have hx : x.toNat < 256 := x.toNat_lt
    have hy : y.toNat < 256 := y.toNat_lt
    have hz : z.toNat < 256 := z.toNat_lt
    rw [decode?_digits (by omega) (by omega) (by omega) (by omega), ih, bytes3_toNat]
    rfl

theorem eq_encode_of_decode? (h : decode? cs = some bs) : cs = encode bs := by
  fun_induction decode? cs generalizing bs with
  | case1 =>
    cases h
    rfl
  | case2 c₁ c₂ c₃ c₄ =>
    obtain ⟨a, b, ha, hb, rfl, rfl, ⟨rfl, rfl, hzero, rfl⟩ | ⟨c, hc, rfl, ⟨rfl, hzero, rfl⟩ | ⟨d, hd, rfl, rfl⟩⟩⟩ :=
      decodeLast?_eq_some_iff.1 h
    · rw [bytes3, List.take_succ_cons, List.take_zero, encode, toNat_byte (by omega),
        show (a * 4 + b / 16) / 4 = a by omega, show (a * 4 + b / 16) % 4 * 16 = b by omega]
    · rw [bytes3, List.take_succ_cons, List.take_succ_cons, List.take_zero, encode, toNat_byte (by omega),
        toNat_byte (by omega), show (a * 4 + b / 16) / 4 = a by omega,
        show (a * 4 + b / 16) % 4 * 16 + (b % 16 * 16 + c / 4) / 16 = b by omega,
        show (b % 16 * 16 + c / 4) % 16 * 4 = c by omega]
    · rw [← List.append_nil (bytes3 a b c d), encode_bytes3 ha hb hc hd, encode]
  | case3 c₁ c₂ c₃ c₄ e cs ih =>
    obtain ⟨a, ha, h⟩ := Option.bind_eq_some_iff.1 h
    obtain ⟨b, hb, h⟩ := Option.bind_eq_some_iff.1 h
    obtain ⟨c, hc, h⟩ := Option.bind_eq_some_iff.1 h
    obtain ⟨d, hd, h⟩ := Option.bind_eq_some_iff.1 h
    obtain ⟨rest, hrest, ⟨⟩⟩ := Option.bind_eq_some_iff.1 h
    rw [value?_eq_some_iff] at ha hb hc hd
    rw [ha.2, hb.2, hc.2, hd.2, ih hrest, encode_bytes3 ha.1 hb.1 hc.1 hd.1]
  | case4 => cases h

/-- Bytes have one written form, and what is read is this form. -/
theorem decode?_eq_some_iff : decode? cs = some bs ↔ cs = encode bs := by
  constructor
  · exact eq_encode_of_decode?
  · rintro rfl
    exact decode?_encode bs

theorem encode_injective : Function.Injective encode := by
  intro bs bs' h
  have hread := decode?_encode bs
  rw [h, decode?_encode] at hread
  exact (Option.some.inj hread).symm

/-- There is no white space in what is written. -/
theorem isBlank_encode (bs : List UInt8) : ∀ c ∈ encode bs, Text.isBlank c = false := by
  have hpad : Text.isBlank '=' = false := by decide
  fun_induction encode bs with
  | case1 => exact nofun
  | case2 x =>
    have hx : x.toNat < 256 := x.toNat_lt
    simp only [List.forall_mem_cons]
    exact ⟨(digit_plain (by omega)).2, (digit_plain (by omega)).2, hpad, hpad, nofun⟩
  | case3 x y =>
    have hx : x.toNat < 256 := x.toNat_lt
    have hy : y.toNat < 256 := y.toNat_lt
    simp only [List.forall_mem_cons]
    exact ⟨(digit_plain (by omega)).2, (digit_plain (by omega)).2, (digit_plain (by omega)).2, hpad, nofun⟩
  | case4 x y z bs ih =>
    have hx : x.toNat < 256 := x.toNat_lt
    have hy : y.toNat < 256 := y.toNat_lt
    have hz : z.toNat < 256 := z.toNat_lt
    simp only [List.forall_mem_cons]
    exact ⟨(digit_plain (by omega)).2, (digit_plain (by omega)).2, (digit_plain (by omega)).2,
      (digit_plain (by omega)).2, ih⟩

end Portcullis.Base64
