import Mathlib.Algebra.Group.Nat.Defs
import Portcullis.Proofs.Text
import Portcullis.Ulid

/-!
# Ids and their texts

An id can be read off its text (`Ulid.parse_text`). A text that is read need not be the text of the id: 26 digits have
130 bits, two more than an id. Reading drops the two highest bits, which are bits of the first digit, and keeps all
others (`Ulid.digitAt_foldl`); so the text of the id is the one that was read, in capital letters, but for the first
digit (`Ulid.toList_text_of_parse`).
-/

namespace Portcullis.Ulid

variable {s : String} {c : Char} {cs : List Char} {n : Nat} {values : List Nat} {id : Ulid}

/-! ## Writing -/

theorem digitValue?_digitOf {n : Nat} (h : n < 32) : digitValue? (digitOf n) = some n := by
  have hall : ∀ i : Fin 32, digitValue? (digitOf i) = some i.val := by decide
  exact hall ⟨n, h⟩

theorem digitOf_plain {n : Nat} (h : n < 32) : Text.isBlank (digitOf n) = false ∧ digitOf n ≠ ';' ∧
    (digitOf n).utf8Size = 1 := by
  have hall : ∀ i : Fin 32, Text.isBlank (digitOf i) = false ∧ digitOf i ≠ ';' ∧ (digitOf i).utf8Size = 1 := by decide
  exact hall ⟨n, h⟩

theorem digitAt_lt (id : Ulid) (i : Nat) : id.digitAt i < 32 :=
  Nat.mod_lt _ (by decide)

/-- The next five bits. -/
theorem push_shiftRight (x : BitVec 128) (s : Nat) : push (x >>> (s + 5)) ((x >>> s).toNat % 32) = x >>> s := by
  apply BitVec.eq_of_getLsbD_eq
  intro j hj
  have hmod : (x >>> s).toNat % 32 = (x >>> s).toNat % 2 ^ 5 := rfl
  simp only [push, hmod, BitVec.getLsbD_or, BitVec.getLsbD_shiftLeft, BitVec.getLsbD_ushiftRight, BitVec.getLsbD_ofNat,
    Nat.testBit_mod_two_pow, BitVec.testBit_toNat]
  by_cases h : j < 5
  · simp [h, hj]
  · have hsum : s + 5 + (j - 5) = s + j := by omega
    simp [h, hj, hsum]

/-- After some digits have been read, what they stand for is there. -/
theorem foldl_push (id : Ulid) {k : Nat} (h : k ≤ 26) :
    ((List.range k).map id.digitAt).foldl push 0 = id.bits >>> (5 * (26 - k)) := by
  induction k with
  | zero =>
    apply BitVec.eq_of_getLsbD_eq
    intro j hj
    have hbeyond : id.bits.getLsbD (130 + j) = false := BitVec.getLsbD_of_ge _ _ (by omega)
    simp [hbeyond]
  | succ k ih =>
    have hshift : 5 * (26 - k) = 5 * (25 - k) + 5 := by omega
    have hnext : 5 * (26 - (k + 1)) = 5 * (25 - k) := by omega
    rw [List.range_succ, List.map_append, List.foldl_append, ih (by omega), hshift, hnext]
    exact push_shiftRight id.bits (5 * (25 - k))

theorem text_toList (id : Ulid) : id.text.toList = (List.range 26).map fun i => digitOf (id.digitAt i) := by
  simp [text]

/-- The characters of a text are digits. -/
theorem plain_of_mem_text {id : Ulid} {c : Char} (h : c ∈ id.text.toList) :
    Text.isBlank c = false ∧ c ≠ ';' ∧ c.utf8Size = 1 := by
  rw [text_toList] at h
  obtain ⟨i, -, rfl⟩ := List.mem_map.1 h
  exact digitOf_plain (id.digitAt_lt i)

theorem utf8ByteSize_ofList {cs : List Char} (h : ∀ c ∈ cs, c.utf8Size = 1) :
    (String.ofList cs).utf8ByteSize = cs.length := by
  induction cs with
  | nil => rfl
  | cons c cs ih =>
    rw [List.forall_mem_cons] at h
    have hcons : String.ofList (c :: cs) = String.singleton c ++ String.ofList cs := by
      apply String.toList_inj.1
      simp
    rw [hcons, String.utf8ByteSize_append, String.utf8ByteSize_singleton, h.1, ih h.2, List.length_cons, Nat.add_comm]

/-- An id can be read off its text. -/
theorem parse_text (id : Ulid) : parse id.text = .ok id := by
  have hsize : id.text.utf8ByteSize = 26 := by
    rw [← String.ofList_toList (s := id.text), utf8ByteSize_ofList fun c hc => (plain_of_mem_text hc).2.2, text_toList]
    simp
  have hdigits : (digitValue? ∘ fun i => digitOf (id.digitAt i)) = fun i => pure (id.digitAt i) :=
    funext fun i => digitValue?_digitOf (id.digitAt_lt i)
  have hvalues : id.text.toList.mapM digitValue? = some ((List.range 26).map id.digitAt) := by
    rw [text_toList, List.mapM_map, hdigits, List.mapM_pure]
    rfl
  have hfold : ((List.range 26).map id.digitAt).foldl push 0 = id.bits := by
    rw [id.foldl_push (Nat.le_refl 26)]
    exact BitVec.ushiftRight_zero _
  rw [parse, if_neg (by simp [hsize]), hvalues]
  simp only [hfold]

/-! ## Digits that are read -/

theorem toUpper_digitOf (h : n < 32) : (digitOf n).toUpper = digitOf n := by
  have hall : ∀ i : Fin 32, (digitOf i).toUpper = digitOf i := by decide
  exact hall ⟨n, h⟩

/-- A character is read as a digit if it is one when written as a capital. -/
theorem digitValue?_eq_some_iff : digitValue? c = some n ↔ n < 32 ∧ c.toUpper = digitOf n := by
  constructor
  · intro h
    obtain ⟨hn, hc, -⟩ := List.findIdx?_eq_some_iff_getElem.1 h
    refine ⟨hn, ?_⟩
    rw [digitOf, List.getD_eq_getElem?_getD, List.getElem?_eq_getElem hn]
    exact (eq_of_beq hc).symm
  · rintro ⟨hn, hc⟩
    rw [← digitValue?_digitOf hn, digitValue?, digitValue?, hc, toUpper_digitOf hn]

theorem utf8Size_of_digitValue? (h : digitValue? c = some n) : c.utf8Size = 1 := by
  obtain ⟨hn, hc⟩ := digitValue?_eq_some_iff.1 h
  unfold Char.toUpper at hc
  split at hc
  · rename_i hsmall
    have hascii : c.val ≤ 0x7f := UInt32.le_trans hsmall.2 (by decide)
    simp [Char.utf8Size, hascii]
  · rw [hc]
    exact (digitOf_plain hn).2.2

theorem mapM_digitValue?_eq_some_iff :
    cs.mapM digitValue? = some values ↔ cs.map Char.toUpper = values.map digitOf ∧ ∀ v ∈ values, v < 32 := by
  induction cs generalizing values with
  | nil => cases values <;> simp
  | cons c cs ih =>
    cases values with
    | nil => simp [List.mapM_cons, Option.bind_eq_bind, Option.bind_eq_some_iff]
    | cons v values =>
      have hcons : (c :: cs).mapM digitValue? = some (v :: values) ↔
          digitValue? c = some v ∧ cs.mapM digitValue? = some values := by
        rw [List.mapM_cons]
        cases digitValue? c <;> cases cs.mapM digitValue? <;> simp
      rw [hcons, ih, digitValue?_eq_some_iff, List.map_cons, List.map_cons, List.cons.injEq, List.forall_mem_cons]
      tauto

theorem exists_digitValue?_of_mem (hdigits : cs.map Char.toUpper = values.map digitOf) (hsmall : ∀ v ∈ values, v < 32)
    (hc : c ∈ cs) : ∃ v, digitValue? c = some v := by
  obtain ⟨v, hv, heq⟩ : ∃ v ∈ values, digitOf v = c.toUpper := by
    rw [← List.mem_map, ← hdigits]
    exact List.mem_map_of_mem hc
  exact ⟨v, digitValue?_eq_some_iff.2 ⟨hsmall v hv, heq.symm⟩⟩

theorem utf8ByteSize_of_mapM (h : s.toList.mapM digitValue? = some values) : s.utf8ByteSize = values.length := by
  obtain ⟨hdigits, hsmall⟩ := mapM_digitValue?_eq_some_iff.1 h
  have hplain : ∀ c ∈ s.toList, c.utf8Size = 1 := by
    intro c hc
    obtain ⟨v, hv⟩ := exists_digitValue?_of_mem hdigits hsmall hc
    exact utf8Size_of_digitValue? hv
  have hlength := congrArg List.length hdigits
  rw [List.length_map, List.length_map] at hlength
  rw [← hlength, ← utf8ByteSize_ofList hplain, String.ofList_toList]

/-- A text is read as an id if it is made of 26 digits. -/
theorem parse_eq_ok_iff : parse s = .ok id ↔ ∃ values : List Nat, values.length = 26 ∧ (∀ v ∈ values, v < 32) ∧
    s.toList.map Char.toUpper = values.map digitOf ∧ id = ⟨values.foldl push 0⟩ := by
  constructor
  · intro h
    unfold parse at h
    split at h
    · cases h
    · rename_i hbytes
      split at h
      · rename_i values hread
        cases h
        obtain ⟨hdigits, hsmall⟩ := mapM_digitValue?_eq_some_iff.1 hread
        exact ⟨values, (utf8ByteSize_of_mapM hread).symm.trans (not_not.1 hbytes), hsmall, hdigits, rfl⟩
      · cases h
  · rintro ⟨values, hlength, hsmall, hdigits, rfl⟩
    have hread : s.toList.mapM digitValue? = some values := mapM_digitValue?_eq_some_iff.2 ⟨hdigits, hsmall⟩
    rw [parse, if_neg (not_not.2 ((utf8ByteSize_of_mapM hread).trans hlength)), hread]

/-! ## Bits that are read -/

theorem testBit_of_digit {j : Nat} (hn : n < 32) (hj : ¬j < 5) : n.testBit j = false :=
  Nat.testBit_lt_two_pow (Nat.lt_of_lt_of_le hn (Nat.pow_le_pow_right Nat.zero_lt_two (Nat.le_of_not_lt hj)))

theorem getLsbD_push {x : BitVec 128} {j : Nat} (hn : n < 32) (hj : j < 128) :
    (push x n).getLsbD j = if j < 5 then n.testBit j else x.getLsbD (j - 5) := by
  simp only [push, BitVec.getLsbD_or, BitVec.getLsbD_shiftLeft, BitVec.getLsbD_ofNat]
  by_cases h : j < 5
  · simp [h, hj]
  · simp [h, hj, testBit_of_digit hn h]

/-- Reading on moves a bit up by five places for every digit. -/
theorem getLsbD_foldl_push {x : BitVec 128} {j : Nat} (hvalues : ∀ v ∈ values, v < 32)
    (hj : j + 5 * values.length < 128) : (values.foldl push x).getLsbD (j + 5 * values.length) = x.getLsbD j := by
  induction values generalizing x j with
  | nil => rfl
  | cons v values ih =>
    rw [List.forall_mem_cons] at hvalues
    rw [List.length_cons] at hj ⊢
    have hmoved : j + 5 * (values.length + 1) = j + 5 + 5 * values.length := by omega
    rw [List.foldl_cons, hmoved, ih hvalues.2 (by omega), getLsbD_push hvalues.1 (by omega), if_neg (by omega),
      Nat.add_sub_cancel]

/-- Of a digit that has been read with others behind it those bits are left for which there is room. -/
theorem digitAt_foldl (before : List Nat) {after : List Nat} (hn : n < 32) (hafter : ∀ v ∈ after, v < 32)
    (hlength : after.length ≤ 25) :
    digitAt ⟨(before ++ n :: after).foldl push 0⟩ (25 - after.length) = n % 2 ^ (128 - 5 * after.length) := by
  have hshift : 25 - (25 - after.length) = after.length := by omega
  have hmod (k : Nat) : k % 32 = k % 2 ^ 5 := rfl
  apply Nat.eq_of_testBit_eq
  intro p
  rw [digitAt, hshift, hmod, Nat.testBit_mod_two_pow, Nat.testBit_mod_two_pow, BitVec.testBit_toNat,
    BitVec.getLsbD_ushiftRight, Nat.add_comm, List.foldl_append, List.foldl_cons]
  by_cases hroom : p + 5 * after.length < 128
  · have hp : p < 128 - 5 * after.length := by omega
    rw [getLsbD_foldl_push hafter hroom, getLsbD_push hn (by omega)]
    by_cases hdigit : p < 5
    · simp [hdigit, hp]
    · simp [hdigit, testBit_of_digit hn hdigit]
  · have hp : ¬p < 128 - 5 * after.length := by omega
    rw [BitVec.getLsbD_of_ge _ _ (Nat.le_of_not_lt hroom)]
    simp [hp]

/-- The digits of what has been read are those that have been read, but for the first. -/
theorem digitAt_read (hlength : values.length = 26) (hsmall : ∀ v ∈ values, v < 32) {i : Nat} (hi : i < values.length) :
    digitAt ⟨values.foldl push 0⟩ i = values[i] % 2 ^ (3 + 5 * i) := by
  have hsplit : values = values.take i ++ values[i] :: values.drop (i + 1) := by
    rw [← List.drop_eq_getElem_cons hi, List.take_append_drop]
  have hbehind : (values.drop (i + 1)).length = 25 - i := by
    rw [List.length_drop]
    omega
  have hread := digitAt_foldl (values.take i) (hsmall _ (List.getElem_mem hi))
    (fun v hv => hsmall v (List.mem_of_mem_drop hv)) (by rw [hbehind]; exact Nat.sub_le _ _)
  rw [← hsplit, hbehind] at hread
  have hplace : 25 - (25 - i) = i := by omega
  have hroom : 128 - 5 * (25 - i) = 3 + 5 * i := by omega
  rwa [hplace, hroom] at hread

theorem toList_text_read {rest : List Nat} (hlength : rest.length = 25) (hn : n < 32) (hrest : ∀ v ∈ rest, v < 32) :
    (text ⟨(n :: rest).foldl push 0⟩).toList = digitOf (n % 8) :: rest.map digitOf := by
  have hdigit {i : Nat} (hi : i < (n :: rest).length) :
      digitAt ⟨(n :: rest).foldl push 0⟩ i = (n :: rest)[i] % 2 ^ (3 + 5 * i) :=
    digitAt_read (by rw [List.length_cons, hlength]) (List.forall_mem_cons.2 ⟨hn, hrest⟩) hi
  have hothers : (List.range 25).map ((fun i => digitOf (digitAt ⟨(n :: rest).foldl push 0⟩ i)) ∘ Nat.succ) =
      rest.map digitOf := by
    refine List.ext_getElem (by simp [hlength]) fun i hi hi' => ?_
    rw [List.length_map] at hi'
    have hroom : 2 ^ 5 ≤ 2 ^ (3 + 5 * (i + 1)) := Nat.pow_le_pow_right Nat.zero_lt_two (by omega)
    have hfits : rest[i] < 2 ^ (3 + 5 * (i + 1)) := Nat.lt_of_lt_of_le (hrest _ (List.getElem_mem hi')) hroom
    have hkept := hdigit (Nat.succ_lt_succ hi')
    rw [List.getElem_cons_succ, Nat.mod_eq_of_lt hfits] at hkept
    simp only [List.getElem_map, List.getElem_range, Function.comp_apply]
    exact congrArg digitOf hkept
  rw [text_toList, List.range_succ_eq_map, List.map_cons, List.map_map, hothers, hdigit (Nat.zero_lt_succ _)]
  rfl

/-- The text of an id that has been read: what has been read, in capital letters, but for two bits of the first
digit. -/
theorem toList_text_of_parse (h : parse s = .ok id) : ∃ c cs n, s.toList = c :: cs ∧ digitValue? c = some n ∧
    id.text.toList = digitOf (n % 8) :: cs.map Char.toUpper := by
  obtain ⟨values, hlength, hsmall, hdigits, rfl⟩ := parse_eq_ok_iff.1 h
  cases values with
  | nil => cases hlength
  | cons n rest =>
    cases hs : s.toList with
    | nil => simp [hs] at hdigits
    | cons c cs =>
      rw [hs, List.map_cons, List.map_cons, List.cons.injEq] at hdigits
      rw [List.forall_mem_cons] at hsmall
      refine ⟨c, cs, n, rfl, digitValue?_eq_some_iff.2 ⟨hsmall.1, hdigits.1⟩, ?_⟩
      rw [toList_text_read (Nat.succ.inj hlength) hsmall.1 hsmall.2, hdigits.2]

end Portcullis.Ulid
