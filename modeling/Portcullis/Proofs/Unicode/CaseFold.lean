import Mathlib.Data.List.Chain
import Portcullis.Proofs.Text
import Portcullis.Unicode.CaseFold

/-!
# Case folding and ASCII

A character is looked up in a table by halving. If the rows are in order, the look-up finds the row in whose range the
character lies (`Table.find?_eq_some_iff`), so what a table says of a character can be read off its rows. The rows of
case folding say that folding and letter case within ASCII agree there, and that two characters beyond ASCII fold into
it and no others: the long s and the Kelvin sign.

* `fold_toLower`: the case of an ASCII letter does not matter to folding.
* `toLower_eq_of_fold_eq`: which characters fold like one of ASCII.
-/

namespace Portcullis.Unicode

/-! ## Looking up -/

namespace Table

variable {t : Table} {n : Nat} {row : Row}

/-- The rows are in ascending order, and their ranges apart. -/
def Ordered (t : Table) : Prop :=
  t.toList.IsChain fun a b => a.first + a.count ≤ b.first

theorem Ordered.before (h : t.Ordered) {i j : Nat} (hij : i < j) (hj : j < t.size) :
    t[i].first + t[i].count ≤ t[j].first := by
  have htrans : IsTrans Row fun a b => a.first + a.count ≤ b.first :=
    ⟨fun a b c hab hbc => Nat.le_trans hab (Nat.le_trans (Nat.le_add_right _ _) hbc)⟩
  have hpair := List.pairwise_iff_getElem.1 (List.isChain_iff_pairwise.1 h) i j (by simpa using Nat.lt_trans hij hj)
    (by simpa using hj) hij
  simpa using hpair

theorem position_le {low high : Nat} (h : low ≤ high) : t.position n low high ≤ high := by
  fun_induction position t n low high with
  | case1 low high hlt middle hfirst ih => exact ih (by omega)
  | case2 low high hlt middle hfirst ih => exact Nat.le_trans (ih (by omega)) (by omega)
  | case3 low high hnot => exact h

/-- Halving comes to the number of rows that start at `n` or before it. Rows ahead of the window have been found to be
among these, and rows behind it not to be. -/
theorem lt_position_iff (h : t.Ordered) {low high : Nat} (hsize : high ≤ t.size) (hle : low ≤ high)
    (hlow : ∀ i, (_ : i < t.size) → i < low → t[i].first ≤ n)
    (hhigh : ∀ i, (_ : i < t.size) → high ≤ i → n < t[i].first) (i : Nat) (hi : i < t.size) :
    i < t.position n low high ↔ t[i].first ≤ n := by
  fun_induction position t n low high with
  | case1 low high hlt middle hfirst ih =>
    have hmiddle : middle < t.size := by omega
    simp only [Array.getElem?_eq_getElem hmiddle, Option.any_some, decide_eq_true_eq] at hfirst
    refine ih hsize (by omega) (fun j hj hjlow => ?_) hhigh
    rcases Nat.lt_or_eq_of_le (Nat.le_of_lt_succ hjlow) with hbefore | rfl
    · have := h.before hbefore hmiddle
      omega
    · exact hfirst
  | case2 low high hlt middle hfirst ih =>
    have hmiddle : middle < t.size := by omega
    simp only [Array.getElem?_eq_getElem hmiddle, Option.any_some, decide_eq_true_eq] at hfirst
    refine ih (by omega) (by omega) hlow fun j hj hjhigh => ?_
    rcases Nat.lt_or_eq_of_le hjhigh with hbefore | rfl
    · have := h.before hbefore hj
      omega
    · omega
  | case3 low high hnot =>
    constructor
    · exact hlow i hi
    · intro hfirst
      have := hhigh i hi
      omega

/-- A look-up finds the row in whose range `n` lies. -/
theorem find?_eq_some_iff (h : t.Ordered) :
    t.find? n = some row ↔ row ∈ t ∧ row.first ≤ n ∧ n < row.first + row.count := by
  have hposition := lt_position_iff (n := n) h (Nat.le_refl t.size) (Nat.zero_le _) (fun i _ hi => absurd hi (by omega))
    (fun i hi hle => absurd hle (by omega))
  rw [find?, Option.filter_eq_some_iff]
  simp only [Bool.and_eq_true, decide_eq_true_eq]
  constructor
  · rintro ⟨hrow, hrange⟩
    exact ⟨Array.mem_of_getElem? hrow, hrange⟩
  · rintro ⟨hmem, hrange⟩
    obtain ⟨i, hi, rfl⟩ := Array.mem_iff_getElem.1 hmem
    have hbelow := (hposition i hi).2 hrange.1
    have hend := t.position_le (n := n) (Nat.zero_le t.size)
    -- the rows after this one start behind its range, hence behind `n`
    have habove (j : Nat) (hj : j < t.size) (hij : i < j) : ¬j < t.position n 0 t.size := by
      have hstart := h.before hij hj
      rw [hposition j hj]
      omega
    have hlast : t.position n 0 t.size - 1 = i := by
      by_contra hne
      exact habove (t.position n 0 t.size - 1) (by omega) (by omega) (by omega)
    rw [hlast]
    exact ⟨Array.getElem?_eq_getElem hi, hrange⟩

/-- The target of a character that has one lies as far behind the target of its row as the character does behind the
start of the row, or is that target itself. -/
theorem exists_row_of_runTarget? (h : t.Ordered) {target : Nat} (htarget : t.runTarget? n = some target) :
    ∃ row ∈ t, row.first ≤ n ∧ n < row.first + row.count ∧
      ∃ stride start, row.data = [stride, start] ∧ start ≤ target ∧ target ≤ start + (n - row.first) := by
  obtain ⟨row, hrow, htarget⟩ := Option.bind_eq_some_iff.1 htarget
  obtain ⟨hmem, hfirst, hlast⟩ := (find?_eq_some_iff h).1 hrow
  refine ⟨row, hmem, hfirst, hlast, ?_⟩
  split at htarget
  case h_1 stride start hdata =>
    refine ⟨stride, start, hdata, ?_⟩
    split_ifs at htarget <;> cases htarget <;> omega
  case h_2 => cases htarget

end Table

/-! ## The rows of case folding -/

/-- The capital letters of ASCII, each of which folds to the small letter. -/
def capitalsRow : Row := ⟨0x41, 26, [1, 0x61]⟩

/-- The long s, which folds to the letter s. -/
def longSRow : Row := ⟨0x17f, 1, [1, 0x73]⟩

/-- The Kelvin sign, which folds to the letter k. -/
def kelvinRow : Row := ⟨0x212a, 1, [1, 0x6b]⟩

/-- All characters of the row lie beyond ASCII, and so do the characters that they fold to. -/
def Row.staysBeyond (row : Row) : Bool :=
  128 ≤ row.first &&
    match row.data with
    | [_, start] =>
      128 ≤ start && (start + row.count ≤ 0xD800 || 0xDFFF < start && start + row.count ≤ 0x110000)
    | _ => false

set_option maxRecDepth 20000 in
/-- What there is to know of the table, found by going through it once. -/
theorem foldRuns_rows : foldRuns.Ordered ∧ [capitalsRow, longSRow] ⊆ foldRuns.toList ∧
    ∀ row ∈ foldRuns.toList, row ∈ [capitalsRow, longSRow, kelvinRow] ∨ row.staysBeyond = true := by
  unfold Table.Ordered
  -- the text of the table is taken apart once, into the list of its characters
  rw [foldRuns, show foldRows = String.ofList _ from rfl, Table.ofRuns, readRows, String.toList_ofList]
  decide +kernel

/-- A character in the range of one of these rows is found there. -/
theorem find?_foldRuns {row : Row} {n : Nat} (hrow : row ∈ [capitalsRow, longSRow]) (hfirst : row.first ≤ n)
    (hlast : n < row.first + row.count) : foldRuns.find? n = some row := by
  obtain ⟨hordered, hrows, -⟩ := foldRuns_rows
  exact (Table.find?_eq_some_iff hordered).2 ⟨Array.mem_toList_iff.1 (hrows hrow), hfirst, hlast⟩

/-- A character that folds to another one is a capital letter, the long s or the Kelvin sign, or both of them lie beyond
ASCII. -/
theorem target_cases {n target : Nat} (h : foldRuns.runTarget? n = some target) :
    (65 ≤ n ∧ n ≤ 90) ∨ n = 0x17f ∨ n = 0x212a ∨ (128 ≤ n ∧ 128 ≤ target ∧ target.isValidChar) := by
  obtain ⟨hordered, -, hrows⟩ := foldRuns_rows
  obtain ⟨row, hrow, hfirst, hlast, stride, start, hdata, hstart, hend⟩ := Table.exists_row_of_runTarget? hordered h
  rcases hrows row (Array.mem_toList_iff.2 hrow) with hknown | hbeyond
  · simp only [List.mem_cons, List.not_mem_nil, or_false] at hknown
    rcases hknown with rfl | rfl | rfl <;> simp only [capitalsRow, longSRow, kelvinRow] at hfirst hlast <;> omega
  · simp only [Row.staysBeyond, hdata, Bool.and_eq_true, Bool.or_eq_true, decide_eq_true_eq] at hbeyond
    have hvalid : target.isValidChar := by
      simp only [Nat.isValidChar]
      omega
    exact .inr (.inr (.inr ⟨by omega, by omega, hvalid⟩))

theorem fold_of_none {c : Char} (h : foldRuns.runTarget? c.toNat = none) : fold c = c := by
  rw [fold, h]
  rfl

theorem fold_of_some {c : Char} {target : Nat} (h : foldRuns.runTarget? c.toNat = some target) :
    fold c = Char.ofNat target := by
  rw [fold, h]
  rfl

theorem fold_of_capital {c : Char} (hlow : 65 ≤ c.toNat) (hhigh : c.toNat ≤ 90) : fold c = c.toLower := by
  have hfind : foldRuns.find? c.toNat = some capitalsRow :=
    find?_foldRuns (by decide) hlow (Nat.lt_succ_of_le hhigh)
  have htarget : foldRuns.runTarget? c.toNat = some c.toLower.toNat := by
    rw [Table.runTarget?, hfind, Text.toNat_toLower_of_capital hlow hhigh]
    simp [capitalsRow, Nat.mod_one]
    omega
  rw [fold_of_some htarget, Char.ofNat_toNat]

theorem fold_longS : fold 'ſ' = 's' := by
  have hfind : foldRuns.find? 'ſ'.toNat = some longSRow := find?_foldRuns (by decide) (by decide) (by decide)
  have htarget : foldRuns.runTarget? 'ſ'.toNat = some 0x73 := by
    rw [Table.runTarget?, hfind]
    rfl
  exact fold_of_some htarget

/-- Within ASCII, to fold a character is to lower it: no row but that of the capitals reaches there. -/
theorem fold_of_ascii {c : Char} (h : c.toNat < 128) : fold c = c.toLower := by
  by_cases hcapital : 65 ≤ c.toNat ∧ c.toNat ≤ 90
  · exact fold_of_capital hcapital.1 hcapital.2
  have hlower : c.toLower = c := (Text.toLower_cases c).resolve_right fun hc => hcapital ⟨hc.1, hc.2.1⟩
  rw [hlower]
  cases htarget : foldRuns.runTarget? c.toNat with
  | none => exact fold_of_none htarget
  | some target =>
    have := target_cases htarget
    omega

/-- No other character beyond ASCII than these two folds into it. -/
theorem beyond_of_fold {c : Char} (h : 128 ≤ c.toNat) (hs : c ≠ 'ſ') (hk : c ≠ '\u212a') : 128 ≤ (fold c).toNat := by
  cases htarget : foldRuns.runTarget? c.toNat with
  | none => rwa [fold_of_none htarget]
  | some target =>
    rcases target_cases htarget with hcapital | hlongS | hkelvin | ⟨-, hbeyond, hvalid⟩
    · omega
    · exact absurd (Char.toNat_inj.1 hlongS) hs
    · exact absurd (Char.toNat_inj.1 hkelvin) hk
    · have htoNat : (Char.ofNat target).toNat = target := by
        rw [Char.ofNat, dif_pos hvalid]
        rfl
      rwa [fold_of_some htarget, htoNat]

/-! ## Letter case within ASCII -/

/-- The case of an ASCII letter does not matter to folding. -/
theorem fold_toLower (c : Char) : fold c.toLower = fold c := by
  rcases Text.toLower_cases c with hlower | ⟨hlow, hhigh, hlower⟩
  · rw [hlower]
  · have hsmall : c.toLower.toLower = c.toLower :=
      (Text.toLower_cases c.toLower).resolve_right fun h => by omega
    rw [fold_of_ascii (by omega), hsmall, fold_of_capital hlow hhigh]

/-- The two characters beyond ASCII that fold like a letter of ASCII are the long s and the Kelvin sign. -/
theorem toLower_eq_of_fold_eq {c d : Char} (hc : c.toNat < 128) (hs : d ≠ 'ſ') (hk : d ≠ '\u212a')
    (h : fold c = fold d) : c.toLower = d.toLower := by
  have hfold : (fold c).toNat < 128 := by
    rw [fold_of_ascii hc]
    rcases Text.toLower_cases c with hlower | ⟨hlow, hhigh, hlower⟩
    · rwa [hlower]
    · omega
  have hd : d.toNat < 128 := by
    by_contra hd
    have hbeyond := beyond_of_fold (Nat.le_of_not_lt hd) hs hk
    rw [← h] at hbeyond
    omega
  rw [← fold_of_ascii hc, ← fold_of_ascii hd, h]

end Portcullis.Unicode
