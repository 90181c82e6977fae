import Mathlib.Data.List.DropRight
import Portcullis.Text.Basic

/-!
# Facts about text

What is left of a text that has been trimmed or cut, and what a text holds. Three main facts: trimming again changes
nothing (`Text.trim_trim`), letter case does not matter for it (`Text.trimmed_of_sameIgnoringCase`), and no part between
separators has a separator in it (`Text.not_mem_of_mem_splitOn`).
-/

namespace Portcullis.Text

/-! ## Trimming -/

theorem stripEnds_sublist (p : Char → Bool) (cs : List Char) : (stripEnds p cs).Sublist cs := by
  have hlast := (List.dropWhile_sublist (l := (cs.dropWhile p).reverse) p).reverse
  rw [List.reverse_reverse] at hlast
  exact hlast.trans (List.dropWhile_sublist p)

theorem mem_of_mem_trim {c : Char} {cs : List Char} (h : c ∈ trim cs) : c ∈ cs :=
  (stripEnds_sublist isBlank cs).subset h

/-- Nothing is dropped at the start of what starts as a text does at the start of which nothing is dropped. -/
theorem dropWhile_of_prefix {p : Char → Bool} {cs ds : List Char} (h : ds.dropWhile p = ds) (hpre : cs <+: ds) :
    cs.dropWhile p = cs := by
  cases cs with
  | nil => rfl
  | cons c cs =>
    obtain ⟨rest, rfl⟩ := hpre
    have hc : ¬p c = true := by
      intro hc
      rw [List.cons_append, List.dropWhile_cons_of_pos hc] at h
      have hlength := (List.dropWhile_suffix p (l := cs ++ rest)).length_le
      rw [h, List.length_cons, List.length_append] at hlength
      omega
    exact List.dropWhile_cons_of_neg hc

/-- What has been stripped at its ends needs no stripping. -/
theorem stripEnds_stripEnds (p : Char → Bool) (cs : List Char) : stripEnds p (stripEnds p cs) = stripEnds p cs := by
  have hstart : (stripEnds p cs).dropWhile p = stripEnds p cs :=
    dropWhile_of_prefix (List.dropWhile_idempotent p cs) (List.rdropWhile_prefix p (cs.dropWhile p))
  have hend := List.rdropWhile_idempotent p (cs.dropWhile p)
  calc stripEnds p (stripEnds p cs) = (stripEnds p cs).rdropWhile p := by rw [stripEnds, hstart]; rfl
    _ = stripEnds p cs := hend

/-- What has been trimmed needs no trimming. -/
theorem trim_trim (cs : List Char) : trim (trim cs) = trim cs :=
  stripEnds_stripEnds isBlank cs

theorem trim_blank_cons {c : Char} (h : isBlank c = true) (cs : List Char) : trim (c :: cs) = trim cs := by
  rw [trim, stripEnds, List.dropWhile_cons_of_pos h]
  rfl

theorem isBlank_of_trim_cons {c : Char} {cs : List Char} (h : trim (c :: cs) = c :: cs) : isBlank c = false := by
  rw [← Bool.not_eq_true]
  intro hc
  have hlength := (stripEnds_sublist isBlank cs).length_le
  rw [trim_blank_cons hc] at h
  change (trim cs).length ≤ cs.length at hlength
  rw [h, List.length_cons] at hlength
  omega

theorem trim_sublist (cs : List Char) : (trim cs).Sublist cs :=
  stripEnds_sublist isBlank cs

/-- Nothing is stripped from a text that has nothing to be stripped at either end. -/
theorem stripEnds_of_ends {p : Char → Bool} {first last : Char} {cs : List Char} (hfirst : p first = false)
    (hlast : p last = false) : stripEnds p (first :: (cs ++ [last])) = first :: (cs ++ [last]) := by
  rw [stripEnds, List.dropWhile_cons_of_neg (by simp [hfirst]), ← List.cons_append, List.reverse_append,
    List.reverse_singleton, List.singleton_append, List.dropWhile_cons_of_neg (by simp [hlast]), List.reverse_cons,
    List.reverse_reverse]

/-- Nothing is stripped from the ends of a text that has nothing to be stripped in it. -/
theorem stripEnds_of_forall {p : Char → Bool} {cs : List Char} (h : ∀ c ∈ cs, p c = false) : stripEnds p cs = cs := by
  have hkept {cs : List Char} (h : ∀ c ∈ cs, p c = false) : cs.dropWhile p = cs := by
    cases cs with
    | nil => rfl
    | cons c cs => exact List.dropWhile_cons_of_neg (by simp [h c List.mem_cons_self])
  rw [stripEnds, hkept h, hkept (by simpa using h), List.reverse_reverse]

/-- What is to be stripped at the ends makes no difference. -/
theorem stripEnds_append {p : Char → Bool} {before after : List Char} (hbefore : ∀ c ∈ before, p c = true)
    (hafter : ∀ c ∈ after, p c = true) (cs : List Char) : stripEnds p (before ++ (cs ++ after)) = stripEnds p cs := by
  rw [stripEnds, stripEnds, List.dropWhile_append_of_pos hbefore, List.dropWhile_append]
  split
  · rename_i hnone
    have hdropped : after.dropWhile p = [] := List.dropWhile_eq_nil_iff.2 hafter
    rw [List.isEmpty_iff.1 hnone, hdropped]
  · rw [List.reverse_append, List.dropWhile_append_of_pos (by simpa using hafter)]

/-- A text without white space needs no trimming. -/
theorem trimmed_of_plain {s : String} (h : ∀ c ∈ s.toList, isBlank c = false) : trimmed s = s := by
  rw [trimmed, trim, stripEnds_of_forall h, String.ofList_toList]

theorem trimmed_eq_self_iff {s : String} : trimmed s = s ↔ trim s.toList = s.toList := by
  rw [← String.toList_inj, trimmed, String.toList_ofList]

/-! ## Letter case -/

theorem toNat_toLower_of_capital {c : Char} (hlow : 65 ≤ c.toNat) (hhigh : c.toNat ≤ 90) :
    c.toLower.toNat = c.toNat + 32 := by
  have hrange : c.val ≥ 'A'.val ∧ c.val ≤ 'Z'.val := ⟨hlow, hhigh⟩
  have hval : c.toLower.val = c.val + 32 := congrArg Char.val (dif_pos hrange)
  rw [Char.toNat, hval, UInt32.toNat_add]
  change (c.toNat + 32) % 4294967296 = c.toNat + 32
  omega

/-- To lower a character leaves it as it is, or makes a small letter of a capital one. -/
theorem toLower_cases (c : Char) :
    c.toLower = c ∨ 65 ≤ c.toNat ∧ c.toNat ≤ 90 ∧ c.toLower.toNat = c.toNat + 32 := by
  by_cases h : c.val ≥ 'A'.val ∧ c.val ≤ 'Z'.val
  · exact .inr ⟨h.1, h.2, toNat_toLower_of_capital h.1 h.2⟩
  · exact .inl (dif_neg h)

theorem isBlank_toLower (c : Char) : isBlank c.toLower = isBlank c := by
  rcases toLower_cases c with h | ⟨hlow, hhigh, h⟩
  · rw [h]
  · have hsmall : isBlank c.toLower = false := by
      simp [isBlank]
      omega
    have hcapital : isBlank c = false := by
      simp [isBlank]
      omega
    rw [hsmall, hcapital]

theorem toLower_eq_comma_iff {c : Char} : c.toLower = ',' ↔ c = ',' := by
  rcases toLower_cases c with h | ⟨hlow, hhigh, h⟩
  · rw [h]
  · constructor
    · intro hc
      rw [hc, show ','.toNat = 44 from rfl] at h
      omega
    · rintro rfl
      exact absurd hlow (by decide)

theorem sameIgnoringCase_iff {a b : String} :
    sameIgnoringCase a b = true ↔ a.toList.map Char.toLower = b.toList.map Char.toLower := by
  have hlower (s : String) : s.toLower = s.map Char.toLower := rfl
  rw [sameIgnoringCase, beq_iff_eq, ← String.toList_inj, hlower, hlower, String.toList_map, String.toList_map]

/-- Two given texts are compared by comparing their characters. -/
theorem sameIgnoringCase_eq (a b : String) :
    sameIgnoringCase a b = decide (a.toList.map Char.toLower = b.toList.map Char.toLower) := by
  rw [Bool.eq_iff_iff, sameIgnoringCase_iff, decide_eq_true_iff]

theorem trim_map_toLower (cs : List Char) : trim (cs.map Char.toLower) = (trim cs).map Char.toLower := by
  have hblank : isBlank ∘ Char.toLower = isBlank := funext isBlank_toLower
  simp only [trim, stripEnds, List.dropWhile_map, ← List.map_reverse, hblank]

/-- Where there is nothing to trim, there is nothing to trim in another letter case either. -/
theorem trimmed_of_sameIgnoringCase {a b : String} (h : sameIgnoringCase a b = true) (hb : trimmed b = b) :
    trimmed a = a := by
  rw [trimmed_eq_self_iff] at hb ⊢
  rw [sameIgnoringCase_iff] at h
  have hlower : (trim a.toList).map Char.toLower = a.toList.map Char.toLower := by
    rw [← trim_map_toLower, h, trim_map_toLower, hb]
  exact (trim_sublist a.toList).eq_of_length (by simpa using congrArg List.length hlower)

theorem comma_mem_of_sameIgnoringCase {a b : String} (h : sameIgnoringCase a b = true) (ha : ',' ∈ a.toList) :
    ',' ∈ b.toList := by
  rw [sameIgnoringCase_iff] at h
  have hlower : ',' ∈ b.toList.map Char.toLower := by
    rw [← h]
    exact List.mem_map.2 ⟨',', ha, toLower_eq_comma_iff.2 rfl⟩
  obtain ⟨c, hc, hcomma⟩ := List.mem_map.1 hlower
  exact toLower_eq_comma_iff.1 hcomma ▸ hc

/-! ## Cutting -/

theorem forall_ne_iff {sep : Char} {cs : List Char} : (∀ c ∈ cs, (c != sep) = true) ↔ sep ∉ cs := by
  simp only [bne_iff_ne]
  exact ⟨fun h hmem => h _ hmem rfl, fun h c hc he => h (he ▸ hc)⟩

theorem upTo_append_cons {sep : Char} {cs : List Char} (h : sep ∉ cs) (ds : List Char) :
    upTo sep (cs ++ sep :: ds) = cs := by
  rw [upTo, List.takeWhile_append_of_pos (forall_ne_iff.2 h)]
  simp

theorem not_mem_of_mem_splitOn {sep : Char} {cs part : List Char} (h : part ∈ cs.splitOn sep) : sep ∉ part := by
  induction cs generalizing part with
  | nil =>
    rw [List.splitOn_nil, List.mem_singleton] at h
    simp [h]
  | cons c cs ih =>
    rw [List.splitOn_cons_eq_if_modifyHead] at h
    obtain ⟨first, rest, hsplit⟩ := List.exists_cons_of_ne_nil (List.splitOn_ne_nil sep cs)
    rw [hsplit] at h ih
    split at h
    · rcases List.mem_cons.1 h with rfl | h
      · simp
      · exact ih h
    · rename_i hc
      rcases List.mem_cons.1 h with rfl | h
      · have hfirst := ih List.mem_cons_self
        simp only [beq_iff_eq] at hc
        simp [hfirst, Ne.symm hc]
      · exact ih (List.mem_cons_of_mem _ h)

/-! ## Searching -/

theorem holds_iff {part cs : List Char} : holds part cs = true ↔ part <:+: cs := by
  induction cs with
  | nil => simp [holds]
  | cons c cs ih => rw [holds, Bool.or_eq_true, ih, List.isPrefixOf_iff_prefix, List.infix_cons_iff]

/-! ## Numerals -/

/-- Only digits have a value. -/
theorem isDigit_of_decimalValue? {cs : List Char} {n : Nat} (h : decimalValue? cs = some n) :
    cs ≠ [] ∧ ∀ c ∈ cs, c.isDigit = true := by
  unfold decimalValue? at h
  split at h
  case isTrue => cases h
  case isFalse hne =>
    refine ⟨by simpa using hne, ?_⟩
    clear hne
    generalize 0 = start at h
    induction cs generalizing start with
    | nil => simp
    | cons c cs ih =>
      rw [List.foldlM_cons] at h
      obtain ⟨next, hnext, hrest⟩ := Option.bind_eq_some_iff.1 h
      rw [List.forall_mem_cons]
      exact ⟨(Option.ite_none_right_eq_some.1 hnext).1, ih next hrest⟩

end Portcullis.Text
