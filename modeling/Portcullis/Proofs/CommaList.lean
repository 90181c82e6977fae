import Portcullis.Http.Method
import Portcullis.Proofs.Text

/-!
# Lists written with commas

A list is written with a comma and a blank between its entries, and read by cutting at every comma and trimming. So what
is read of a list are the parts of its entries (`Text.commaParts_intercalate`), and an entry without commas and without
white space at its ends is read as it has been written (`Text.IsPart`).
-/

namespace Portcullis

namespace Text

/-- The text stands in a list as it is. -/
structure IsPart (s : String) : Prop where
  trimmed : trimmed s = s
  noComma : ',' ∉ s.toList

theorem isPart_of_mem_commaParts {s part : String} (h : part ∈ commaParts s) : IsPart part := by
  obtain ⟨cs, hcs, rfl⟩ := List.mem_map.1 h
  refine ⟨?_, fun hcomma => ?_⟩
  · rw [trimmed_eq_self_iff, String.toList_ofList, trim_trim]
  · rw [String.toList_ofList] at hcomma
    exact not_mem_of_mem_splitOn hcs (mem_of_mem_trim hcomma)

theorem IsPart.commaParts {s : String} (h : IsPart s) : commaParts s = [s] := by
  rw [Text.commaParts, List.splitOn_eq_singleton h.noComma, List.map_singleton]
  exact congrArg (fun part => [part]) h.trimmed

/-- Letter case does not matter. -/
theorem IsPart.congr {a b : String} (h : IsPart b) (hsame : sameIgnoringCase a b = true) : IsPart a where
  trimmed := trimmed_of_sameIgnoringCase hsame h.trimmed
  noComma hcomma := h.noComma (comma_mem_of_sameIgnoringCase hsame hcomma)

theorem mem_commaTokens {s part : String} : part ∈ commaTokens s ↔ part ∈ commaParts s ∧ part ≠ "" := by
  simp [commaTokens]

/-! ## Writing and reading -/

/-- A blank after a comma does not matter. -/
theorem map_trim_splitOn_blank_cons (cs : List Char) :
    ((' ' :: cs).splitOn ',').map (fun part => String.ofList (trim part)) =
      (cs.splitOn ',').map fun part => String.ofList (trim part) := by
  have hblank : isBlank ' ' = true := by decide
  rw [List.splitOn_cons_eq_if_modifyHead, if_neg (by decide)]
  obtain ⟨first, rest, hsplit⟩ := List.exists_cons_of_ne_nil (List.splitOn_ne_nil ',' cs)
  rw [hsplit, List.modifyHead_cons, List.map_cons, List.map_cons, trim_blank_cons hblank]

theorem commaParts_append (a b : String) : commaParts (a ++ ", " ++ b) = commaParts a ++ commaParts b := by
  have hlist : (a ++ ", " ++ b).toList = a.toList ++ ',' :: ' ' :: b.toList := by simp
  rw [commaParts, hlist, List.splitOn_append_cons_self, List.map_append, map_trim_splitOn_blank_cons]
  rfl

/-- What is read of a list are the parts of its entries. -/
theorem commaParts_intercalate {entries : List String} (h : entries ≠ []) :
    commaParts (", ".intercalate entries) = entries.flatMap commaParts := by
  induction entries with
  | nil => exact absurd rfl h
  | cons first rest ih =>
    cases rest with
    | nil => simp [String.intercalate_singleton]
    | cons second rest =>
      rw [String.intercalate_cons_cons, commaParts_append, ih (List.cons_ne_nil _ _)]
      exact List.flatMap_cons.symm

theorem IsPart.mem_commaParts_intercalate {entries : List String} {entry : String} (h : IsPart entry)
    (hentry : entry ∈ entries) : entry ∈ Text.commaParts (", ".intercalate entries) := by
  rw [commaParts_intercalate (List.ne_nil_of_mem hentry), List.mem_flatMap]
  exact ⟨entry, hentry, by rw [h.commaParts]; exact List.mem_singleton_self entry⟩

end Text

/-! ## Methods -/

/-- The characters of a token are neither blanks nor commas. -/
theorem Method.plain_of_isTokenChar {c : Char} (h : isTokenChar c = true) : Text.isBlank c = false ∧ c ≠ ',' := by
  rw [isTokenChar, Bool.or_eq_true] at h
  rcases h with h | h
  · have hrange : 48 ≤ c.toNat ∧ c.toNat ≤ 122 := by
      change (decide (65 ≤ c.val ∧ c.val ≤ 90) || decide (97 ≤ c.val) && decide (c.val ≤ 122) ||
        decide (48 ≤ c.val) && decide (c.val ≤ 57)) = true at h
      simp only [Bool.or_eq_true, Bool.and_eq_true, decide_eq_true_eq, UInt32.le_iff_toNat_le] at h
      change (65 ≤ c.toNat ∧ c.toNat ≤ 90 ∨ 97 ≤ c.toNat ∧ c.toNat ≤ 122) ∨ 48 ≤ c.toNat ∧ c.toNat ≤ 57 at h
      omega
    refine ⟨?_, ?_⟩
    · simp [Text.isBlank]
      omega
    · rintro rfl
      exact absurd hrange.1 (by decide)
  · have hall : ("!#$%&'*+-.^_`|~".toList.all fun c => !Text.isBlank c && c != ',') = true := by decide
    simpa using List.all_eq_true.1 hall c (List.contains_iff_mem.1 h)

theorem Method.isPart (m : Method) : Text.IsPart m.name := by
  have hplain : ∀ c ∈ m.name.toList, Text.isBlank c = false ∧ c ≠ ',' := fun c hc =>
    plain_of_isTokenChar (List.all_eq_true.1 m.isToken.2 c hc)
  exact ⟨Text.trimmed_of_plain fun c hc => (hplain c hc).1, fun hcomma => (hplain _ hcomma).2 rfl⟩

end Portcullis
