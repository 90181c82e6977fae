import Mathlib.Data.List.Forall2
import Portcullis.Cors.Origins
import Portcullis.Proofs.Text

/-!
# The language of origin patterns

A pattern is cut at its stars into literal parts, and it covers an origin exactly if the origin can be cut into pieces
that spell these parts one by one, with stretches without a slash between them (`OriginPattern.Cut`). Letter case is all
that a piece may differ in from its part; no other character of a pattern has a meaning of its own, and nothing may
stand before the first piece or behind the last one.

* `OriginPattern.accepts_iff_cut`: the steps of a pattern take what can be cut like that.
* `Origins.allows_iff_cut`: which origins a list with patterns allows.
-/

namespace Portcullis.Cors

namespace OriginPattern

open Glob (accepts)

variable {part piece cs text : List Char} {parts : List (List Char)} {c d : Char}

/-- The piece of an origin is the literal part of a pattern, character by character, but for letter case. -/
abbrev Spells : List Char → List Char → Prop :=
  List.Forall₂ fun c d => Unicode.fold c = Unicode.fold d

/-- The origin is cut into pieces that spell the literal parts of a pattern, one by one, and stretches without a slash
between them. -/
inductive Cut : List (List Char) → List Char → Prop
  | last {part piece : List Char} (h : Spells part piece) : Cut [part] piece
  | star {part piece rest : List Char} {parts : List (List Char)} (run : List Char) (h : Spells part piece)
    (hrun : '/' ∉ run) (hrest : Cut parts rest) : Cut (part :: parts) (piece ++ run ++ rest)

/-! ## Cuts -/

/-- The last part of a pattern is spelled by all that is left. -/
theorem cut_singleton_iff : Cut [part] cs ↔ Spells part cs := by
  constructor
  · intro h
    cases h with
    | last h => exact h
    | star run h hrun hrest => cases hrest
  · exact .last

/-- An empty part is spelled by nothing: a stretch comes next. -/
theorem cut_nil_cons_iff (hparts : parts ≠ []) :
    Cut ([] :: parts) cs ↔ ∃ run rest, cs = run ++ rest ∧ '/' ∉ run ∧ Cut parts rest := by
  constructor
  · intro h
    cases h with
    | last h => exact absurd rfl hparts
    | @star _ piece rest _ run h hrun hrest =>
      cases h
      exact ⟨run, rest, rfl, hrun, hrest⟩
  · rintro ⟨run, rest, rfl, hrun, hrest⟩
    exact .star run .nil hrun hrest

/-- The first character of a part is spelled by the first one of the origin. -/
theorem cut_cons_cons_iff : Cut ((c :: part) :: parts) cs ↔
    ∃ d rest, cs = d :: rest ∧ Unicode.fold c = Unicode.fold d ∧ Cut (part :: parts) rest := by
  constructor
  · intro h
    cases h with
    | last h =>
      obtain ⟨d, rest, hsame, hrest, rfl⟩ := List.forall₂_cons_left_iff.1 h
      exact ⟨d, rest, rfl, hsame, .last hrest⟩
    | @star _ _ after _ run h hrun hrest =>
      obtain ⟨d, piece, hsame, hpiece, rfl⟩ := List.forall₂_cons_left_iff.1 h
      exact ⟨d, piece ++ run ++ after, rfl, hsame, .star run hpiece hrun hrest⟩
  · rintro ⟨d, rest, rfl, hsame, h⟩
    cases h with
    | last h => exact .last (.cons hsame h)
    | star run h hrun hrest => exact .star run (.cons hsame h) hrun hrest

/-- An origin that can be cut is no shorter than the parts together. -/
theorem Cut.length_le (h : Cut parts cs) : parts.flatten.length ≤ cs.length := by
  induction h with
  | last h => simp [h.length_eq]
  | star run h hrun hrest ih =>
    simp only [List.flatten_cons, List.length_append, h.length_eq]
    omega

/-! ## Steps -/

theorem stepOf_of_ne (h : c ≠ '*') : stepOf c = .exactly c :=
  if_neg h

/-- The steps of a pattern take an origin if it can be cut like the pattern: each star begins a new part, and each other
character belongs to the part that has been begun. -/
theorem accepts_iff_cut :
    accepts Unicode.sameLetter (text.map stepOf) cs = true ↔ Cut (text.splitOn '*') cs := by
  induction text generalizing cs with
  | nil =>
    rw [List.splitOn_nil, cut_singleton_iff]
    simp [accepts]
  | cons c text ih =>
    obtain ⟨first, rest, hsplit⟩ := List.exists_cons_of_ne_nil (List.splitOn_ne_nil '*' text)
    rw [List.splitOn_cons_eq_if_modifyHead, List.map_cons]
    by_cases hstar : c = '*'
    · subst hstar
      rw [if_pos (beq_self_eq_true _), cut_nil_cons_iff (List.splitOn_ne_nil '*' text)]
      simp only [stepOf, if_true, accepts, Glob.anyTail_iff, Text.forall_ne_iff, ih]
    · rw [if_neg (by simpa using hstar), stepOf_of_ne hstar]
      rw [hsplit] at ih ⊢
      rw [List.modifyHead_cons, cut_cons_cons_iff]
      simp only [accepts, Glob.oneThen_iff, Unicode.sameLetter, beq_iff_eq, ih]

theorem covers_iff_cut {p : OriginPattern} {origin : String} :
    p.covers origin = true ↔ Cut (p.text.toList.splitOn '*') origin.toList := by
  rw [covers, Glob.fits_eq_accepts, accepts_iff_cut]

end OriginPattern

namespace Origins

open OriginPattern (Cut)

variable {names : List String} {origin : String}

/-- With a star inside some entry, all entries are read as patterns, those without a star too. -/
theorem ofList_of_star (hany : "*" ∉ names) (hstar : ∃ name ∈ names, '*' ∈ name.toList) :
    ofList names = .ok (.patterns (names.map OriginPattern.mk)) := by
  have hsome : names.any (·.toList.contains '*') = true := by simpa using hstar
  rw [ofList, if_neg (by simpa using hany), if_pos hsome]

/-- A list with patterns is accepted, and it allows an origin exactly if the origin can be cut in the way of some entry
of the list. -/
theorem allows_iff_cut (hany : "*" ∉ names) (hstar : ∃ name ∈ names, '*' ∈ name.toList) :
    ∃ origins, ofList names = .ok origins ∧ ∀ origin : String,
      origins.allows origin = true ↔ ∃ name ∈ names, Cut (name.toList.splitOn '*') origin.toList := by
  refine ⟨_, ofList_of_star hany hstar, fun origin => ?_⟩
  simp only [allows, List.any_map, List.any_eq_true, Function.comp_apply, OriginPattern.covers_iff_cut]

/-- All sites of a domain, and one more. -/
def siteOrigins : List String :=
  ["https://*.example.com", "http://localhost"]

/-- A site of the domain is allowed. One that only ends like the domain is not: what would have to stand for the star
has a slash in it. -/
theorem siteOrigins_allow_app : "*" ∉ siteOrigins ∧ (∃ name ∈ siteOrigins, '*' ∈ name.toList) ∧
    ∃ origins, ofList siteOrigins = .ok origins ∧ origins.allows "https://app.example.com" = true ∧
      origins.allows "https://evil.com/.example.com" = false := by
  have hany : "*" ∉ siteOrigins := by decide
  have hstar : ∃ name ∈ siteOrigins, '*' ∈ name.toList := ⟨"https://*.example.com", by decide, by decide⟩
  obtain ⟨origins, hread, hallows⟩ := allows_iff_cut hany hstar
  have hparts : "https://*.example.com".toList.splitOn '*' = ["https://".toList, ".example.com".toList] := by
    decide +kernel
  have hlocal : "http://localhost".toList.splitOn '*' = ["http://localhost".toList] := by decide +kernel
  refine ⟨hany, hstar, origins, hread, (hallows _).2 ⟨"https://*.example.com", by decide, ?_⟩, ?_⟩
  · rw [hparts, show "https://app.example.com".toList = "https://".toList ++ "app".toList ++ ".example.com".toList by
      decide]
    exact .star _ (List.forall₂_same.2 fun _ _ => rfl) (by decide) (.last (List.forall₂_same.2 fun _ _ => rfl))
  · rw [← Bool.not_eq_true, hallows]
    rintro ⟨name, hname, hcut⟩
    have hnames : name = "https://*.example.com" ∨ name = "http://localhost" := by simpa [siteOrigins] using hname
    rcases hnames with rfl | rfl
    · have horigin : "https://evil.com/.example.com".toList =
          "https://".toList ++ "evil.com/".toList ++ ".example.com".toList := by decide
      rw [hparts, horigin] at hcut
      generalize hcs : "https://".toList ++ "evil.com/".toList ++ ".example.com".toList = cs at hcut
      cases hcut with
      | @star _ piece rest _ run h hrun hrest =>
        have hlast := (OriginPattern.cut_singleton_iff.1 hrest).length_eq
        have hrunEq := List.append_inj_right (List.append_inj_left' hcs hlast) h.length_eq
        exact hrun (hrunEq ▸ by decide)
    · rw [hlocal, OriginPattern.cut_singleton_iff] at hcut
      exact absurd hcut.length_eq (by decide)

end Origins

end Portcullis.Cors
