import Portcullis.Proofs.PathPattern.Choice
import Portcullis.Proofs.PathPattern.Language

/-!
# Patterns without wildcards

A pattern without wildcards (`PathPattern.Plain`) covers the path that it is and no other one, but for queries
(`PathPattern.covers_iff_of_plain`). A path without wildcards that is a pattern itself is what is picked for it,
whatever other patterns there are (`PathPattern.mostSpecific_of_plain`): of the patterns that cover it, all others have
a wildcard.
-/

namespace Portcullis.PathPattern

variable {p : PathPattern} {path : String} {parts found : List (List Char)} {segments : List Segment}

theorem aligned_iff_of_plain (h : ∀ part ∈ parts, Plain part) : Aligned parts found ↔ found = parts := by
  induction parts generalizing found with
  | nil =>
    constructor
    · rintro ⟨⟩
      rfl
    · rintro rfl
      exact .nil
  | cons part parts ih =>
    rw [List.forall_mem_cons] at h
    have hne : part ≠ ['*', '*'] := by
      rintro rfl
      exact (h.1 '*' (by simp)).1 rfl
    constructor
    · intro haligned
      cases haligned with
      | deep => exact absurd rfl hne
      | single _ hs haligned => rw [(stands_iff_of_plain h.1).1 hs, (ih h.2).1 haligned]
    · rintro rfl
      exact .single hne ((stands_iff_of_plain h.1).2 rfl) ((ih h.2).2 rfl)

theorem plain_written : Plain (written parts) ↔ ∀ part ∈ parts, Plain part := by
  induction parts with
  | nil => simp [Plain]
  | cons part parts ih =>
    rw [List.forall_mem_cons, ← ih, written_cons, Plain, List.cons_append, List.forall_mem_cons, List.forall_mem_append]
    exact ⟨fun h => h.2, fun h => ⟨by decide, h⟩⟩

theorem isWildcard_stepOf {c : Char} : isWildcard (stepOf c) = true ↔ ¬(c ≠ '*' ∧ c ≠ '?') := by
  by_cases hstar : c = '*'
  · simp [hstar, stepOf, isWildcard]
  by_cases hmark : c = '?'
  · simp [hmark, stepOf, isWildcard]
  · simp [stepOf_of_ne hstar hmark, isWildcard, hstar, hmark]

theorem ReadAs.plain_iff (h : ReadAs parts segments) :
    segments.count .anyDepth = 0 ∧ (segments.flatMap Segment.steps).countP isWildcard = 0 ↔
      ∀ part ∈ parts, Plain part := by
  induction h with
  | nil => simp
  | @cons part segment parts segments hsegment _ ih =>
    rw [List.forall_mem_cons, ← ih, List.flatMap_cons, List.countP_append]
    obtain ⟨rfl, rfl⟩ | ⟨-, -, rfl⟩ := readSegment_eq_ok_iff.1 hsegment
    · simp [Plain]
    · have hplain : (part.map stepOf).countP isWildcard = 0 ↔ Plain part := by
        simp only [List.countP_eq_zero, List.forall_mem_map, isWildcard_stepOf, not_not, Plain]
      have hcons : (Segment.single (part.map stepOf)).steps.countP isWildcard = (part.map stepOf).countP isWildcard :=
        List.countP_cons_of_neg (by decide)
      rw [hcons, List.count_cons_of_ne (by simp), ← hplain, Nat.add_eq_zero_iff]
      exact and_left_comm

/-- Without wildcards, all that a text has to do to be a pattern is to start with a slash. -/
theorem exists_parse_of_plain {text : String} (hhead : text.toList.head? = some '/') (hplain : Plain text.toList) :
    ∃ p, parse text = .ok p := by
  rw [← written_segmentsOf (.inr hhead), plain_written] at hplain
  refine exists_parse_iff.2 ⟨hhead, fun part hpart hholds => ?_⟩
  exact absurd rfl (hplain part hpart '*' (hholds.subset (by simp))).1

/-- A pattern without wildcards says the most that there is to say. -/
theorem IsRead.plain_iff (h : p.IsRead) :
    p.specificity.doubles = 0 ∧ p.specificity.singles = 0 ↔ Plain p.text.toList := by
  obtain ⟨hhead, hread, -⟩ := parse_eq_ok_iff.1 h
  rw [← written_segmentsOf (.inr hhead), plain_written, ← hread.plain_iff]
  rfl

/-- A pattern without wildcards covers the path that it is. -/
theorem covers_iff_of_plain (h : p.IsRead) (hplain : Plain p.text.toList) :
    p.covers path = true ↔ Text.upTo '?' path.toList = p.text.toList := by
  obtain ⟨hhead, -, -⟩ := parse_eq_ok_iff.1 h
  rw [← written_segmentsOf (.inr hhead), plain_written] at hplain
  rw [covers_iff_aligned h, aligned_iff_of_plain hplain]
  constructor
  · rintro ⟨hrooted, hsegments⟩
    rw [← written_segmentsOf hrooted, hsegments, written_segmentsOf (.inr hhead)]
  · intro hpath
    rw [hpath]
    exact ⟨.inr hhead, rfl⟩

/-- A path without wildcards that is a pattern itself is what is picked for it. -/
theorem mostSpecific_of_plain {α : Type} {entries : List (PathPattern × α)} (hread : ∀ e ∈ entries, e.1.IsRead)
    {entry : PathPattern × α} (hmem : entry ∈ entries) (htext : entry.1.text = path) (hplain : Plain path.toList) :
    (mostSpecific entries path).map (·.1) = some entry.1 := by
  subst htext
  have hpath : Text.upTo '?' entry.1.text.toList = entry.1.text.toList :=
    List.takeWhile_eq_self_iff.2 fun c hc => bne_iff_ne.2 (hplain c hc).2
  have hcovers : entry.1.covers entry.1.text = true := (covers_iff_of_plain (hread entry hmem) hplain).2 hpath
  obtain ⟨picked, hpicked, hpick, hcovered, hatLeast⟩ := exists_mostSpecific hmem hcovers
  -- What says as much as a pattern without wildcards has none either, and so is the path too.
  obtain ⟨hdoubles, hsingles⟩ := (hread entry hmem).plain_iff.2 hplain
  rw [Specificity.atLeast_iff, hdoubles, hsingles] at hatLeast
  have hpickedPlain : Plain picked.1.text.toList := (hread picked hpicked).plain_iff.1 (by omega)
  have hsame := (covers_iff_of_plain (hread picked hpicked) hpickedPlain).1 hcovered
  rw [hpath, String.toList_inj] at hsame
  rw [hpick, Option.map_some, (hread picked hpicked).eq_of_text (hread entry hmem) hsame.symm]

end Portcullis.PathPattern
