import Mathlib.Data.String.Basic
import Portcullis.Proofs.PathPattern.Choice
import Portcullis.Proofs.PathPattern.Language

/-!
# The pattern for everything

`/**` covers every path without a line break, and every pattern with a segment other than `**` covers less
(`PathPattern.morePrecise_iff`). Which of two patterns is picked, though, goes by the number of their wildcards, and by
that number `/**` says more than a pattern that has `**` and a further wildcard, however little that one covers. So the
pattern for everything is picked over more precise ones exactly if all of these are of that kind
(`PathPattern.everything_picked_iff`).
-/

namespace Portcullis

theorem Glob.accepts_deep_iff {same : Char → Char → Bool} {cs : List Char} :
    accepts same [.deep] cs = true ↔ cs = [] ∨ ∃ line, cs = '/' :: line ∧ '\n' ∉ line := by
  have hline (line : List Char) : anyTail (· != '\n') List.isEmpty line = true ↔ '\n' ∉ line := by
    rw [anyTail_iff]
    constructor
    · rintro ⟨a, b, rfl, ha, hb⟩ hmem
      rw [List.isEmpty_iff.1 hb, List.append_nil] at hmem
      simpa using ha _ hmem
    · intro h
      refine ⟨line, [], by simp, fun c hc => ?_, rfl⟩
      simp only [bne_iff_ne, ne_eq]
      rintro rfl
      exact h hc
  cases cs with
  | nil => simp [accepts]
  | cons c cs =>
    simp only [accepts, oneThen, List.isEmpty_cons, Bool.false_or, Bool.and_eq_true, beq_iff_eq, hline]
    constructor
    · rintro ⟨rfl, hcs⟩
      exact .inr ⟨cs, rfl, hcs⟩
    · rintro (h | ⟨line, h, hline⟩)
      · cases h
      · cases h
        exact ⟨rfl, hline⟩

namespace PathPattern

/-- The pattern for everything. -/
def everything : PathPattern where
  text := "/**"
  segments := [.anyDepth]

theorem ofSetting_everything : ofSetting "/**" = .ok everything := by
  decide

/-- Of the paths that start with a slash, it stands for those that have no line break before the query. -/
theorem covers_everything_iff {path : String} (h : path.toList.head? = some '/') :
    everything.covers path = true ↔ '\n' ∉ Text.upTo '?' path.toList := by
  obtain ⟨rest, hpath⟩ : ∃ rest, path.toList = '/' :: rest := ⟨_, (List.eq_cons_of_mem_head? h)⟩
  rw [covers, Glob.fits_eq_accepts, show everything.steps = [.deep] from rfl, Glob.accepts_deep_iff, hpath, Text.upTo,
    List.takeWhile_cons_of_pos (by decide)]
  simp

theorem parse_everything : parse "/**" = .ok everything := by
  decide

theorem specificity_everything : everything.specificity = ⟨1, 0, 3⟩ := by
  decide

/-! ## What covers less -/

/-- Of the paths that `/**` covers, the pattern leaves some out. -/
def MorePrecise (p : PathPattern) : Prop :=
  ∃ path, everything.covers path = true ∧ p.covers path = false

/-- The pattern has `**` and a further wildcard: another `**`, a `*` or a `?`. -/
def Mixed (p : PathPattern) : Prop :=
  1 ≤ p.specificity.doubles ∧ 2 ≤ p.specificity.doubles + p.specificity.singles

section

variable {p : PathPattern} {path : String} {segments : List Segment} {parts : List (List Char)}

theorem accepts_nil_iff :
    Glob.accepts (· == ·) (segments.flatMap Segment.steps) [] = true ↔ ∀ s ∈ segments, s = .anyDepth := by
  induction segments with
  | nil => simp [Glob.accepts]
  | cons s segments ih =>
    rw [List.forall_mem_cons, ← ih, List.flatMap_cons]
    cases s with
    | anyDepth => simp [Segment.steps, accepts_deep_cons_iff]
    | single steps => simp [Segment.steps, Glob.accepts, Glob.oneThen]

/-- Any number of `**`, but at least one, take what one of them takes. -/
theorem accepts_of_deep {cs : List Char} (hall : ∀ s ∈ segments, s = .anyDepth) (hne : segments ≠ [])
    (h : Glob.accepts (· == ·) [.deep] cs = true) :
    Glob.accepts (· == ·) (segments.flatMap Segment.steps) cs = true := by
  induction segments with
  | nil => exact absurd rfl hne
  | cons s rest ih =>
    rw [List.forall_mem_cons] at hall
    rw [List.flatMap_cons, hall.1, Segment.steps, List.singleton_append]
    cases rest with
    | nil => exact h
    | cons s' rest => exact accepts_deep_cons_iff.2 (.inl (ih hall.2 (by simp)))

theorem isRead_everything : everything.IsRead :=
  parse_everything

theorem IsRead.segments_ne_nil (h : p.IsRead) : p.segments ≠ [] := by
  obtain ⟨hhead, hread, -⟩ := parse_eq_ok_iff.1 h
  intro hnil
  rw [hnil] at hread
  have hparts := List.forall₂_nil_right_iff.1 hread
  rw [List.eq_cons_of_mem_head? hhead] at hparts
  exact List.splitOn_ne_nil _ _ hparts

/-- A pattern is more precise than `/**` if it has a segment other than `**`. -/
theorem morePrecise_iff (h : p.IsRead) : p.MorePrecise ↔ ∃ s ∈ p.segments, s ≠ .anyDepth := by
  constructor
  · rintro ⟨path, heverything, hnot⟩
    by_contra hother
    have hall : ∀ s ∈ p.segments, s = .anyDepth := by simpa using hother
    rw [covers, Glob.fits_eq_accepts] at heverything hnot
    rw [steps, accepts_of_deep hall h.segments_ne_nil heverything] at hnot
    cases hnot
  · -- The empty path is left out.
    rintro ⟨s, hs, hne⟩
    refine ⟨"", by decide, ?_⟩
    rw [← Bool.not_eq_true, covers, Glob.fits_eq_accepts]
    exact fun hnil => hne (accepts_nil_iff.1 hnil s hs)

/-! ## What says less -/

theorem ReadAs.mem_deep (h : ReadAs parts segments) (hmem : .anyDepth ∈ segments) : ['*', '*'] ∈ parts := by
  induction h with
  | nil => cases hmem
  | cons hsegment _ ih =>
    rcases List.mem_cons.1 hmem with rfl | hmem
    · rcases readSegment_eq_ok_iff.1 hsegment with ⟨rfl, -⟩ | ⟨-, -, hsingle⟩
      · exact List.mem_cons_self
      · cases hsingle
    · exact List.mem_cons_of_mem _ (ih hmem)

theorem length_le_length_written (parts : List (List Char)) : parts.length ≤ (written parts).length := by
  induction parts with
  | nil => rfl
  | cons part parts ih =>
    rw [written_cons, List.length_cons, List.length_append, List.length_cons]
    omega

theorem length_le_utf8ByteSize (s : String) : s.toList.length ≤ s.utf8ByteSize := by
  have hlen (cs : List Char) : cs.length ≤ String.utf8Len cs := by
    induction cs with
    | nil => rfl
    | cons c cs ih =>
      have hpos := c.utf8Size_pos
      rw [List.length_cons, String.utf8Len]
      omega
  have h := hlen s.toList
  rwa [← String.utf8ByteSize_ofList, String.ofList_toList] at h

/-- A pattern with `**` and another segment is longer than `/**`. -/
theorem IsRead.four_le_bytes (h : p.IsRead) (hdeep : .anyDepth ∈ p.segments)
    (hother : ∃ s ∈ p.segments, s ≠ .anyDepth) : 4 ≤ p.specificity.bytes := by
  obtain ⟨hhead, hread, -⟩ := parse_eq_ok_iff.1 h
  have htwo : 2 ≤ p.segments.length := by
    obtain ⟨s, hs, hne⟩ := hother
    by_contra hshort
    obtain ⟨t, ht⟩ : ∃ t, p.segments = [t] := by
      rw [← List.length_eq_one_iff]
      have := List.length_pos_of_mem hs
      omega
    rw [ht, List.mem_singleton] at hs hdeep
    exact hne (hs.trans hdeep.symm)
  rw [← hread.length_eq] at htwo
  obtain ⟨front, back, hparts⟩ := List.append_of_mem (hread.mem_deep hdeep)
  have htext : p.text.toList = written front ++ '/' :: '*' :: '*' :: written back := by
    rw [← written_segmentsOf (.inr hhead), hparts, written_append, written_cons]
    rfl
  have hlength : p.text.toList.length = (written front).length + (written back).length + 3 := by
    rw [htext]
    simp
    omega
  have hfront := length_le_length_written front
  have hback := length_le_length_written back
  rw [hparts, List.length_append, List.length_cons] at htwo
  have hbytes : p.text.toList.length ≤ p.specificity.bytes := length_le_utf8ByteSize p.text
  omega

/-- A pattern that says at least as much as `/**` has no further wildcard beside `**`. -/
theorem not_mixed_of_atLeast (h : p.specificity.atLeast everything.specificity = true) : ¬p.Mixed := by
  rw [specificity_everything, Specificity.atLeast_iff] at h
  rw [Mixed]
  simp only at h
  omega

/-- A pattern that is more precise than `/**`, and still says no more, has a further wildcard beside `**`. -/
theorem MorePrecise.mixed (h : p.MorePrecise) (hread : p.IsRead)
    (hatLeast : everything.specificity.atLeast p.specificity = true) : p.Mixed := by
  rw [specificity_everything, Specificity.atLeast_iff] at hatLeast
  have hbytes (hone : p.specificity.doubles = 1) : 4 ≤ p.specificity.bytes := by
    have hdeep : .anyDepth ∈ p.segments := List.count_pos_iff.1 (Nat.lt_of_lt_of_eq Nat.one_pos hone.symm)
    exact hread.four_le_bytes hdeep ((morePrecise_iff hread).1 h)
  rw [Mixed]
  simp only at hatLeast
  omega

/-- A pattern of `**` only, but for `/**` itself, has several of them. -/
theorem IsRead.mixed_of_all (h : p.IsRead) (hall : ∀ s ∈ p.segments, s = .anyDepth) (hne : p.text ≠ "/**") :
    p.Mixed := by
  have hdoubles : p.specificity.doubles = p.segments.length :=
    List.count_eq_length.2 fun s hs => (hall s hs).symm
  obtain ⟨s, rest, hsegments⟩ := List.exists_cons_of_ne_nil h.segments_ne_nil
  have hmore : rest ≠ [] := by
    rintro rfl
    apply hne
    obtain ⟨hhead, hread, -⟩ := parse_eq_ok_iff.1 h
    rw [hsegments, hall s (by simp [hsegments])] at hread
    obtain ⟨part, parts, hpart, hparts, heq⟩ := List.forall₂_cons_right_iff.1 hread
    cases hparts
    rcases readSegment_eq_ok_iff.1 hpart with ⟨rfl, -⟩ | ⟨-, -, hsingle⟩
    · rw [← String.toList_inj, ← written_segmentsOf (.inr hhead), heq]
      rfl
    · cases hsingle
  have hlength := List.length_pos_of_ne_nil hmore
  rw [hsegments, List.length_cons] at hdoubles
  rw [Mixed]
  omega

end

/-- Where one of the entries is for `/**`, the pick is for `/**` exactly if `/**` covers the path and every entry that
covers it too, and is more precise, has a further wildcard beside `**`. -/
theorem everything_picked_iff {α : Type} {entries : List (PathPattern × α)} (hread : ∀ e ∈ entries, e.1.IsRead)
    (hall : ∃ e ∈ entries, e.1.text = "/**") (path : String) :
    (mostSpecific entries path).map (·.1.text) = some "/**" ↔ everything.covers path = true ∧
      ∀ e ∈ entries, e.1.covers path = true → e.1.MorePrecise → e.1.Mixed := by
  constructor
  · intro h
    obtain ⟨picked, hpick, htext⟩ := Option.map_eq_some_iff.1 h
    obtain ⟨hmem, hcovers⟩ := mem_of_mostSpecific hpick
    have hpicked : picked.1 = everything := (hread picked hmem).eq_of_text isRead_everything htext
    refine ⟨hpicked ▸ hcovers, fun e he hcovered hprecise => hprecise.mixed (hread e he) ?_⟩
    rw [← hpicked]
    exact atLeast_of_mostSpecific hpick he hcovered
  · rintro ⟨hcovers, hmixed⟩
    obtain ⟨e, he, htext⟩ := hall
    have heq : e.1 = everything := (hread e he).eq_of_text isRead_everything htext
    obtain ⟨picked, hmem, hpick, hcovered, hatLeast⟩ := exists_mostSpecific he (heq ▸ hcovers)
    rw [heq] at hatLeast
    rw [hpick, Option.map_some]
    refine congrArg some ?_
    by_contra hne
    apply not_mixed_of_atLeast hatLeast
    by_cases hprecise : picked.1.MorePrecise
    · exact hmixed picked hmem hcovered hprecise
    · rw [morePrecise_iff (hread picked hmem)] at hprecise
      exact (hread picked hmem).mixed_of_all (by simpa using hprecise) hne

/-! ## Pages of administrators -/

/-- The pages below a segment `admin`, wherever that is. -/
def adminAnywhere : PathPattern where
  text := "/**/admin/**"
  segments := [.anyDepth, .single ("admin".toList.map .exactly), .anyDepth]

/-- The pages below `docs`. -/
def docs : PathPattern where
  text := "/docs/**"
  segments := [.single ("docs".toList.map .exactly), .anyDepth]

theorem isRead_adminAnywhere : adminAnywhere.IsRead := by
  unfold IsRead
  decide

theorem isRead_docs : docs.IsRead := by
  unfold IsRead
  decide

theorem morePrecise_adminAnywhere : adminAnywhere.MorePrecise :=
  (morePrecise_iff isRead_adminAnywhere).2 ⟨.single ("admin".toList.map .exactly), by decide, by decide⟩

/-- For a page of administrators `/**` is picked over the pattern for such pages. -/
theorem everything_beats_more_precise :
    adminAnywhere.IsRead ∧ adminAnywhere.MorePrecise ∧ adminAnywhere.covers "/x/admin/y" = true ∧
      mostSpecific [(everything, "open"), (adminAnywhere, "closed")] "/x/admin/y" = some (everything, "open") :=
  ⟨isRead_adminAnywhere, morePrecise_adminAnywhere, by decide +kernel, by decide +kernel⟩

/-- So it is, but not below `docs`: the pattern for that has no further wildcard. -/
theorem everything_picked_outside_docs :
    (mostSpecific [(everything, 0), (adminAnywhere, 1), (docs, 2)] "/x/admin/y").map (·.1.text) = some "/**" ∧
      ¬(mostSpecific [(everything, 0), (adminAnywhere, 1), (docs, 2)] "/docs/admin/y").map (·.1.text) =
        some "/**" := by
  have hread : ∀ e ∈ [(everything, 0), (adminAnywhere, 1), (docs, 2)], e.1.IsRead := by
    simpa using ⟨isRead_everything, isRead_adminAnywhere, isRead_docs⟩
  have hpicked := everything_picked_iff hread ⟨(everything, 0), by simp, rfl⟩
  constructor
  · refine (hpicked _).2 ⟨by decide +kernel, ?_⟩
    have hadmin : adminAnywhere.Mixed := by
      unfold Mixed
      decide +kernel
    have hdocs : docs.covers "/x/admin/y" = false := by decide +kernel
    have heverything : ¬everything.MorePrecise := by
      rw [morePrecise_iff isRead_everything]
      decide
    simp [heverything, hadmin, hdocs]
  · intro h
    have hprecise : docs.MorePrecise :=
      (morePrecise_iff isRead_docs).2 ⟨.single ("docs".toList.map .exactly), by decide, by decide⟩
    have hmixed := ((hpicked _).1 h).2 (docs, 2) (by simp) (by decide +kernel) hprecise
    have hnot : ¬docs.Mixed := by
      unfold Mixed
      decide +kernel
    exact hnot hmixed

end PathPattern

end Portcullis
