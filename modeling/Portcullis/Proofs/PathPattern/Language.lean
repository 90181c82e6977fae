import Mathlib.Data.List.Forall2
import Portcullis.Proofs.Steps
import Portcullis.Proofs.Text
import Portcullis.SetupError

/-!
# The language of path patterns

A pattern and a path are cut into segments at their slashes, and the pattern covers the path exactly if the segments can
be laid side by side (`PathPattern.Aligned`): a segment `**` beside any number of segments without a line break, every
other one beside one segment that it stands for (`PathPattern.Stands`). Neither relation knows of the steps to which a
pattern is compiled, nor of the order in which stretches of the path are tried.

* `PathPattern.exists_parse_iff`: which texts are patterns.
* `PathPattern.accepts_iff_aligned`: the steps of a pattern take what its segments can be laid beside.
* `PathPattern.parse_grammar_and_language`: both, for texts and paths as they come in.
-/

namespace Portcullis.PathPattern

open Glob (accepts Step)

/-! ## Segments of texts -/

/-- The segments of a text that is empty or starts with a slash. -/
def segmentsOf : List Char → List (List Char)
  | [] => []
  | _ :: rest => rest.splitOn '/'

/-- Segments, each written after a slash. -/
def written (segments : List (List Char)) : List Char :=
  segments.flatMap ('/' :: ·)

@[simp] theorem written_nil : written [] = [] := rfl

@[simp] theorem written_cons (s : List Char) (segments : List (List Char)) :
    written (s :: segments) = '/' :: s ++ written segments := rfl

@[simp] theorem written_append (segments segments' : List (List Char)) :
    written (segments ++ segments') = written segments ++ written segments' :=
  List.flatMap_append

theorem written_splitOn (cs : List Char) : written (cs.splitOn '/') = '/' :: cs := by
  induction cs with
  | nil => rfl
  | cons c cs ih =>
    rw [List.splitOn_cons_eq_if_modifyHead]
    split
    case isTrue h => rw [written_cons, ih, beq_iff_eq.1 h]; rfl
    case isFalse =>
      obtain ⟨first, rest, hsplit⟩ := List.exists_cons_of_ne_nil (List.splitOn_ne_nil '/' cs)
      rw [hsplit, written_cons, List.cons_append, List.cons.injEq] at ih
      rw [hsplit, List.modifyHead_cons, written_cons, List.cons_append, List.cons_append, ih.2]

theorem splitOn_append_written {s : List Char} {segments : List (List Char)} (h : ∀ t ∈ s :: segments, '/' ∉ t) :
    (s ++ written segments).splitOn '/' = s :: segments := by
  induction segments generalizing s with
  | nil =>
    rw [written_nil, List.append_nil]
    exact List.splitOn_eq_singleton (List.forall_mem_cons.1 h).1
  | cons t segments ih =>
    rw [List.forall_mem_cons] at h
    rw [written_cons, List.cons_append, List.splitOn_append_cons_self_of_not_mem h.1, ih h.2]

/-- A text that is empty or starts with a slash is its segments, written one after the other. -/
theorem written_segmentsOf {cs : List Char} (h : cs = [] ∨ cs.head? = some '/') : written (segmentsOf cs) = cs := by
  cases cs with
  | nil => rfl
  | cons c rest =>
    have hc : c = '/' := by simpa using h
    rw [segmentsOf, written_splitOn, hc]

theorem not_mem_of_mem_segmentsOf {cs s : List Char} (h : s ∈ segmentsOf cs) : '/' ∉ s := by
  cases cs with
  | nil => cases h
  | cons c rest => exact Text.not_mem_of_mem_splitOn h

theorem segmentsOf_written {segments : List (List Char)} (h : ∀ s ∈ segments, '/' ∉ s) :
    segmentsOf (written segments) = segments := by
  cases segments with
  | nil => rfl
  | cons s segments => exact splitOn_append_written h

theorem written_rooted (segments : List (List Char)) : written segments = [] ∨ (written segments).head? = some '/' := by
  cases segments with
  | nil => exact .inl rfl
  | cons s segments => exact .inr rfl

/-! ## Side by side -/

/-- The segment of a pattern stands for the segment of a path: `*` for any text, `?` for any one character, and every
other character for itself. -/
inductive Stands : List Char → List Char → Prop
  | nil : Stands [] []
  | star {p s : List Char} (run : List Char) (h : Stands p s) : Stands ('*' :: p) (run ++ s)
  | mark {p s : List Char} (c : Char) (h : Stands p s) : Stands ('?' :: p) (c :: s)
  | itself {c : Char} {p s : List Char} (hstar : c ≠ '*') (hmark : c ≠ '?') (h : Stands p s) : Stands (c :: p) (c :: s)

/-- The segments of a pattern can be laid beside those of a path: `**` beside any number of segments without a line
break, every other one beside one segment that it stands for. -/
inductive Aligned : List (List Char) → List (List Char) → Prop
  | nil : Aligned [] []
  | deep {ps segments : List (List Char)} (run : List (List Char)) (hrun : ∀ s ∈ run, '\n' ∉ s)
    (h : Aligned ps segments) : Aligned (['*', '*'] :: ps) (run ++ segments)
  | single {p s : List Char} {ps segments : List (List Char)} (hp : p ≠ ['*', '*']) (hs : Stands p s)
    (h : Aligned ps segments) : Aligned (p :: ps) (s :: segments)

/-- The text has no wildcard. -/
def Plain (cs : List Char) : Prop :=
  ∀ c ∈ cs, c ≠ '*' ∧ c ≠ '?'

instance : DecidablePred Plain :=
  List.decidableBAll fun c => c ≠ '*' ∧ c ≠ '?'

section Stands

variable {p t : List Char}

theorem stands_star_iff : Stands ('*' :: p) t ↔ ∃ run s, t = run ++ s ∧ Stands p s := by
  constructor
  · intro h
    cases h with
    | star run h => exact ⟨run, _, rfl, h⟩
    | itself hne _ _ => exact absurd rfl hne
  · rintro ⟨run, s, rfl, h⟩
    exact .star run h

theorem stands_mark_iff : Stands ('?' :: p) t ↔ ∃ c s, t = c :: s ∧ Stands p s := by
  constructor
  · intro h
    cases h with
    | mark c h => exact ⟨c, _, rfl, h⟩
    | itself _ hne _ => exact absurd rfl hne
  · rintro ⟨c, s, rfl, h⟩
    exact .mark c h

theorem stands_itself_iff {c : Char} (hstar : c ≠ '*') (hmark : c ≠ '?') :
    Stands (c :: p) t ↔ ∃ s, t = c :: s ∧ Stands p s := by
  constructor
  · intro h
    cases h with
    | star => exact absurd rfl hstar
    | mark => exact absurd rfl hmark
    | itself _ _ h => exact ⟨_, rfl, h⟩
  · rintro ⟨s, rfl, h⟩
    exact .itself hstar hmark h

/-- A segment without wildcards stands for itself only. -/
theorem stands_iff_of_plain (h : Plain p) : Stands p t ↔ t = p := by
  induction p generalizing t with
  | nil =>
    constructor
    · rintro ⟨⟩
      rfl
    · rintro rfl
      exact .nil
  | cons c p ih =>
    rw [Plain, List.forall_mem_cons] at h
    simp [stands_itself_iff h.1.1 h.1.2, ih h.2]

end Stands

/-! ## Steps -/

theorem stepOf_of_ne {c : Char} (hstar : c ≠ '*') (hmark : c ≠ '?') : stepOf c = .exactly c := by
  unfold stepOf
  split
  · exact absurd rfl hstar
  · exact absurd rfl hmark
  · rfl

/-- The steps of a segment take a segment that it stands for, and the steps after them the rest of the text. -/
theorem accepts_map_stepOf_iff {p : List Char} (hslash : '/' ∉ p) {steps : List Step} {cs : List Char} :
    accepts (· == ·) (p.map stepOf ++ steps) cs = true ↔
      ∃ s rest, cs = s ++ rest ∧ '/' ∉ s ∧ Stands p s ∧ accepts (· == ·) steps rest = true := by
  induction p generalizing cs with
  | nil =>
    constructor
    · exact fun h => ⟨[], cs, rfl, List.not_mem_nil, .nil, h⟩
    · rintro ⟨s, rest, rfl, -, hs, h⟩
      cases hs
      exact h
  | cons c p ih =>
    obtain ⟨hc, hp⟩ : '/' ≠ c ∧ '/' ∉ p := by simpa using hslash
    rw [List.map_cons, List.cons_append]
    by_cases hstar : c = '*'
    · subst hstar
      simp only [stepOf, accepts, Glob.anyTail_iff, Text.forall_ne_iff, ih hp, stands_star_iff]
      constructor
      · rintro ⟨run, _, rfl, hrun, s, rest, rfl, hs, hstands, h⟩
        exact ⟨run ++ s, rest, (List.append_assoc ..).symm, by simp [hrun, hs], ⟨run, s, rfl, hstands⟩, h⟩
      · rintro ⟨_, rest, rfl, hs, ⟨run, s, rfl, hstands⟩, h⟩
        rw [List.mem_append, not_or] at hs
        exact ⟨run, s ++ rest, List.append_assoc .., hs.1, s, rest, rfl, hs.2, hstands, h⟩
    by_cases hmark : c = '?'
    · subst hmark
      simp only [stepOf, accepts, Glob.oneThen_iff, bne_iff_ne, ih hp, stands_mark_iff]
      constructor
      · rintro ⟨d, _, rfl, hd, s, rest, rfl, hs, hstands, h⟩
        exact ⟨d :: s, rest, rfl, by simp [hd.symm, hs], ⟨d, s, rfl, hstands⟩, h⟩
      · rintro ⟨_, rest, rfl, hs, ⟨d, s, rfl, hstands⟩, h⟩
        rw [List.mem_cons, not_or] at hs
        exact ⟨d, s ++ rest, rfl, Ne.symm hs.1, s, rest, rfl, hs.2, hstands, h⟩
    · rw [stepOf_of_ne hstar hmark]
      simp only [accepts, Glob.oneThen_iff, beq_iff_eq, ih hp, stands_itself_iff hstar hmark]
      constructor
      · rintro ⟨_, _, rfl, rfl, s, rest, rfl, hs, hstands, h⟩
        exact ⟨c :: s, rest, rfl, by simp [hc, hs], ⟨s, rfl, hstands⟩, h⟩
      · rintro ⟨_, rest, rfl, hs, ⟨s, rfl, hstands⟩, h⟩
        rw [List.mem_cons, not_or] at hs
        exact ⟨c, s ++ rest, rfl, rfl, s, rest, rfl, hs.2, hstands, h⟩

/-- `**` takes nothing, or a slash and the rest of a line. -/
theorem accepts_deep_cons_iff {steps : List Step} {cs : List Char} :
    accepts (· == ·) (.deep :: steps) cs = true ↔ accepts (· == ·) steps cs = true ∨
      ∃ line rest, cs = '/' :: (line ++ rest) ∧ '\n' ∉ line ∧ accepts (· == ·) steps rest = true := by
  simp only [accepts, Bool.or_eq_true, Glob.oneThen_iff, Glob.anyTail_iff, Text.forall_ne_iff, beq_iff_eq]
  refine or_congr_right ?_
  constructor
  · rintro ⟨_, _, rfl, rfl, line, rest, rfl, h⟩
    exact ⟨line, rest, rfl, h⟩
  · rintro ⟨line, rest, rfl, h⟩
    exact ⟨'/', line ++ rest, rfl, rfl, line, rest, rfl, h⟩

/-- The segments of what follows a slash hold a line break only where it has one. -/
theorem not_mem_of_mem_splitOn_line {line s : List Char} (h : '\n' ∉ line) (hs : s ∈ line.splitOn '/') : '\n' ∉ s := by
  intro hbreak
  have hmem : '\n' ∈ written (line.splitOn '/') := List.mem_flatMap.2 ⟨s, hs, List.mem_cons_of_mem _ hbreak⟩
  rw [written_splitOn] at hmem
  exact h (by simpa using hmem)

theorem not_mem_written {run : List (List Char)} (h : ∀ s ∈ run, '\n' ∉ s) : '\n' ∉ written run := by
  intro hmem
  obtain ⟨s, hs, hbreak⟩ := List.mem_flatMap.1 hmem
  exact h s hs (by simpa using hbreak)

/-! ## Reading -/

theorem readSegment_eq_ok_iff {part : List Char} {segment : Segment} : readSegment part = .ok segment ↔
    part = ['*', '*'] ∧ segment = .anyDepth ∨
      part ≠ ['*', '*'] ∧ ¬['*', '*'] <:+: part ∧ segment = .single (part.map stepOf) := by
  unfold readSegment
  by_cases hdeep : part = ['*', '*']
  · simp [hdeep, eq_comm]
  · by_cases hholds : ['*', '*'] <:+: part
    · simp [hdeep, hholds, Text.holds_iff.2 hholds]
    · have hnot : Text.holds ['*', '*'] part = false := by simpa [← Text.holds_iff] using hholds
      simp [hdeep, hholds, hnot, eq_comm]

/-- Each of the segments is what one part of a pattern is read as. -/
abbrev ReadAs : List (List Char) → List Segment → Prop :=
  List.Forall₂ fun part segment => readSegment part = .ok segment

theorem mapM_readSegment_eq_ok_iff {parts : List (List Char)} {segments : List Segment} :
    parts.mapM readSegment = .ok segments ↔ ReadAs parts segments := by
  induction parts generalizing segments with
  | nil => exact ⟨by rintro ⟨⟩; exact .nil, by rintro ⟨⟩; rfl⟩
  | cons part parts ih =>
    rw [List.mapM_cons, Steps.bind_eq_ok_iff, ReadAs, List.forall₂_cons_left_iff]
    refine exists_congr fun segment => ?_
    rw [Steps.bind_eq_ok_iff]
    constructor
    · rintro ⟨hsegment, rest, hrest, ⟨⟩⟩
      exact ⟨rest, hsegment, ih.1 hrest, rfl⟩
    · rintro ⟨rest, hsegment, hrest, rfl⟩
      exact ⟨hsegment, rest, ih.2 hrest, rfl⟩

/-- All parts can be read if each of them can. -/
theorem exists_readAs_iff {parts : List (List Char)} :
    (∃ segments, ReadAs parts segments) ↔ ∀ part ∈ parts, ['*', '*'] <:+: part → part = ['*', '*'] := by
  have hreadable {part : List Char} :
      (∃ segment, readSegment part = .ok segment) ↔ (['*', '*'] <:+: part → part = ['*', '*']) := by
    simp only [readSegment_eq_ok_iff]
    constructor
    · rintro ⟨_, ⟨hdeep, -⟩ | ⟨-, hnot, -⟩⟩ hholds
      · exact hdeep
      · exact absurd hholds hnot
    · intro h
      by_cases hdeep : part = ['*', '*']
      · exact ⟨_, .inl ⟨hdeep, rfl⟩⟩
      · exact ⟨_, .inr ⟨hdeep, fun hholds => hdeep (h hholds), rfl⟩⟩
  induction parts with
  | nil => simp
  | cons part parts ih =>
    constructor
    · rintro ⟨_, hread⟩
      obtain ⟨segment, rest, hsegment, hrest, rfl⟩ := List.forall₂_cons_left_iff.1 hread
      exact List.forall_mem_cons.2 ⟨hreadable.1 ⟨segment, hsegment⟩, ih.1 ⟨rest, hrest⟩⟩
    · intro h
      rw [List.forall_mem_cons] at h
      obtain ⟨segment, hsegment⟩ := hreadable.2 h.1
      obtain ⟨rest, hrest⟩ := ih.2 h.2
      exact ⟨segment :: rest, .cons hsegment hrest⟩

/-- The steps of a pattern take a text if its segments can be laid beside segments that make up the text. -/
theorem accepts_iff_aligned {parts : List (List Char)} (hparts : ∀ part ∈ parts, '/' ∉ part) {segments : List Segment}
    (hread : ReadAs parts segments) {cs : List Char} :
    accepts (· == ·) (segments.flatMap Segment.steps) cs = true ↔
      ∃ found, cs = written found ∧ (∀ s ∈ found, '/' ∉ s) ∧ Aligned parts found := by
  induction hread generalizing cs with
  | nil =>
    constructor
    · intro h
      exact ⟨[], List.isEmpty_iff.1 h, by simp, .nil⟩
    · rintro ⟨_, rfl, -, h⟩
      cases h
      rfl
  | @cons part segment parts segments hsegment hrest ih =>
    rw [List.forall_mem_cons] at hparts
    rw [List.flatMap_cons]
    obtain ⟨rfl, rfl⟩ | ⟨hpart, -, rfl⟩ := readSegment_eq_ok_iff.1 hsegment
    · rw [Segment.steps, List.singleton_append, accepts_deep_cons_iff]
      constructor
      · rintro (h | ⟨line, after, rfl, hline, h⟩)
        · obtain ⟨found, rfl, hfound, haligned⟩ := (ih hparts.2).1 h
          exact ⟨found, rfl, hfound, .deep [] (by simp) haligned⟩
        · -- A line after a slash is a run of segments.
          obtain ⟨found, rfl, hfound, haligned⟩ := (ih hparts.2).1 h
          refine ⟨line.splitOn '/' ++ found, ?_, ?_, .deep _ (fun s => not_mem_of_mem_splitOn_line hline) haligned⟩
          · rw [written_append, written_splitOn, List.cons_append]
          · rw [List.forall_mem_append]
            exact ⟨fun s => Text.not_mem_of_mem_splitOn, hfound⟩
      · rintro ⟨_, rfl, hfound, haligned⟩
        cases haligned with
        | @deep _ found run hrun haligned =>
          rw [List.forall_mem_append] at hfound
          have hafter := (ih hparts.2).2 ⟨found, rfl, hfound.2, haligned⟩
          cases run with
          | nil => exact .inl hafter
          | cons s run =>
            refine .inr ⟨s ++ written run, written found, ?_, ?_, hafter⟩
            · rw [List.cons_append, written_cons, written_append, List.cons_append, List.append_assoc]
            · exact fun hmem => not_mem_written hrun (List.mem_cons_of_mem _ hmem)
        | single hne => exact absurd rfl hne
    · rw [Segment.steps, List.cons_append]
      simp only [accepts, Glob.oneThen_iff, beq_iff_eq, accepts_map_stepOf_iff hparts.1, ih hparts.2]
      constructor
      · rintro ⟨_, _, rfl, rfl, s, _, rfl, hs, hstands, found, rfl, hfound, haligned⟩
        exact ⟨s :: found, rfl, List.forall_mem_cons.2 ⟨hs, hfound⟩, .single hpart hstands haligned⟩
      · rintro ⟨_, rfl, hfound, haligned⟩
        cases haligned with
        | deep => exact absurd rfl hpart
        | @single _ s _ found _ hstands haligned =>
          rw [List.forall_mem_cons] at hfound
          exact ⟨'/', s ++ written found, rfl, rfl, s, written found, rfl, hfound.1, hstands, found, rfl, hfound.2,
            haligned⟩

/-! ## Patterns -/

variable {text : String} {p : PathPattern}

theorem parse_eq_ok_iff : parse text = .ok p ↔
    text.toList.head? = some '/' ∧ ReadAs (segmentsOf text.toList) p.segments ∧ p.text = text := by
  unfold parse
  split
  case h_1 rest htext =>
    rw [Steps.map_eq_ok_iff, htext, ← mapM_readSegment_eq_ok_iff]
    constructor
    · rintro ⟨segments, hread, rfl⟩
      exact ⟨rfl, hread, rfl⟩
    · rintro ⟨-, hread, rfl⟩
      exact ⟨p.segments, hread, rfl⟩
  case h_2 h =>
    constructor
    · exact nofun
    · rintro ⟨hhead, -⟩
      exact absurd (List.eq_cons_of_mem_head? hhead) (h _)

/-- The pattern has been read. -/
def IsRead (p : PathPattern) : Prop :=
  parse p.text = .ok p

theorem text_of_parse (h : parse text = .ok p) : p.text = text :=
  (parse_eq_ok_iff.1 h).2.2

theorem isRead_of_parse (h : parse text = .ok p) : p.IsRead := by
  rw [IsRead, text_of_parse h, h]

/-- Patterns that have been read go by their texts. -/
theorem IsRead.eq_of_text {q : PathPattern} (h : p.IsRead) (h' : q.IsRead) (htext : p.text = q.text) : p = q := by
  rw [IsRead, htext, h'] at h
  cases h
  rfl

/-- A text is a pattern if it starts with a slash and no segment holds `**` beside other text. -/
theorem exists_parse_iff : (∃ p, parse text = .ok p) ↔ text.toList.head? = some '/' ∧
    ∀ part ∈ segmentsOf text.toList, ['*', '*'] <:+: part → part = ['*', '*'] := by
  simp only [parse_eq_ok_iff, ← exists_readAs_iff]
  constructor
  · rintro ⟨p, hhead, hread, -⟩
    exact ⟨hhead, p.segments, hread⟩
  · rintro ⟨hhead, segments, hread⟩
    exact ⟨⟨text, segments⟩, hhead, hread, rfl⟩

/-- A pattern covers a path if the part of the path before a query is empty or starts with a slash, and the segments of
the pattern can be laid beside the segments of that part. -/
theorem covers_iff_aligned (h : parse text = .ok p) {path : String} : p.covers path = true ↔
    (Text.upTo '?' path.toList = [] ∨ (Text.upTo '?' path.toList).head? = some '/') ∧
      Aligned (segmentsOf text.toList) (segmentsOf (Text.upTo '?' path.toList)) := by
  obtain ⟨-, hread, -⟩ := parse_eq_ok_iff.1 h
  rw [covers, Glob.fits_eq_accepts, steps, accepts_iff_aligned (fun part => not_mem_of_mem_segmentsOf) hread]
  constructor
  · rintro ⟨found, hpath, hfound, haligned⟩
    rw [hpath, segmentsOf_written hfound]
    exact ⟨written_rooted found, haligned⟩
  · rintro ⟨hrooted, haligned⟩
    exact ⟨_, (written_segmentsOf hrooted).symm, fun s => not_mem_of_mem_segmentsOf, haligned⟩

/-- Patterns have the grammar that they should have, and cover the paths that they should cover. -/
theorem parse_grammar_and_language (text : String) :
    ((∃ p, parse text = .ok p) ↔ text.toList.head? = some '/' ∧
      ∀ part ∈ segmentsOf text.toList, ['*', '*'] <:+: part → part = ['*', '*']) ∧
    ∀ p, parse text = .ok p → ∀ path : String, p.covers path = true ↔
      (Text.upTo '?' path.toList = [] ∨ (Text.upTo '?' path.toList).head? = some '/') ∧
        Aligned (segmentsOf text.toList) (segmentsOf (Text.upTo '?' path.toList)) :=
  ⟨exists_parse_iff, fun _ h _ => covers_iff_aligned h⟩

/-- All releases of a text, wherever they are. -/
def releases : PathPattern where
  text := "/**/v?/*.txt"
  segments := [.anyDepth, .single [.exactly 'v', .one],
    .single [.run, .exactly '.', .exactly 't', .exactly 'x', .exactly 't']]

/-- The pattern is one, and covers a path two levels down, whose query is not looked at; the dot stands for itself. -/
theorem releases_cover_second :
    parse "/**/v?/*.txt" = .ok releases ∧ releases.covers "/a/b/v2/x.txt?v=1" = true ∧
      releases.covers "/a/b/v2/xotxt" = false := by
  have hparse : parse "/**/v?/*.txt" = .ok releases := by decide +kernel
  have hcovers := (parse_grammar_and_language "/**/v?/*.txt").2 releases hparse
  have hpattern : segmentsOf "/**/v?/*.txt".toList = [['*', '*'], ['v', '?'], ['*', '.', 't', 'x', 't']] := by
    decide +kernel
  refine ⟨hparse, (hcovers _).2 ⟨.inr (by decide +kernel), ?_⟩, by decide +kernel⟩
  have hpath : segmentsOf (Text.upTo '?' "/a/b/v2/x.txt?v=1".toList) =
      [['a'], ['b']] ++ [['v', '2'], ['x'] ++ ['.', 't', 'x', 't']] := by
    decide +kernel
  have hversion : Stands ['v', '?'] ['v', '2'] := .itself (by decide) (by decide) (.mark '2' .nil)
  have hname : Stands ['*', '.', 't', 'x', 't'] (['x'] ++ ['.', 't', 'x', 't']) :=
    .star ['x'] ((stands_iff_of_plain (by decide +kernel)).2 rfl)
  rw [hpattern, hpath]
  exact .deep _ (by decide) (.single (by decide) hversion (.single (by decide) hname .nil))

end Portcullis.PathPattern
