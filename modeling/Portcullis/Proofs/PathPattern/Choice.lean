import Mathlib.Data.List.Induction
import Portcullis.PathPattern

/-!
# The most specific pattern

Of the entries whose patterns cover a path, the one that is picked says at least as much as every other one, and more
than every one that stands before it (`PathPattern.Chosen`). There is one such entry at most, and one exactly if any
entry covers the path.

* `Specificity.atLeast_trans`, `Specificity.atLeast_of_not`: saying at least as much is a total order of patterns, up to
  those that say equally much.
* `mostSpecific_eq_some_iff`, `mostSpecific_eq_none_iff`: the pick.
* `exists_mostSpecific`: there is one where any entry covers the path.
-/

namespace Portcullis.PathPattern

namespace Specificity

variable {a b c : Specificity}

theorem atLeast_iff : a.atLeast b = true ↔ a.doubles < b.doubles ∨
    a.doubles = b.doubles ∧ (a.singles < b.singles ∨ a.singles = b.singles ∧ b.bytes ≤ a.bytes) := by
  simp [atLeast]

theorem atLeast_refl (a : Specificity) : a.atLeast a = true := by
  simp [atLeast]

theorem atLeast_trans (h : a.atLeast b = true) (h' : b.atLeast c = true) : a.atLeast c = true := by
  rw [atLeast_iff] at *
  omega

theorem atLeast_of_not (h : a.atLeast b = false) : b.atLeast a = true := by
  have h : ¬a.atLeast b = true := by simp [h]
  rw [atLeast_iff] at *
  omega

end Specificity

/-- The pattern covers the path. Of those before it that do so too, none says as much; of those after it, none says
more. -/
structure Chosen (path : String) (earlier : List PathPattern) (p : PathPattern) (later : List PathPattern) : Prop where
  covers : p.covers path = true
  before : ∀ q ∈ earlier, q.covers path = true → q.specificity.atLeast p.specificity = false
  after : ∀ q ∈ later, q.covers path = true → p.specificity.atLeast q.specificity = true

/-- Two places in one list are the same place, or what is in the one stands behind the other. -/
theorem places_cases {α : Type} {xs ys xs' ys' : List α} {a b : α} (h : xs ++ a :: ys = xs' ++ b :: ys') :
    xs = xs' ∧ a = b ∨ a ∈ xs' ∧ b ∈ ys ∨ b ∈ xs ∧ a ∈ ys' := by
  rcases List.append_eq_append_iff.1 h with ⟨between, rfl, hrest⟩ | ⟨between, rfl, hrest⟩
  · cases between with
    | nil => exact .inl ⟨by simp, (List.cons.inj hrest).1⟩
    | cons c between =>
      obtain ⟨rfl, rfl⟩ := List.cons.inj hrest
      exact .inr (.inl ⟨by simp, by simp⟩)
  · cases between with
    | nil => exact .inl ⟨by simp, (List.cons.inj hrest).1.symm⟩
    | cons c between =>
      obtain ⟨rfl, rfl⟩ := List.cons.inj hrest
      exact .inr (.inr ⟨by simp, by simp⟩)

/-- One pattern is chosen at most, and in one place. -/
theorem Chosen.unique {path : String} {earlier later earlier' later' : List PathPattern} {p p' : PathPattern}
    (h : Chosen path earlier p later) (h' : Chosen path earlier' p' later')
    (heq : earlier ++ p :: later = earlier' ++ p' :: later') : earlier = earlier' := by
  -- Of two patterns in different places, the one behind would have to say more than the one in front, and not more.
  rcases places_cases heq with ⟨hearlier, -⟩ | ⟨hp, hp'⟩ | ⟨hp', hp⟩
  · exact hearlier
  · have hmore := h'.before p hp h.covers
    rw [h.after p' hp' h'.covers] at hmore
    cases hmore
  · have hmore := h.before p' hp' h'.covers
    rw [h'.after p hp h.covers] at hmore
    cases hmore

variable {α : Type} {path : String} {entries : List (PathPattern × α)} {entry : PathPattern × α}

theorem mostSpecific_concat (entries : List (PathPattern × α)) (entry : PathPattern × α) :
    mostSpecific (entries ++ [entry]) path =
      if entry.1.covers path then some (better (mostSpecific entries path) entry) else mostSpecific entries path := by
  simp [mostSpecific]

/-- Nothing is picked where no pattern covers the path. -/
theorem mostSpecific_eq_none_iff : mostSpecific entries path = none ↔ ∀ e ∈ entries, e.1.covers path = false := by
  induction entries using List.reverseRecOn with
  | nil => simp [mostSpecific]
  | append_singleton entries next ih =>
    rw [mostSpecific_concat, List.forall_mem_append, List.forall_mem_singleton, ← ih]
    cases next.1.covers path <;> simp

/-- What is picked has been chosen. -/
theorem exists_chosen (h : mostSpecific entries path = some entry) : ∃ earlier later,
    entries = earlier ++ entry :: later ∧ Chosen path (earlier.map (·.1)) entry.1 (later.map (·.1)) := by
  induction entries using List.reverseRecOn generalizing entry with
  | nil => cases h
  | append_singleton entries next ih =>
    rw [mostSpecific_concat] at h
    split at h
    case isFalse hnot =>
      obtain ⟨earlier, later, rfl, hchosen⟩ := ih h
      refine ⟨earlier, later ++ [next], by simp, hchosen.covers, hchosen.before, ?_⟩
      rw [List.map_append, List.forall_mem_append]
      exact ⟨hchosen.after, List.forall_mem_singleton.2 fun hcovers => absurd hcovers hnot⟩
    case isTrue hcovers =>
      cases hheld : mostSpecific entries path with
      | none =>
        rw [hheld] at h
        cases h
        refine ⟨entries, [], rfl, hcovers, List.forall_mem_map.2 fun e he hcovered => ?_, by simp⟩
        rw [mostSpecific_eq_none_iff.1 hheld e he] at hcovered
        cases hcovered
      | some held =>
        obtain ⟨earlier, later, rfl, hchosen⟩ := ih hheld
        rw [hheld, better] at h
        split at h
        case isTrue hatLeast =>
          cases h
          refine ⟨earlier, later ++ [next], by simp, hchosen.covers, hchosen.before, ?_⟩
          rw [List.map_append, List.forall_mem_append]
          exact ⟨hchosen.after, List.forall_mem_singleton.2 fun _ => hatLeast⟩
        case isFalse hnot =>
          -- The next one says more than the one held so far, and so more than all before it.
          cases h
          have hnot : held.1.specificity.atLeast next.1.specificity = false := by simpa using hnot
          refine ⟨earlier ++ held :: later, [], rfl, hcovers, ?_, by simp⟩
          rw [List.map_append, List.map_cons]
          intro q hq hcovered
          rw [← Bool.not_eq_true]
          intro hatLeast
          rcases List.mem_append.1 hq with hq | hq
          · have hmore := hchosen.before q hq hcovered
            rw [Specificity.atLeast_trans hatLeast (Specificity.atLeast_of_not hnot)] at hmore
            cases hmore
          · have hheld : held.1.specificity.atLeast q.specificity = true := by
              rcases List.mem_cons.1 hq with rfl | hq
              · exact Specificity.atLeast_refl _
              · exact hchosen.after q hq hcovered
            rw [Specificity.atLeast_trans hheld hatLeast] at hnot
            cases hnot

theorem mostSpecific_eq_some_iff : mostSpecific entries path = some entry ↔ ∃ earlier later,
    entries = earlier ++ entry :: later ∧ Chosen path (earlier.map (·.1)) entry.1 (later.map (·.1)) := by
  constructor
  · exact exists_chosen
  · rintro ⟨earlier, later, rfl, hchosen⟩
    cases hpick : mostSpecific (earlier ++ entry :: later) path with
    | none =>
      have hnot := mostSpecific_eq_none_iff.1 hpick entry (by simp)
      rw [hchosen.covers] at hnot
      cases hnot
    | some picked =>
      obtain ⟨earlier', later', heq, hchosen'⟩ := exists_chosen hpick
      have hplace := hchosen.unique hchosen' (by simpa using congrArg (List.map (·.1)) heq)
      have hlength : earlier.length = earlier'.length := by simpa using congrArg List.length hplace
      obtain ⟨-, hrest⟩ := List.append_inj heq hlength
      rw [(List.cons.inj hrest).1]

/-- What is picked is one of the entries, and covers the path. -/
theorem mem_of_mostSpecific (h : mostSpecific entries path = some entry) :
    entry ∈ entries ∧ entry.1.covers path = true := by
  obtain ⟨earlier, later, rfl, hchosen⟩ := exists_chosen h
  exact ⟨by simp, hchosen.covers⟩

/-- What is picked says at least as much as every entry that covers the path. -/
theorem atLeast_of_mostSpecific (h : mostSpecific entries path = some entry) {e : PathPattern × α} (he : e ∈ entries)
    (hcovers : e.1.covers path = true) : entry.1.specificity.atLeast e.1.specificity = true := by
  obtain ⟨earlier, later, rfl, hchosen⟩ := exists_chosen h
  rcases List.mem_append.1 he with he | he
  · exact Specificity.atLeast_of_not (hchosen.before e.1 (List.mem_map_of_mem he) hcovers)
  · rcases List.mem_cons.1 he with rfl | he
    · exact Specificity.atLeast_refl _
    · exact hchosen.after e.1 (List.mem_map_of_mem he) hcovers

/-- Where an entry covers the path, one is picked, and that one says at least as much. -/
theorem exists_mostSpecific {e : PathPattern × α} (he : e ∈ entries) (hcovers : e.1.covers path = true) :
    ∃ picked ∈ entries, mostSpecific entries path = some picked ∧ picked.1.covers path = true ∧
      picked.1.specificity.atLeast e.1.specificity = true := by
  cases hpick : mostSpecific entries path with
  | none =>
    have hnot := mostSpecific_eq_none_iff.1 hpick e he
    rw [hcovers] at hnot
    cases hnot
  | some picked =>
    obtain ⟨hmem, hcovered⟩ := mem_of_mostSpecific hpick
    exact ⟨picked, hmem, rfl, hcovered, atLeast_of_mostSpecific hpick he hcovers⟩

end Portcullis.PathPattern
