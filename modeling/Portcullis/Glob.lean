/-!
# Wildcard patterns

A compiled wildcard pattern is a list of steps; `accepts` says which texts it takes as a whole. Two kinds of pattern are
built from it: request paths (`PathPattern`) and browser origins (`Cors.OriginPattern`). They differ in their steps and
in when two characters count as the same. `fits` finds out without trying one stretch after the other: it works its way
from the last step to the first, and keeps for every suffix of the text whether the steps so far take it.

* `anyTail_iff`, `oneThen_iff`: skipping a stretch of characters of one class, or one character, as statements about
  cuts of the text.
* `fits_eq_accepts`: working with suffixes gives the same answer.
-/

namespace Portcullis.Glob

/-- One step of a compiled pattern. -/
inductive Step
  /-- The character itself. -/
  | exactly (c : Char)
  /-- One character that is no slash. -/
  | one
  /-- Any number of characters, none of them a slash. -/
  | run
  /-- Nothing, or a slash and the rest of a line. -/
  | deep
  deriving DecidableEq, Repr

/-- Does `rest` take the text after some stretch of characters of class `p` at its start? -/
def anyTail (p : Char → Bool) (rest : List Char → Bool) : List Char → Bool
  | [] => rest []
  | c :: cs => rest (c :: cs) || (p c && anyTail p rest cs)

theorem anyTail_iff {p : Char → Bool} {rest : List Char → Bool} {cs : List Char} :
    anyTail p rest cs = true ↔ ∃ a b, cs = a ++ b ∧ (∀ c ∈ a, p c = true) ∧ rest b = true := by
  induction cs with
  | nil =>
    constructor
    · exact fun h => ⟨[], [], rfl, by simp, h⟩
    · rintro ⟨a, b, e, -, hb⟩
      obtain ⟨rfl, rfl⟩ := List.append_eq_nil_iff.1 e.symm
      exact hb
  | cons c cs ih =>
    simp only [anyTail, Bool.or_eq_true, Bool.and_eq_true, ih]
    constructor
    · rintro (h | ⟨hc, a, b, rfl, ha, hb⟩)
      · exact ⟨[], c :: cs, rfl, by simp, h⟩
      · exact ⟨c :: a, b, rfl, by simpa [hc] using ha, hb⟩
    · rintro ⟨a, b, e, ha, hb⟩
      cases a with
      | nil => rw [List.nil_append] at e; exact .inl (e ▸ hb)
      | cons d a =>
        obtain ⟨rfl, rfl⟩ := List.cons.inj e
        exact .inr ⟨ha c (by simp), a, b, rfl, fun x hx => ha x (by simp [hx]), hb⟩

/-- Does `rest` take the text after one character of class `p`? -/
def oneThen (p : Char → Bool) (rest : List Char → Bool) : List Char → Bool
  | [] => false
  | c :: cs => p c && rest cs

theorem oneThen_iff {p : Char → Bool} {rest : List Char → Bool} {cs : List Char} :
    oneThen p rest cs = true ↔ ∃ c b, cs = c :: b ∧ p c = true ∧ rest b = true := by
  cases cs with
  | nil => simp [oneThen]
  | cons c cs =>
    simp only [oneThen, Bool.and_eq_true, List.cons.injEq]
    constructor
    · exact fun h => ⟨c, cs, ⟨rfl, rfl⟩, h⟩
    · rintro ⟨_, _, ⟨rfl, rfl⟩, h⟩
      exact h

/-- The pattern takes the whole text. `same` says when a character of the text stands for one of the pattern. -/
def accepts (same : Char → Char → Bool) : List Step → List Char → Bool
  | [], cs => cs.isEmpty
  | .exactly c :: steps, cs => oneThen (same c) (accepts same steps) cs
  | .one :: steps, cs => oneThen (· != '/') (accepts same steps) cs
  | .run :: steps, cs => anyTail (· != '/') (accepts same steps) cs
  | .deep :: steps, cs =>
    accepts same steps cs || oneThen (· == '/') (anyTail (· != '\n') (accepts same steps)) cs

/-! ## All suffixes at once -/

/-- The answers of `f` for all suffixes of a text, the longest first. -/
def overSuffixes (f : List Char → Bool) : List Char → List Bool
  | [] => [f []]
  | c :: cs => f (c :: cs) :: overSuffixes f cs

/-- From the answers of `rest`, those of `oneThen p rest`. -/
def oneThenRow (p : Char → Bool) : List Char → List Bool → List Bool
  | c :: cs, _ :: bs => (p c && bs.headD false) :: oneThenRow p cs bs
  | _, _ => [false]

/-- From the answers of `rest`, those of `anyTail p rest`. -/
def anyTailRow (p : Char → Bool) : List Char → List Bool → List Bool
  | c :: cs, b :: bs =>
    let later := anyTailRow p cs bs
    (b || (p c && later.headD false)) :: later
  | _, bs => bs

/-- For every suffix of the text, whether the pattern takes it. -/
def fitsRow (same : Char → Char → Bool) (cs : List Char) : List Step → List Bool
  | [] => overSuffixes List.isEmpty cs
  | .exactly c :: steps => oneThenRow (same c) cs (fitsRow same cs steps)
  | .one :: steps => oneThenRow (· != '/') cs (fitsRow same cs steps)
  | .run :: steps => anyTailRow (· != '/') cs (fitsRow same cs steps)
  | .deep :: steps =>
    let row := fitsRow same cs steps
    List.zipWith (· || ·) row (oneThenRow (· == '/') cs (anyTailRow (· != '\n') cs row))

/-- The pattern takes the whole text; the time is in proportion to the product of their lengths. -/
def fits (same : Char → Char → Bool) (steps : List Step) (cs : List Char) : Bool :=
  (fitsRow same cs steps).headD false

theorem head?_overSuffixes (f : List Char → Bool) (cs : List Char) : (overSuffixes f cs).head? = some (f cs) := by
  cases cs <;> rfl

theorem oneThenRow_overSuffixes (p : Char → Bool) (f : List Char → Bool) (cs : List Char) :
    oneThenRow p cs (overSuffixes f cs) = overSuffixes (oneThen p f) cs := by
  induction cs with
  | nil => rfl
  | cons c cs ih => simp [overSuffixes, oneThenRow, oneThen, head?_overSuffixes, ih]

theorem anyTailRow_overSuffixes (p : Char → Bool) (f : List Char → Bool) (cs : List Char) :
    anyTailRow p cs (overSuffixes f cs) = overSuffixes (anyTail p f) cs := by
  induction cs with
  | nil => rfl
  | cons c cs ih => simp [overSuffixes, anyTailRow, anyTail, head?_overSuffixes, ih]

theorem zipWith_or_overSuffixes (f g : List Char → Bool) (cs : List Char) :
    List.zipWith (· || ·) (overSuffixes f cs) (overSuffixes g cs) = overSuffixes (fun x => f x || g x) cs := by
  induction cs with
  | nil => rfl
  | cons c cs ih => simp [overSuffixes, ih]

theorem fitsRow_eq (same : Char → Char → Bool) (cs : List Char) (steps : List Step) :
    fitsRow same cs steps = overSuffixes (accepts same steps) cs := by
  induction steps with
  | nil => simp only [fitsRow]; congr 1
  | cons s steps ih =>
    cases s with
    | exactly c => rw [fitsRow, ih, oneThenRow_overSuffixes]; rfl
    | one => rw [fitsRow, ih, oneThenRow_overSuffixes]; rfl
    | run => rw [fitsRow, ih, anyTailRow_overSuffixes]; rfl
    | deep =>
      rw [fitsRow, ih]
      simp only [anyTailRow_overSuffixes, oneThenRow_overSuffixes, zipWith_or_overSuffixes]
      rfl

theorem fits_eq_accepts (same : Char → Char → Bool) (steps : List Step) (cs : List Char) :
    fits same steps cs = accepts same steps cs := by
  simp [fits, fitsRow_eq, head?_overSuffixes]

end Portcullis.Glob
