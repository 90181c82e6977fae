import Portcullis.Text.Basic

/-!
# Header fields

Header fields in order, duplicates kept. Names are compared without regard to case.

* `Headers.getAll_without`, `Headers.getAll_without_of_ne`: what removing a name leaves.
* `Headers.getAll_append`, `Headers.getAll_set_of_ne`, `Headers.getAll_addVary_of_ne`: what other changes leave.
-/

namespace Portcullis

/-- Header fields, as names and values in order. -/
abbrev Headers := List (String × String)

namespace Headers

/-- Does the field carry this name? -/
def named (name : String) (field : String × String) : Bool :=
  Text.sameIgnoringCase field.1 name

/-- The value of the first field of a name. -/
def get? (h : Headers) (name : String) : Option String :=
  (h.find? (named name)).map (·.2)

/-- The values of all fields of a name, in order. -/
def getAll (h : Headers) (name : String) : List String :=
  (h.filter (named name)).map (·.2)

/-- Is there a field of this name? -/
def has (h : Headers) (name : String) : Bool :=
  (h.get? name).isSome

/-- The fields of other names. -/
def without (h : Headers) (name : String) : Headers :=
  h.filter fun field => !named name field

/-- One field of this name, at the end, in place of all there were. -/
def set (h : Headers) (name value : String) : Headers :=
  h.without name ++ [(name, value)]

@[simp] theorem getAll_nil (name : String) : getAll [] name = [] := rfl

theorem getAll_cons (field : String × String) (h : Headers) (name : String) :
    getAll (field :: h) name = if named name field then field.2 :: h.getAll name else h.getAll name := by
  cases hn : named name field <;> simp [getAll, hn]

theorem getAll_singleton (name value other : String) :
    getAll [(name, value)] other = if Text.sameIgnoringCase name other then [value] else [] :=
  getAll_cons _ _ _

/-- Names that differ in case only name the same fields. -/
theorem named_congr {name other : String} (h : Text.sameIgnoringCase name other = true) : named name = named other := by
  funext field
  simp only [Text.sameIgnoringCase, beq_iff_eq] at h
  simp only [named, Text.sameIgnoringCase, h]

theorem getAll_congr (h : Headers) {name other : String} (hsame : Text.sameIgnoringCase name other = true) :
    h.getAll name = h.getAll other := by
  rw [getAll, getAll, named_congr hsame]

theorem getAll_eq_nil_iff {h : Headers} {name : String} :
    h.getAll name = [] ↔ ∀ field ∈ h, named name field = false := by
  simp [getAll]

theorem getAll_eq_nil_of_names {h : Headers} {names : List String} {name : String} (hnames : ∀ field ∈ h, field.1 ∈ names)
    (hne : ∀ other ∈ names, Text.sameIgnoringCase other name = false) : h.getAll name = [] :=
  getAll_eq_nil_iff.2 fun field hfield => hne field.1 (hnames field hfield)

theorem getAll_append (h k : Headers) (name : String) : (h ++ k).getAll name = h.getAll name ++ k.getAll name := by
  simp [getAll]

theorem getAll_without (h : Headers) (name : String) : (h.without name).getAll name = [] := by
  simp only [getAll, without, List.filter_filter]
  rw [List.filter_eq_nil_iff.2 (by simp)]
  rfl

theorem getAll_without_of_ne (h : Headers) {name other : String} (hne : Text.sameIgnoringCase other name = false) :
    (h.without name).getAll other = h.getAll other := by
  simp only [getAll, without, List.filter_filter]
  congr 1
  apply List.filter_congr
  intro field _
  by_cases ho : named other field = true
  · have : named name field = false := by
      simp only [named, Text.sameIgnoringCase, beq_iff_eq, beq_eq_false_iff_ne] at *
      rwa [ho]
    simp [ho, this]
  · simp [ho]

theorem getAll_set (h : Headers) (name value : String) : (h.set name value).getAll name = [value] := by
  have hnamed : named name (name, value) = true := Text.sameIgnoringCase_self name
  rw [set, getAll_append, getAll_without, getAll_cons, if_pos hnamed, getAll_nil, List.nil_append]

theorem getAll_set_of_ne (h : Headers) {name other : String} (value : String)
    (hne : Text.sameIgnoringCase other name = false) : (h.set name value).getAll other = h.getAll other := by
  have hnamed : named other (name, value) = false := by rwa [named, Text.sameIgnoringCase_comm]
  rw [set, getAll_append, getAll_without_of_ne h hne, getAll_cons, hnamed, if_neg Bool.false_ne_true, getAll_nil,
    List.append_nil]

/-! ## The `vary` list -/

/-- The parts that all `vary` fields list together, empty ones included. -/
def varyParts (h : Headers) : List String :=
  (h.getAll "vary").flatMap Text.commaParts

/-- Replaces the value of the first field of a name. -/
def modifyFirst (name : String) (f : String → String) : Headers → Headers
  | [] => []
  | field :: rest => if named name field then (field.1, f field.2) :: rest else field :: modifyFirst name f rest

/-- A `vary` value with one more token. -/
def appendToken (token value : String) : String :=
  if Text.isBlankText value then token else value ++ ", " ++ token

/-- The answer varies with `token` too. A token that is listed, in any case, or a `*` leaves the fields as they are. -/
def addVary (h : Headers) (token : String) : Headers :=
  if (h.varyParts.any fun t => t == "*" || Text.sameIgnoringCase t token) then h
  else if h.has "vary" then h.modifyFirst "vary" (appendToken token)
  else h ++ [("vary", token)]

theorem getAll_modifyFirst_of_ne {name other : String} (f : String → String)
    (hne : Text.sameIgnoringCase other name = false) (h : Headers) :
    (modifyFirst name f h).getAll other = h.getAll other := by
  induction h with
  | nil => rfl
  | cons field rest ih =>
    rw [modifyFirst]
    split
    · rename_i hname
      have hother (value : String) : named other (field.1, value) = false := by
        simp only [named, Text.sameIgnoringCase, beq_iff_eq, beq_eq_false_iff_ne] at *
        rw [hname]
        exact Ne.symm hne
      rw [getAll_cons, getAll_cons, hother, show named other field = false from hother field.2]
      rfl
    · rw [getAll_cons, getAll_cons, ih]

/-- Only fields named `vary` change. -/
theorem getAll_addVary_of_ne (h : Headers) {name : String} (token : String)
    (hne : Text.sameIgnoringCase name "vary" = false) : (h.addVary token).getAll name = h.getAll name := by
  have hvary : named name ("vary", token) = false := by rwa [named, Text.sameIgnoringCase_comm]
  rw [addVary]
  split
  · rfl
  split
  · exact getAll_modifyFirst_of_ne _ hne h
  · rw [getAll_append, getAll_cons, hvary, if_neg Bool.false_ne_true, getAll_nil, List.append_nil]

end Headers

end Portcullis
