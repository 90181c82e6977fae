import Portcullis.Http.Headers
import Portcullis.Proofs.CommaList

/-!
# Fields that are replaced and lists that grow

A field can take the place of all fields of its name, and a token can be added to the list of all `vary` fields. Either
way the fields of other names stay as they are, in their order (`Headers.besides_set`, `Headers.besides_addVary`); and
the list grows by the token, unless it says so already (`Headers.mem_varyTokens_addVary`).
-/

namespace Portcullis

/-- A list that is blank has no tokens. -/
theorem Text.commaTokens_of_isBlankText {s : String} (h : isBlankText s = true) : commaTokens s = [] := by
  have hblank : ∀ c ∈ s.toList, isBlank c = true := List.all_eq_true.1 h
  have hcomma : ',' ∉ s.toList := fun hmem => absurd (hblank _ hmem) (by decide)
  have htrim : trim s.toList = [] := by
    rw [trim, stripEnds, List.dropWhile_eq_nil_iff.2 hblank]
    rfl
  rw [commaTokens, commaParts, List.splitOn_eq_singleton hcomma, List.map_singleton, htrim]
  rfl

namespace Headers

variable {name token part : String} {names : List String}

/-! ## Fields of other names -/

/-- The fields of other names than these, in order. -/
def besides (names : List String) (h : Headers) : Headers :=
  h.filter fun field => names.all fun name => !named name field

theorem named_self (name value : String) : named name (name, value) = true :=
  Text.sameIgnoringCase_self name

theorem besides_append (names : List String) (h k : Headers) :
    (h ++ k).besides names = h.besides names ++ k.besides names :=
  List.filter_append h k

theorem besides_cons (names : List String) (field : String × String) (h : Headers) : besides names (field :: h) =
    if (names.all fun name => !named name field) then field :: h.besides names else h.besides names :=
  List.filter_cons

/-- A field of one of the names does not count. -/
theorem besides_cons_of_named (hname : name ∈ names) {field : String × String} (hfield : named name field = true)
    (h : Headers) : besides names (field :: h) = h.besides names := by
  refine List.filter_cons_of_neg fun hall => ?_
  have hother := List.all_eq_true.1 hall name hname
  simp [hfield] at hother

theorem besides_without (hname : name ∈ names) (h : Headers) : (h.without name).besides names = h.besides names := by
  rw [besides, without, List.filter_filter]
  refine List.filter_congr fun field _ => ?_
  cases hfield : named name field with
  | false => simp
  | true =>
    have hnone : (names.all fun name => !named name field) = false :=
      List.all_eq_false.2 ⟨name, hname, by simp [hfield]⟩
    simp [hnone]

theorem besides_set (hname : name ∈ names) (h : Headers) (value : String) :
    (h.set name value).besides names = h.besides names := by
  rw [set, besides_append, besides_without hname, besides_cons_of_named hname (named_self name value)]
  exact List.append_nil _

theorem besides_modifyFirst (hname : name ∈ names) (f : String → String) (h : Headers) :
    (modifyFirst name f h).besides names = h.besides names := by
  induction h with
  | nil => rfl
  | cons field rest ih =>
    rw [modifyFirst]
    split
    case isTrue hfield =>
      have hchanged : named name (field.1, f field.2) = true := hfield
      rw [besides_cons_of_named hname hchanged, besides_cons_of_named hname hfield]
    case isFalse => rw [besides_cons, besides_cons, ih]

theorem besides_addVary (hvary : "vary" ∈ names) (h : Headers) (token : String) :
    (h.addVary token).besides names = h.besides names := by
  rw [addVary]
  split
  · rfl
  split
  · exact besides_modifyFirst hvary _ h
  · rw [besides_append, besides_cons_of_named hvary (named_self "vary" token)]
    exact List.append_nil _

/-- Where no two fields have the same name, each has its name for itself. -/
theorem getAll_of_pairwise {h : Headers} (hnames : (h.map Prod.fst).Pairwise (Text.sameIgnoringCase · · = false))
    {field : String × String} (hfield : field ∈ h) : h.getAll field.1 = [field.2] := by
  induction h with
  | nil => cases hfield
  | cons first rest ih =>
    rw [List.map_cons, List.pairwise_cons] at hnames
    rw [getAll_cons]
    rcases List.mem_cons.1 hfield with rfl | hrest
    · have hnone : getAll rest field.1 = [] := by
        refine getAll_eq_nil_iff.2 fun other hother => ?_
        rw [named, Text.sameIgnoringCase_comm]
        exact hnames.1 _ (List.mem_map_of_mem hother)
      rw [hnone, if_pos (named_self field.1 field.2)]
    · have hother : named field.1 first = false := hnames.1 _ (List.mem_map_of_mem hrest)
      rw [hother, if_neg Bool.false_ne_true, ih hnames.2 hrest]

/-! ## The `vary` list -/

/-- The tokens that all `vary` fields list together. -/
def varyTokens (h : Headers) : List String :=
  (h.getAll "vary").flatMap Text.commaTokens

/-- The list says that the answer varies with the token: it names the token, in any case, or has a star. -/
def VariesWith (h : Headers) (token : String) : Prop :=
  ∃ part ∈ h.varyParts, part = "*" ∨ Text.sameIgnoringCase part token = true

theorem variesWith_iff {h : Headers} :
    (h.varyParts.any fun t => t == "*" || Text.sameIgnoringCase t token) = true ↔ h.VariesWith token := by
  simp [VariesWith]

instance (h : Headers) (token : String) : Decidable (h.VariesWith token) :=
  decidable_of_iff _ variesWith_iff

theorem mem_varyTokens {h : Headers} : part ∈ h.varyTokens ↔ part ∈ h.varyParts ∧ part ≠ "" := by
  simp only [varyTokens, varyParts, List.mem_flatMap, Text.mem_commaTokens]
  constructor
  · rintro ⟨value, hvalue, hpart, hempty⟩
    exact ⟨⟨value, hvalue, hpart⟩, hempty⟩
  · rintro ⟨⟨value, hvalue, hpart⟩, hempty⟩
    exact ⟨value, hvalue, hpart, hempty⟩

theorem varyTokens_cons (field : String × String) (h : Headers) : varyTokens (field :: h) =
    (if named "vary" field then Text.commaTokens field.2 else []) ++ h.varyTokens := by
  rw [varyTokens, getAll_cons]
  split
  · rw [List.flatMap_cons]
    rfl
  · rfl

section Token

variable (htoken : Text.IsPart token) (hempty : token ≠ "")
include htoken hempty

theorem commaTokens_token : Text.commaTokens token = [token] := by
  simp [Text.commaTokens, htoken.commaParts, hempty]

theorem mem_commaTokens_appendToken {value : String} :
    part ∈ Text.commaTokens (appendToken token value) ↔ part ∈ Text.commaTokens value ∨ part = token := by
  rw [appendToken]
  split
  case isTrue hblank => simp [commaTokens_token htoken hempty, Text.commaTokens_of_isBlankText hblank]
  case isFalse =>
    simp only [Text.mem_commaTokens, Text.commaParts_append, htoken.commaParts, List.mem_append, List.mem_singleton]
    constructor
    · rintro ⟨hvalue | rfl, hpart⟩
      · exact .inl ⟨hvalue, hpart⟩
      · exact .inr rfl
    · rintro (⟨hvalue, hpart⟩ | rfl)
      · exact ⟨.inl hvalue, hpart⟩
      · exact ⟨.inr rfl, hempty⟩

theorem mem_varyTokens_modifyFirst {h : Headers} (hhas : h.has "vary" = true) :
    part ∈ (modifyFirst "vary" (appendToken token) h).varyTokens ↔ part ∈ h.varyTokens ∨ part = token := by
  induction h with
  | nil => cases hhas
  | cons field rest ih =>
    rw [modifyFirst]
    cases hfield : named "vary" field with
    | true =>
      have hchanged : named "vary" (field.1, appendToken token field.2) = true := hfield
      simp only [if_true, varyTokens_cons, hchanged, hfield, List.mem_append,
        mem_commaTokens_appendToken htoken hempty]
      exact or_right_comm
    | false =>
      have hrest : has rest "vary" = true := by simpa [has, get?, hfield] using hhas
      simp only [Bool.false_eq_true, if_false, varyTokens_cons, hfield, List.nil_append, ih hrest]

theorem mem_varyTokens_addVary {h : Headers} :
    part ∈ (h.addVary token).varyTokens ↔ part ∈ h.varyTokens ∨ ¬h.VariesWith token ∧ part = token := by
  rw [addVary]
  split
  case isTrue hvaries => simp [variesWith_iff.1 hvaries]
  case isFalse hvaries =>
    rw [variesWith_iff] at hvaries
    simp only [hvaries, not_false_eq_true, true_and]
    split
    case isTrue hhas => exact mem_varyTokens_modifyFirst htoken hempty hhas
    case isFalse hhas =>
      have hadded : Text.sameIgnoringCase "vary" "vary" = true := Text.sameIgnoringCase_self "vary"
      simp [varyTokens, getAll_append, getAll_singleton, hadded, commaTokens_token htoken hempty]

/-- Once the token has been added, the list says so. -/
theorem variesWith_addVary (h : Headers) : (h.addVary token).VariesWith token := by
  by_cases hvaries : h.VariesWith token
  · rwa [addVary, if_pos (variesWith_iff.2 hvaries)]
  · have hadded : token ∈ (h.addVary token).varyTokens :=
      (mem_varyTokens_addVary htoken hempty).2 (.inr ⟨hvaries, rfl⟩)
    exact ⟨token, (mem_varyTokens.1 hadded).1, .inr (Text.sameIgnoringCase_self token)⟩

end Token

end Headers

end Portcullis
