import Portcullis.Proofs.Security.Expressions
import Portcullis.Proofs.Security.Roles

/-!
# Requirements in settings

A requirement may be written as a table of one entry, with a list of names under its key. Such a table is turned into
the expression with these arguments, and that is read (`readAccess_of_keyed`). So the roles of a list are not its names
as they stand, but what is read of them (`rolesRead`): a name with commas in it becomes several roles, blanks and quotes
at the ends of a name are dropped, and a name of nothing else is passed over. A list of names without all that is read
as it stands.

* `keyed_list_granted`: whom a requirement with a list of roles lets pass.
-/

namespace Portcullis.Settings

open Access (HasOneOf IsArgument)

variable {α : Type} [Tree α] {x : α} {key : String} {names roles : List String}

/-- A table of one entry, with a list of texts under its key. -/
def keyed (key : String) (names : List String) : Datum :=
  .table [(.text key, .list (names.map .text))]

/-! ## Reading -/

/-- Where the first form does not fit, the second one is taken. -/
theorem firstForm_of_second {β : Type} {type : String} {first second : Reader Datum β} {d : Datum} {b : β}
    (hx : Tree.settle x = some d) (hfirst : (first d).toOption = none) (hsecond : second d = .ok b) :
    firstForm type [first, second] x = .ok b := by
  rw [firstForm, hx, Option.bind_some, List.findSome?_cons, hfirst, List.findSome?_cons, hsecond]
  rfl

theorem list_text (names : List String) : list text (Datum.list (names.map .text)) = .ok names := by
  show (names.map Datum.text).mapM text = .ok names
  induction names with
  | nil => rfl
  | cons name names ih =>
    rw [List.map_cons, List.mapM_cons, ih]
    rfl

theorem readArguments_list (names : List String) : readArguments (.list (names.map .text)) = .ok names :=
  firstForm_of_second rfl rfl (list_text names)

theorem table_keyed (key : String) (names : List String) :
    table readArguments (keyed key names) = .ok [(key, names)] := by
  unfold table keyed
  dsimp only [Tree.view, Datum.view]
  rw [List.foldlM_cons, readArguments_list]
  rfl

theorem readAccessForm_of_keyed (h : Tree.settle x = some (keyed key names)) :
    readAccessForm x = .ok (.entries [(key, names)]) := by
  refine firstForm_of_second h rfl ?_
  rw [table_keyed]
  rfl

/-- A table of one entry is read as the expression that its key and its list make up. -/
theorem readAccess_of_keyed (h : Tree.settle x = some (keyed key names)) :
    readAccess x = match Access.parse? (callText key names) with
      | some access => .ok access
      | none => .error (.refused (SetupError.invalidAccess (callText key names)).message) := by
  have htext : AccessForm.text (.entries [(key, names)]) = .ok (callText key names) := rfl
  rw [readAccess, readAccessForm_of_keyed h]
  dsimp only [bind, Except.bind]
  rw [htext]
  dsimp only
  cases Access.parse? (callText key names) <;> rfl

/-! ## Lists of roles -/

/-- The roles that are read of a list of names. -/
def rolesRead (names : List String) : List String :=
  names.flatMap fun name => Access.arguments name.toList

/-- A list of roles is read name by name; it is refused if nothing is left of the names. -/
theorem readAccess_of_roles (h : Tree.settle x = some (keyed "has_any_role" names)) :
    readAccess x =
      if rolesRead names = [] then
        .error (.refused (SetupError.invalidAccess (callText "has_any_role" names)).message)
      else .ok (.hasAnyRole (rolesRead names)) := by
  have hparse : Access.parse? (callText "has_any_role" names) = Access.ofCall? "has_any_role" (rolesRead names) := by
    rw [Access.parse?_callText (by decide) (by decide) (by decide), Access.arguments_intercalate, rolesRead]
  rw [readAccess_of_keyed h, hparse]
  by_cases hroles : rolesRead names = []
  · have hnone : Access.ofCall? "has_any_role" (rolesRead names) = none :=
      Option.eq_none_iff_forall_ne_some.2 fun _ hcall => (Access.ofCall?_eq_some_iff.1 hcall).2 hroles
    rw [hnone, if_pos hroles]
  · have hsome : Access.ofCall? "has_any_role" (rolesRead names) = some (.hasAnyRole (rolesRead names)) :=
      Access.ofCall?_eq_some_iff.2 ⟨rfl, hroles⟩
    rw [hsome, if_neg hroles]

/-- The name is read as it stands. -/
structure IsPlain (name : String) : Prop where
  noComma : ',' ∉ name.toList
  noBlanks : Text.trimmed name = name
  noQuotes : Access.unquoted name = name

theorem rolesRead_of_plain (hnames : ∀ name ∈ names, name ≠ "") (h : ∀ name ∈ names, IsPlain name) :
    rolesRead names = names := by
  have hself : ∀ name ∈ names, Access.arguments name.toList = [name] := by
    intro name hname
    obtain ⟨hcomma, hblanks, hquotes⟩ := h name hname
    have hargument : IsArgument name := ⟨hnames name hname, hcomma, hquotes⟩
    exact hargument.arguments_eq_singleton_iff.2 hblanks
  rw [rolesRead, List.flatMap_congr hself]
  exact List.flatMap_singleton' names

/-- Two lists of roles let the same authentications pass exactly if they stand for the same authorities. -/
theorem hasOneOf_congr_iff : (∀ authentication, HasOneOf names authentication ↔ HasOneOf roles authentication) ↔
    ∀ authority, authority ∈ names.map roleAuthority ↔ authority ∈ roles.map roleAuthority := by
  constructor
  · intro h authority
    -- somebody with no other authority than this
    have hsome := h (some ⟨"", [authority], true, .preAuthenticated⟩)
    simpa [Access.hasOneOf_some_iff, Authentication.isReal, Authentication.isAnonymous] using hsome
  · intro h authentication
    cases authentication with
    | none => simp [HasOneOf]
    | some a =>
      have hexists {list : List String} : (∃ role ∈ list, roleAuthority role ∈ a.authorities) ↔
          ∃ authority ∈ list.map roleAuthority, authority ∈ a.authorities := by simp
      rw [Access.hasOneOf_some_iff, Access.hasOneOf_some_iff, hexists, hexists]
      simp only [h]

theorem comma_mem_roleAuthority {role : String} : ',' ∈ (roleAuthority role).toList ↔ ',' ∈ role.toList := by
  by_cases h : IsMarked role
  · rw [roleAuthority_of_marked h]
  · rw [roleAuthority_of_not_marked h, String.toList_append, List.mem_append]
    exact or_iff_right (by decide)

/-- No role that is read of a list has a comma in it, so a name with commas does not stand for what is read of it. -/
theorem no_comma_of_same_authorities
    (h : ∀ authority, authority ∈ (rolesRead names).map roleAuthority ↔ authority ∈ names.map roleAuthority) :
    ∀ name ∈ names, ',' ∉ name.toList := by
  intro name hname hcomma
  obtain ⟨role, hrole, heq⟩ := List.mem_map.1 ((h (roleAuthority name)).2 (List.mem_map_of_mem hname))
  obtain ⟨listed, -, hread⟩ := List.mem_flatMap.1 hrole
  rw [← comma_mem_roleAuthority, ← heq, comma_mem_roleAuthority] at hcomma
  exact (Access.isArgument_of_mem_arguments hread).noComma hcomma

/-- The requirement that is read, if one is, is met by those who have one of the names as a role, and by nobody else. -/
def GrantsListed (x : α) (names : List String) : Prop :=
  ∀ access, readAccess x = .ok access → ∀ authentication, access.granted authentication = true ↔
    HasOneOf names authentication

/-- A list of names is read, unless nothing is left of the names, as a requirement that is met by those who have one of
the roles that are read of it. These are the names that are listed only if both stand for the same authorities: so it
is where all names are plain, and so it is never where one of them has a comma in it. -/
theorem keyed_list_granted (hne : names ≠ []) (hnames : ∀ name ∈ names, name ≠ "")
    (hx : Tree.settle x = some (keyed "has_any_role" names)) :
    (rolesRead names = [] →
      readAccess x = .error (.refused (SetupError.invalidAccess (callText "has_any_role" names)).message)) ∧
    (rolesRead names ≠ [] → ∃ access, readAccess x = .ok access ∧
      (∀ authentication, access.granted authentication = true ↔ HasOneOf (rolesRead names) authentication) ∧
      (GrantsListed x names ↔
        ∀ authority, authority ∈ (rolesRead names).map roleAuthority ↔ authority ∈ names.map roleAuthority) ∧
      (GrantsListed x names → ∀ name ∈ names, ',' ∉ name.toList)) ∧
    ((∀ name ∈ names, IsPlain name) → rolesRead names ≠ [] ∧ GrantsListed x names) := by
  have hread := readAccess_of_roles hx
  refine ⟨fun hroles => by rw [hread, if_pos hroles], fun hroles => ?_, fun hplain => ?_⟩
  · rw [if_neg hroles] at hread
    have hlisted : GrantsListed x names ↔
        ∀ authority, authority ∈ (rolesRead names).map roleAuthority ↔ authority ∈ names.map roleAuthority := by
      rw [← hasOneOf_congr_iff, GrantsListed, hread]
      simp [Access.granted_hasAnyRole_iff]
    exact ⟨_, hread, fun _ => Access.granted_hasAnyRole_iff, hlisted,
      fun h => no_comma_of_same_authorities (hlisted.1 h)⟩
  · rw [rolesRead_of_plain hnames hplain] at hread ⊢
    rw [if_neg hne] at hread
    refine ⟨hne, fun access haccess authentication => ?_⟩
    rw [hread] at haccess
    cases haccess
    exact Access.granted_hasAnyRole_iff

/-- Somebody with one authority. -/
def holder (authority : String) : Authentication :=
  ⟨"ann", [authority], true, .formLogin⟩

/-- A name with a comma in it is read as two roles: who has one of these passes, although it is not listed, and who has
the role that is listed does not. -/
theorem comma_splits_role :
    readAccess (keyed "has_any_role" ["USER,ADMIN"]) = .ok (.hasAnyRole ["USER", "ADMIN"]) ∧
    (Access.hasAnyRole ["USER", "ADMIN"]).granted (some (holder "ROLE_USER")) = true ∧
    ¬HasOneOf ["USER,ADMIN"] (some (holder "ROLE_USER")) ∧
    (Access.hasAnyRole ["USER", "ADMIN"]).granted (some (holder "ROLE_USER,ADMIN")) = false ∧
    HasOneOf ["USER,ADMIN"] (some (holder "ROLE_USER,ADMIN")) := by
  have hroles : rolesRead ["USER,ADMIN"] = ["USER", "ADMIN"] := by decide +kernel
  have hread := readAccess_of_roles (x := keyed "has_any_role" ["USER,ADMIN"]) rfl
  rw [hroles, if_neg (List.cons_ne_nil _ _)] at hread
  have hlisted (authority : String) : HasOneOf ["USER,ADMIN"] (some (holder authority)) ↔
      roleAuthority "USER,ADMIN" = authority := by
    simp [Access.hasOneOf_some_iff, holder, Authentication.isReal, Authentication.isAnonymous]
  rw [hlisted, hlisted]
  exact ⟨hread, by decide +kernel⟩

/-- Plain names are read as they stand, blanks within them included. -/
theorem plain_roles_granted : ["ROLE_USER", "SITE ADMIN"] ≠ [] ∧ (∀ name ∈ ["ROLE_USER", "SITE ADMIN"], name ≠ "") ∧
    Tree.settle (keyed "has_any_role" ["ROLE_USER", "SITE ADMIN"]) =
      some (keyed "has_any_role" ["ROLE_USER", "SITE ADMIN"]) ∧
    GrantsListed (keyed "has_any_role" ["ROLE_USER", "SITE ADMIN"]) ["ROLE_USER", "SITE ADMIN"] := by
  have hnames : ∀ name ∈ ["ROLE_USER", "SITE ADMIN"], name ≠ "" := by decide
  have hplain : ∀ name ∈ ["ROLE_USER", "SITE ADMIN"], IsPlain name := by
    have hchecks : ∀ name ∈ ["ROLE_USER", "SITE ADMIN"],
        ',' ∉ name.toList ∧ Text.trimmed name = name ∧ Access.unquoted name = name := by decide +kernel
    exact fun name hname => ⟨(hchecks name hname).1, (hchecks name hname).2.1, (hchecks name hname).2.2⟩
  have hsettle : Tree.settle (keyed "has_any_role" ["ROLE_USER", "SITE ADMIN"]) =
      some (keyed "has_any_role" ["ROLE_USER", "SITE ADMIN"]) := rfl
  obtain ⟨-, -, hgranted⟩ := keyed_list_granted (List.cons_ne_nil _ _) hnames hsettle
  exact ⟨List.cons_ne_nil _ _, hnames, hsettle, (hgranted hplain).2⟩

end Portcullis.Settings
