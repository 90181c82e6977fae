import Portcullis.Proofs.CommaList
import Portcullis.Settings.Security

/-!
# Access expressions, written and read again

An expression with arguments is read argument by argument: what counts are the parts between commas, without the blanks
and then the quotes at their ends, unless nothing is left of them (`Access.arguments_intercalate`). So an argument that
has been read holds no comma and has no quotes at its ends (`Access.IsArgument`), but it may have blanks there, if they
stood between quotes. Arguments are written without quotes, and then such blanks are lost.

* `Access.parse?_callText`: how a text of the form of a call is read.
* `Access.parse?_text_iff`: which requirements are read again as they have been written.
-/

namespace Portcullis.Access

open Settings (callText)

variable {s name : String} {args : List String} {access : Access}

/-! ## Calls -/

/-- The name and the arguments of a requirement that has arguments. -/
def call? : Access → Option (String × List String)
  | .hasRole role => some ("has_role", [role])
  | .hasAnyRole roles => some ("has_any_role", roles)
  | .hasAuthority authority => some ("has_authority", [authority])
  | _ => none

/-- The roles or the authority that a requirement names. -/
def named (access : Access) : List String :=
  (access.call?.map (·.2)).getD []

/-- A name with arguments stands for the requirement that has these, if there are any. -/
theorem ofCall?_eq_some_iff : ofCall? name args = some access ↔ access.call? = some (name, args) ∧ args ≠ [] := by
  constructor
  · intro h
    unfold ofCall? at h
    split at h <;> cases h <;> exact ⟨rfl, List.cons_ne_nil _ _⟩
  · rintro ⟨hcall, hargs⟩
    cases access with
    | hasRole role => cases hcall; rfl
    | hasAuthority authority => cases hcall; rfl
    | hasAnyRole roles =>
      cases hcall
      obtain ⟨role, roles, rfl⟩ := List.exists_cons_of_ne_nil hargs
      rfl
    | _ => cases hcall

/-- What is written for a requirement with arguments is its name and the list of these. -/
theorem text_eq_callText (h : access.call? = some (name, args)) : access.text = callText name args := by
  have hrole : "has_role(" = "has_role" ++ "(" := by decide
  have hany : "has_any_role(" = "has_any_role" ++ "(" := by decide
  have hauthority : "has_authority(" = "has_authority" ++ "(" := by decide
  cases access <;> cases h
  case hasRole =>
    rw [callText, String.intercalate_singleton, ← hrole]
    rfl
  case hasAnyRole =>
    rw [callText, ← hany]
    rfl
  case hasAuthority =>
    rw [callText, String.intercalate_singleton, ← hauthority]
    rfl

/-- A call is read as one, whatever its arguments are. -/
theorem parse?_callText (hparen : '(' ∉ name.toList) (hname : name ≠ "") (htrim : Text.trimmed name = name) :
    parse? (callText name args) = ofCall? name (arguments (", ".intercalate args).toList) := by
  generalize hbody : (", ".intercalate args).toList = body
  have hchars : (callText name args).toList = name.toList ++ '(' :: (body ++ [')']) := by
    simp only [callText, String.toList_append, hbody, List.append_assoc]
    rfl
  obtain ⟨first, rest, hfirst⟩ := List.exists_cons_of_ne_nil (mt String.toList_eq_nil_iff.1 hname)
  have hblank : Text.isBlank first = false := by
    rw [Text.trimmed_eq_self_iff, hfirst] at htrim
    exact Text.isBlank_of_trim_cons htrim
  have htext : Text.trim (callText name args).toList = (callText name args).toList := by
    have hends : first :: rest ++ '(' :: (body ++ [')']) = first :: ((rest ++ '(' :: body) ++ [')']) := by simp
    rw [hchars, hfirst, hends]
    exact Text.stripEnds_of_ends hblank (by decide)
  have hcall : parseCall? (callText name args).toList = ofCall? name (arguments body) := by
    rw [parseCall?, hchars, Text.cut_append hparen]
    simp only [Option.bind_eq_bind, Option.bind_some, List.getLast?_concat, List.dropLast_concat, if_true]
    exact congrArg (ofCall? · _) htrim
  have hmem : '(' ∈ (callText name args).toList := by simp [hchars]
  rw [parse?, htext, String.ofList_toList]
  split
  case h_5 => exact hcall
  all_goals
    rename_i hkeyword
    rw [hkeyword] at hmem
    exact absurd hmem (by decide)

/-! ## Arguments -/

/-- A text without the quotes around it. -/
def unquoted (s : String) : String :=
  String.ofList (Text.stripEnds isQuote s.toList)

/-- The arguments are the trimmed parts without their quotes. -/
theorem arguments_toList (s : String) : arguments s.toList = ((Text.commaParts s).map unquoted).filter (· != "") := by
  have hargument : argument = unquoted ∘ fun part => String.ofList (Text.trim part) := by
    funext cs
    rw [Function.comp_apply, unquoted, String.toList_ofList, argument]
  rw [arguments, Text.commaParts, List.map_map, hargument]

/-- The arguments that are read of a list are those that are read of its entries. -/
theorem arguments_intercalate (args : List String) :
    arguments (", ".intercalate args).toList = args.flatMap fun arg => arguments arg.toList := by
  by_cases h : args = []
  · have hnone : arguments [] = [] := by decide
    rw [h, String.intercalate_nil, List.flatMap_nil]
    exact hnone
  · rw [arguments_toList, Text.commaParts_intercalate h, List.map_flatMap, List.filter_flatMap]
    exact List.flatMap_congr fun arg _ => (arguments_toList arg).symm

/-- The text is what is left of an argument when it has been read. -/
structure IsArgument (s : String) : Prop where
  ne_empty : s ≠ ""
  noComma : ',' ∉ s.toList
  noQuotes : unquoted s = s

theorem isArgument_of_mem_arguments {cs : List Char} {arg : String} (h : arg ∈ arguments cs) : IsArgument arg := by
  rw [← String.toList_ofList (l := cs), arguments_toList, List.mem_filter, List.mem_map] at h
  obtain ⟨⟨part, hpart, rfl⟩, hne⟩ := h
  refine ⟨by simpa using hne, fun hcomma => ?_, ?_⟩
  · rw [unquoted, String.toList_ofList] at hcomma
    exact (Text.isPart_of_mem_commaParts hpart).noComma ((Text.stripEnds_sublist _ _).subset hcomma)
  · rw [unquoted, unquoted, String.toList_ofList, Text.stripEnds_stripEnds]

/-- An argument is read as one at most. -/
theorem IsArgument.arguments_eq (h : IsArgument s) :
    arguments s.toList = [unquoted (Text.trimmed s)].filter (· != "") := by
  rw [arguments_toList, Text.commaParts, List.splitOn_eq_singleton h.noComma]
  rfl

/-- An argument is read as itself exactly if it has no blanks at its ends. -/
theorem IsArgument.arguments_eq_singleton_iff (h : IsArgument s) : arguments s.toList = [s] ↔ Text.trimmed s = s := by
  rw [h.arguments_eq]
  constructor
  · intro hself
    have hmem : s ∈ [unquoted (Text.trimmed s)].filter (· != "") := by
      rw [hself]
      exact List.mem_singleton_self s
    have hs : s = unquoted (Text.trimmed s) := List.mem_singleton.1 (List.mem_of_mem_filter hmem)
    have hlength := congrArg (fun t => t.toList.length) hs
    simp only [unquoted, Text.trimmed, String.toList_ofList] at hlength
    have hquotes := (Text.stripEnds_sublist isQuote (Text.trim s.toList)).length_le
    rw [Text.trimmed_eq_self_iff]
    exact (Text.trim_sublist s.toList).eq_of_length_le (by omega)
  · intro htrim
    have hkept : (s != "") = true := by simpa using h.ne_empty
    rw [htrim, h.noQuotes]
    exact List.filter_cons_of_pos hkept

/-! ## Round trips -/

section

variable {α : Type} {f : α → List α} {xs : List α}

theorem length_flatMap_le (h : ∀ x ∈ xs, (f x).length ≤ 1) : (xs.flatMap f).length ≤ xs.length := by
  induction xs with
  | nil => exact Nat.le_refl _
  | cons x xs ih =>
    rw [List.forall_mem_cons] at h
    rw [List.flatMap_cons, List.length_append, List.length_cons, Nat.add_comm]
    exact Nat.add_le_add (ih h.2) h.1

/-- Where at most one entry is put in place of each, the list is left as it is exactly if each is replaced by itself. -/
theorem flatMap_eq_self_iff (h : ∀ x ∈ xs, (f x).length ≤ 1) : xs.flatMap f = xs ↔ ∀ x ∈ xs, f x = [x] := by
  induction xs with
  | nil => simp
  | cons x xs ih =>
    rw [List.forall_mem_cons] at h ⊢
    rw [List.flatMap_cons, ← ih h.2]
    constructor
    · intro hself
      have hlength := congrArg List.length hself
      have hrest := length_flatMap_le h.2
      rw [List.length_append, List.length_cons] at hlength
      obtain ⟨y, hy⟩ := List.length_eq_one_iff.1 (show (f x).length = 1 by omega)
      rw [hy, List.singleton_append] at hself
      obtain ⟨hfirst, hrest⟩ := List.cons.inj hself
      exact ⟨hy.trans (congrArg (fun y => [y]) hfirst), hrest⟩
    · rintro ⟨hx, hxs⟩
      rw [hx, hxs, List.singleton_append]

end

/-- What is read of an expression has no arguments, or arguments as they are read. -/
theorem call?_of_parse? (h : parse? s = some access) :
    access.call? = none ∨ ∃ name args, access.call? = some (name, args) ∧ args ≠ [] ∧ ∀ arg ∈ args, IsArgument arg := by
  rw [parse?] at h
  split at h
  case h_5 =>
    obtain ⟨⟨name, rest⟩, -, h⟩ := Option.bind_eq_some_iff.1 h
    dsimp only at h
    split at h
    · obtain ⟨hcall, hargs⟩ := ofCall?_eq_some_iff.1 h
      exact .inr ⟨_, _, hcall, hargs, fun arg => isArgument_of_mem_arguments⟩
    · cases h
  all_goals
    cases h
    exact .inl rfl

theorem parse?_text_of_no_call (h : access.call? = none) : parse? access.text = some access := by
  cases access
  case permitAll | denyAll | authenticated | anonymous => decide
  all_goals cases h

/-- The names under which requirements are written are read back. -/
theorem parse?_text_of_call (h : access.call? = some (name, args)) :
    parse? access.text = ofCall? name (args.flatMap fun arg => arguments arg.toList) := by
  have hname : '(' ∉ name.toList ∧ name ≠ "" ∧ Text.trimmed name = name := by
    cases access <;> cases h <;> decide
  rw [text_eq_callText h, parse?_callText hname.1 hname.2.1 hname.2.2, arguments_intercalate]

/-- A requirement that has been read of an expression is written in a way that is read as the same requirement exactly
if nothing that it names begins or ends with a blank. -/
theorem parse?_text_iff (h : parse? s = some access) :
    parse? access.text = some access ↔ ∀ arg ∈ access.named, Text.trimmed arg = arg := by
  rcases call?_of_parse? h with hcall | ⟨name, args, hcall, hne, hargs⟩
  · refine iff_of_true (parse?_text_of_no_call hcall) ?_
    simp [named, hcall]
  · have hlength : ∀ arg ∈ args, (arguments arg.toList).length ≤ 1 := fun arg harg => by
      rw [(hargs arg harg).arguments_eq]
      exact List.length_filter_le _ _
    have hnamed : access.named = args := by simp [named, hcall]
    calc parse? access.text = some access
        ↔ args.flatMap (fun arg => arguments arg.toList) = args := by
          rw [parse?_text_of_call hcall, ofCall?_eq_some_iff, hcall]
          simp only [Option.some.injEq, Prod.mk.injEq, true_and]
          exact ⟨fun h => h.1.symm, fun h => ⟨h.symm, h.symm ▸ hne⟩⟩
      _ ↔ ∀ arg ∈ args, arguments arg.toList = [arg] := flatMap_eq_self_iff hlength
      _ ↔ ∀ arg ∈ access.named, Text.trimmed arg = arg := by
          rw [hnamed]
          exact forall₂_congr fun arg harg => (hargs arg harg).arguments_eq_singleton_iff

/-- Blanks within quotes belong to a role; written without the quotes they are lost, and so may be the role. -/
theorem quoted_blanks_lost :
    parse? "has_role(' ADMIN ')" = some (.hasRole " ADMIN ") ∧
    parse? (Access.hasRole " ADMIN ").text = some (.hasRole "ADMIN") ∧
    parse? "has_role(' ')" = some (.hasRole " ") ∧ parse? (Access.hasRole " ").text = none := by
  decide +kernel

/-- Quotes and blanks around roles do not matter. -/
theorem roles_written_plainly :
    parse? " has_any_role( 'USER',\"SITE ADMIN\" ,) " = some (.hasAnyRole ["USER", "SITE ADMIN"]) ∧
    (Access.hasAnyRole ["USER", "SITE ADMIN"]).text = "has_any_role(USER, SITE ADMIN)" ∧
    parse? (Access.hasAnyRole ["USER", "SITE ADMIN"]).text = some (.hasAnyRole ["USER", "SITE ADMIN"]) := by
  have hread : parse? " has_any_role( 'USER',\"SITE ADMIN\" ,) " = some (.hasAnyRole ["USER", "SITE ADMIN"]) := by
    decide +kernel
  have hplain : ∀ arg ∈ (Access.hasAnyRole ["USER", "SITE ADMIN"]).named, Text.trimmed arg = arg := by decide +kernel
  exact ⟨hread, by decide +kernel, (parse?_text_iff hread).2 hplain⟩

end Portcullis.Access
