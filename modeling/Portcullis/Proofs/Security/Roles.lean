import Portcullis.Proofs.Pipeline.Login
import Portcullis.Security.Access

/-!
# Roles, from accounts to requirements

An account lists roles, a requirement names roles, and both may do so with or without the mark. The authorities of an
account and the check of a role mark every name that is not marked yet; so what counts of a name is the authority that
stands for it, and two names stand for the same one if they are equal but for the mark (`roleAuthority_eq_iff`).

* `Access.granted_hasAnyRole_iff`: a requirement of roles as a statement about authorities.
* `User.roles_granted`: which requirements of roles an account meets.
-/

namespace Portcullis

/-! ## Marks -/

/-- The role carries the mark. -/
def IsMarked (role : String) : Prop :=
  roleMark <+: role.toList

theorem roleAuthority_of_marked {role : String} (h : IsMarked role) : roleAuthority role = role :=
  if_pos (List.isPrefixOf_iff_prefix.2 h)

theorem roleAuthority_of_not_marked {role : String} (h : ¬IsMarked role) : roleAuthority role = "ROLE_" ++ role :=
  if_neg (mt List.isPrefixOf_iff_prefix.1 h)

theorem isMarked_append (role : String) : IsMarked ("ROLE_" ++ role) := by
  rw [IsMarked, String.toList_append]
  exact List.prefix_append _ _

/-- Two names stand for the same authority if they are equal, but for the mark that one of them may lack. -/
theorem roleAuthority_eq_iff {a b : String} : roleAuthority a = roleAuthority b ↔
    a = b ∨ (¬IsMarked a ∧ b = "ROLE_" ++ a) ∨ (¬IsMarked b ∧ a = "ROLE_" ++ b) := by
  by_cases ha : IsMarked a
  · by_cases hb : IsMarked b
    · simp [roleAuthority_of_marked, ha, hb]
    · have hne : a ≠ b := fun h => hb (h ▸ ha)
      simp [roleAuthority_of_marked ha, roleAuthority_of_not_marked hb, ha, hb, hne]
  · by_cases hb : IsMarked b
    · have hne : a ≠ b := fun h => ha (h ▸ hb)
      simp [roleAuthority_of_marked hb, roleAuthority_of_not_marked ha, ha, hb, hne, eq_comm]
    · have hleft : b ≠ "ROLE_" ++ a := fun h => hb (h ▸ isMarked_append a)
      have hright : a ≠ "ROLE_" ++ b := fun h => ha (h ▸ isMarked_append b)
      simp [roleAuthority_of_not_marked ha, roleAuthority_of_not_marked hb, hleft, hright]

/-! ## Requirements -/

namespace Access

variable {role : String} {roles : List String} {authentication : Option Authentication}

/-- The authentication names somebody who has one of the roles. -/
def HasOneOf (roles : List String) (authentication : Option Authentication) : Prop :=
  ∃ a, authentication = some a ∧ a.isReal = true ∧ ∃ role ∈ roles, a.hasRole role = true

/-- To have one of several roles is to have one of the authorities that stand for them. -/
theorem hasOneOf_some_iff {a : Authentication} : HasOneOf roles (some a) ↔
    a.isReal = true ∧ ∃ role ∈ roles, roleAuthority role ∈ a.authorities := by
  simp [HasOneOf, Authentication.hasRole_iff]

theorem granted_hasAnyRole_iff : (Access.hasAnyRole roles).granted authentication = true ↔
    HasOneOf roles authentication := by
  cases authentication with
  | none => simp [granted, HasOneOf]
  | some a =>
    by_cases hreal : a.isReal = true
    · simp [granted, HasOneOf, Option.filter, hreal]
    · simp [granted, HasOneOf, Option.filter, hreal]

/-- One role is demanded as a list of one is. -/
theorem granted_hasRole (role : String) (authentication : Option Authentication) :
    (Access.hasRole role).granted authentication = (Access.hasAnyRole [role]).granted authentication := by
  simp [granted]

end Access

/-! ## Accounts -/

namespace User

theorem isReal_authentication_iff (u : User) {kind : AuthenticationKind} :
    (u.authentication kind).isReal = true ↔ kind ≠ .anonymous := by
  refine ⟨?_, u.isReal_authentication⟩
  rintro hreal rfl
  cases hreal

theorem hasRole_authentication_iff (u : User) (kind : AuthenticationKind) (role : String) :
    (u.authentication kind).hasRole role = true ↔
      ∃ listed ∈ u.roles, roleAuthority listed = roleAuthority role := by
  rw [Authentication.hasRole_iff]
  exact List.mem_map

theorem hasOneOf_authentication_iff (u : User) (kind : AuthenticationKind) (roles : List String) :
    Access.HasOneOf roles (some (u.authentication kind)) ↔
      kind ≠ .anonymous ∧ ∃ role ∈ roles, ∃ listed ∈ u.roles, roleAuthority listed = roleAuthority role := by
  simp [Access.HasOneOf, isReal_authentication_iff, hasRole_authentication_iff]

/-- An account has the roles that it lists, and where it is not taken for nobody, it meets the requirements of these;
with or without the mark, on either side. -/
theorem roles_granted (u : User) (kind : AuthenticationKind) :
    (∀ role, (u.authentication kind).hasRole role = true ↔
      ∃ listed ∈ u.roles, roleAuthority listed = roleAuthority role) ∧
    (∀ role, (Access.hasRole role).granted (some (u.authentication kind)) = true ↔
      kind ≠ .anonymous ∧ ∃ listed ∈ u.roles, roleAuthority listed = roleAuthority role) ∧
    (∀ roles, (Access.hasAnyRole roles).granted (some (u.authentication kind)) = true ↔
      kind ≠ .anonymous ∧ ∃ role ∈ roles, ∃ listed ∈ u.roles, roleAuthority listed = roleAuthority role) ∧
    ∀ listed role, roleAuthority listed = roleAuthority role ↔
      listed = role ∨ (¬IsMarked listed ∧ role = "ROLE_" ++ listed) ∨ (¬IsMarked role ∧ listed = "ROLE_" ++ role) := by
  refine ⟨u.hasRole_authentication_iff kind, fun role => ?_, fun roles => ?_, fun _ _ => roleAuthority_eq_iff⟩
  · rw [Access.granted_hasRole, Access.granted_hasAnyRole_iff, hasOneOf_authentication_iff]
    simp
  · rw [Access.granted_hasAnyRole_iff, hasOneOf_authentication_iff]

/-- The mark may be left out where roles are listed and where one is named. -/
example : (authentication ⟨"ann", "secret", ["ROLE_ADMIN", "USER"], true⟩ .formLogin).hasRole "ADMIN" = true ∧
    (authentication ⟨"ann", "secret", ["ROLE_ADMIN", "USER"], true⟩ .formLogin).hasRole "ROLE_USER" = true := by
  decide +kernel

end User

end Portcullis
