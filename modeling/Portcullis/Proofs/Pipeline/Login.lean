import Portcullis.Guard.Basic
import Portcullis.Proofs.Steps

/-!
# Logins

What the credentials in a request are worth, apart from what is done about it. Both ways of logging in come down to one
question to the user accounts (`Users.admit?`), and whoever is admitted has given the exact password of an account that
is enabled (`Users.admit?_eq_some_iff`).
-/

namespace Portcullis

/-- The authentication that a name and a password earn, if they are given and accepted. -/
def Users.admit? (users : Users) (kind : AuthenticationKind) (credentials : Option (String × String)) :
    Option Authentication :=
  credentials.bind fun c => (users.authenticate c.1 c.2 kind).toOption

/-- The authentication of an account. -/
def User.authentication (u : User) (kind : AuthenticationKind) : Authentication :=
  ⟨u.username, u.authorities, true, kind⟩

theorem Users.username_of_find? {users : Users} {username : String} {u : User} (h : users.find? username = some u) :
    u.username = username := by
  simpa using List.find?_some h

theorem Users.authenticate_eq_ok_iff {users : Users} {username password : String} {kind : AuthenticationKind}
    {a : Authentication} : users.authenticate username password kind = .ok a ↔
      ∃ u, users.find? username = some u ∧ u.password = password ∧ u.enabled = true ∧ a = u.authentication kind := by
  unfold authenticate
  cases users.find? username with
  | none => simp
  | some u =>
    by_cases hpassword : u.password = password
    · cases henabled : u.enabled with
      | false => simp [hpassword, henabled]
      | true => simpa [hpassword, henabled, User.authentication] using eq_comm
    · simp [hpassword]

theorem Users.admit?_eq_some_iff {users : Users} {kind : AuthenticationKind} {credentials : Option (String × String)}
    {a : Authentication} : users.admit? kind credentials = some a ↔
      ∃ u, credentials = some (u.username, u.password) ∧ users.find? u.username = some u ∧ u.enabled = true ∧
        a = u.authentication kind := by
  constructor
  · intro h
    obtain ⟨⟨username, password⟩, rfl, ha⟩ := Option.bind_eq_some_iff.1 h
    rcases hok : users.authenticate username password kind with fault | b
    · simp [hok, Except.toOption] at ha
    · obtain ⟨u, hu, rfl, henabled, rfl⟩ := Users.authenticate_eq_ok_iff.1 hok
      obtain rfl := Users.username_of_find? hu
      simp only [hok, Except.toOption, Option.some.injEq] at ha
      exact ⟨u, rfl, hu, henabled, ha.symm⟩
  · rintro ⟨u, rfl, hu, henabled, rfl⟩
    have hok : users.authenticate u.username u.password kind = .ok (u.authentication kind) :=
      Users.authenticate_eq_ok_iff.2 ⟨u, hu, rfl, henabled, rfl⟩
    simp [admit?, hok, Except.toOption]

/-- Only real authentications are earned, unless they are asked for as anonymous. -/
theorem User.isReal_authentication (u : User) {kind : AuthenticationKind} (h : kind ≠ .anonymous) :
    (u.authentication kind).isReal = true := by
  cases kind <;> simp_all [authentication, Authentication.isReal, Authentication.isAnonymous]

/-! ## The two ways of logging in -/

section

variable {σ : Type}

/-- What a request's basic credentials are worth: none if it announces none, else the authentication they earn. -/
def HttpBasic.verdict (users : Users) (r : Request) : Option (Option Authentication) :=
  ((r.header? "authorization").filter HttpBasic.isAnnounced).map fun header =>
    users.admit? .httpBasic (HttpBasic.credentials? header)

/-- The authentication that a submitted form earns. -/
def FormLogin.verdict (f : FormLogin) (users : Users) (r : Request) : Option Authentication :=
  users.admit? .formLogin (f.credentials? (r.body.getD ""))

theorem HttpBasic.run_eq (realm : String) (users : Users) (rest : Ahead σ) (p : Passage σ) :
    HttpBasic.run realm users rest p = match HttpBasic.verdict users p.exchange.request with
      | none => rest.run p
      | some none => (.ok (HttpBasic.challenge realm), p)
      | some (some a) => rest.run { p with exchange := p.exchange.authenticate a } := by
  simp only [HttpBasic.run, Steps.bind_apply, Flow.request, HttpBasic.verdict]
  cases p.exchange.request.header? "authorization" with
  | none => rfl
  | some header =>
    cases hannounced : HttpBasic.isAnnounced header with
    | false => simp [Option.filter_some, hannounced]
    | true =>
      simp only [Option.filter_some, hannounced, if_true, Option.map_some, HttpBasic.check]
      rcases HttpBasic.credentials? header with _ | ⟨username, password⟩
      · rfl
      · cases hresult : users.authenticate username password .httpBasic with
        | error fault => simp [Users.admit?, hresult, Except.toOption]
        | ok a => simp [Users.admit?, hresult, Except.toOption, Flow.update]

theorem FormLogin.submit_eq (f : FormLogin) (users : Users) (r : Request) :
    (f.submit users r : Flow σ Response) = match f.verdict users r with
      | none => pure (.redirect f.failureUrl)
      | some a => f.succeed a := by
  simp only [FormLogin.submit, FormLogin.verdict]
  rcases f.credentials? (r.body.getD "") with _ | ⟨username, password⟩
  · rfl
  · cases hresult : users.authenticate username password .formLogin with
    | error fault => simp [Users.admit?, hresult, Except.toOption]
    | ok a => simp [Users.admit?, hresult, Except.toOption]

end

end Portcullis
