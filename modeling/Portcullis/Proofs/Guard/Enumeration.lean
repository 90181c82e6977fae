import Mathlib.Data.List.Forall2
import Portcullis.Proofs.Guard.CatchAll
import Portcullis.Proofs.Guard.Provenance

/-!
# Accounts cannot be enumerated

Two guards are built from the same blueprints, over accounts that differ as they like. A request whose credentials earn
nothing on either side is answered by both alike, whatever is wrong with the credentials: for what a stage does depends
on the accounts only through what credentials earn (`Stage.transit_same`), and the request stays the one that came in.

* `Blueprint.exists_build_same`: the chains that are built have the same stages, but for the accounts.
* `Pipeline.run_same`: what such stages do.
* `Guard.accounts_not_enumerable`: what guards answer.
-/

namespace Portcullis

variable {σ : Type} {one other : Users} {r : Request}

/-! ## Stages that differ in accounts -/

/-- The stages are the same, but that the second may check credentials against `other` where the first checks them
against `one`. -/
inductive Stage.SameBut (one other : Users) : Stage σ → Stage σ → Prop
  | refl (stage : Stage σ) : SameBut one other stage stage
  | formLogin (settings : FormLogin) : SameBut one other (.formLogin settings one) (.formLogin settings other)
  | httpBasic (realm : String) : SameBut one other (.httpBasic realm one) (.httpBasic realm other)
  | entered (note : σ → σ) {inner inner' : Stage σ} (h : SameBut one other inner inner') :
    SameBut one other (.entered note inner) (.entered note inner')

/-- The accounts accept nothing that the request brings along for the stage. -/
def Users.Reject (users : Users) (r : Request) (stage : Stage σ) : Prop :=
  ∀ username password kind, stage.Takes r username password kind →
    ∀ a, users.authenticate username password kind ≠ .ok a

theorem Users.admit?_eq_none {users : Users} {kind : AuthenticationKind} {credentials : Option (String × String)}
    (h : ∀ c, credentials = some c → ∀ a, users.authenticate c.1 c.2 kind ≠ .ok a) :
    users.admit? kind credentials = none := by
  cases credentials with
  | none => rfl
  | some c =>
    rw [admit?, Option.bind_some]
    cases hresult : users.authenticate c.1 c.2 kind with
    | error fault => rfl
    | ok a => exact absurd hresult (h c rfl a)

theorem Users.Reject.formLogin {users accounts : Users} {f : FormLogin}
    (h : users.Reject r (.formLogin f accounts : Stage σ)) (hform : f.isSubmission r = true) :
    f.verdict users r = none :=
  admit?_eq_none fun c hc => h c.1 c.2 .formLogin (.form hform hc)

theorem Users.Reject.httpBasic {users accounts : Users} {realm : String}
    (h : users.Reject r (.httpBasic realm accounts : Stage σ)) :
    HttpBasic.verdict users r = ((r.header? "authorization").filter HttpBasic.isAnnounced).map fun _ => none := by
  rw [HttpBasic.verdict]
  cases hheader : (r.header? "authorization").filter HttpBasic.isAnnounced with
  | none => rfl
  | some header =>
    obtain ⟨hheader, hannounced⟩ := Option.filter_eq_some_iff.1 hheader
    refine congrArg some (admit?_eq_none fun c hc => ?_)
    exact h c.1 c.2 .httpBasic (.basic hheader hannounced hc)

section Runs

variable [Clocked σ]

/-- Where the credentials earn nothing on either side, the stages do the same. -/
theorem Stage.transit_same {stage stage' : Stage σ} (h : stage.SameBut one other stage') (hone : one.Reject r stage)
    (hother : other.Reject r stage) (n : Nat) {p : Passage σ} (hp : p.exchange.request = r) :
    stage.transit n p = stage'.transit n p := by
  induction h generalizing p with
  | refl stage => rfl
  | formLogin settings =>
    rw [transit, transit, hp]
    cases hform : settings.isSubmission r with
    | false => rfl
    | true => rw [hone.formLogin hform, hother.formLogin hform]
  | httpBasic realm => rw [transit, transit, hp, hone.httpBasic, hother.httpBasic]
  | entered note h ih =>
    exact ih (fun username password kind htakes => hone username password kind (.entered htakes))
      (fun username password kind htakes => hother username password kind (.entered htakes)) hp

/-- The handler works on the request that it has got. -/
def Flow.KeepsRequest (handler : Flow σ Response) : Prop :=
  ∀ r p, p.About r → (handler p).2.About r

omit [Clocked σ] in
/-- Every program does. -/
theorem Program.handle_keepsRequest (code : Program σ) : Flow.KeepsRequest code.handle := by
  intro r p hp
  have hnothing (q : Passage σ) (hq : q.About r) : (nothingAhead.run q).2.About r := hq
  rw [handle, ← code.run_transit]
  exact (code.keeps_about _ hp).run hnothing

/-- Stages that are the same but for the accounts lead a request whose credentials earn nothing to the same end. -/
theorem Pipeline.run_same {handler : Flow σ Response} (hhandler : handler.KeepsRequest)
    {stages stages' : List (Stage σ)} (h : List.Forall₂ (Stage.SameBut one other) stages stages')
    (hkeeps : ∀ stage ∈ stages, stage.KeepsRequest) (hone : ∀ stage ∈ stages, one.Reject r stage)
    (hother : ∀ stage ∈ stages, other.Reject r stage) {p : Passage σ} (hp : p.About r) :
    Pipeline.run handler stages p = Pipeline.run handler stages' p ∧ (Pipeline.run handler stages p).2.About r := by
  induction h generalizing p with
  | nil => exact ⟨rfl, hhandler r p hp⟩
  | @cons stage stage' rest rest' hstage hrest ih =>
    rw [List.forall_mem_cons] at hkeeps hone hother
    have hsame (q : Passage σ) (hq : q.About r) := ih hkeeps.2 hone.2 hother.2 hq
    have hkept : (stage.transit rest.length p).Keeps (Passage.About r) := Stage.keeps_about hkeeps.1 _ p hp
    have hasked := hkept.of_mem_asked fun q hq => (hsame q hq).2
    have hrun : (stage.transit rest.length p).run (Pipeline.run handler rest) =
        (stage'.transit rest'.length p).run (Pipeline.run handler rest') := by
      rw [Transit.run_congr fun q hq => (hsame q (hasked q hq)).1, hrest.length_eq,
        Stage.transit_same hstage hone.1 hother.1 _ hp.request]
    rw [Pipeline.run, Pipeline.run, ← Stage.run_transit, ← Stage.run_transit]
    exact ⟨hrun, hkept.run fun q hq => (hsame q hq).2⟩

end Runs

/-! ## Chains -/

/-- With these accounts. -/
def Shared.withUsers (shared : Shared σ) (users : Users) : Shared σ :=
  { shared with users := some users }

/-- The chains are the same, but for the accounts. -/
structure Chain.SameBut (one other : Users) (c c' : Chain σ) : Prop where
  matcher : c'.matcher = c.matcher
  cookieName : c'.cookieName = c.cookieName
  stages : List.Forall₂ (Stage.SameBut one other) c.stages c'.stages

/-- The plan, with other accounts. -/
def Plan.withUsers (plan : Plan σ) (users : Users) : Plan σ :=
  { plan with
    formLogin := plan.formLogin.map fun f => (f.1, users)
    httpBasic := plan.httpBasic.map fun h => (h.1, users) }

/-- What the host has asked for leaves requests as they are, and its wrappers do not look at accounts. -/
structure Blueprint.Blind (one other : Users) (b : Blueprint σ) : Prop where
  repository : ∀ repository, b.context.repository = some repository → repository.KeepsRequest
  added : ∀ entry ∈ b.added, entry.2.KeepsRequest
  keeps : ∀ wrapper ∈ b.wrappers, ∀ stage, stage.KeepsRequest → (wrapper stage).KeepsRequest
  wrappers : ∀ wrapper ∈ b.wrappers, ∀ stage stage' : Stage σ, stage.SameBut one other stage' →
    (wrapper stage).SameBut one other (wrapper stage')

namespace Blueprint

variable {b : Blueprint σ} {shared : Shared σ}

theorem Plain.blind (h : b.Plain) (hr : b.context.repository = none) : b.Blind one other where
  repository r h' := by simp [hr] at h'
  added := by simp [h.added]
  keeps := by simp [h.wrappers]
  wrappers := by simp [h.wrappers]

/-- What is looked up is the same, but for the accounts. -/
theorem plan_withUsers (b : Blueprint σ) (shared : Shared σ) (one other : Users) :
    b.plan (shared.withUsers other) = (·.withUsers other) <$> b.plan (shared.withUsers one) := by
  have hsource (c : CorsSettings) : corsSource c (shared.withUsers other) = corsSource c (shared.withUsers one) := rfl
  have husers (users : Users) (stage : String) : usersFor (shared.withUsers users) stage = .ok users := rfl
  simp only [plan, husers, hsource]
  cases (b.cors.filter (!·.disabled)).mapM fun c => do return (← corsSource c (shared.withUsers one), c.reject) with
  | error e => rfl
  | ok cors =>
    cases b.formLogin <;> cases b.httpBasic <;>
      cases b.rules.mapM fun rules => do return (← rules.mapM readRule, b.entryPoint) <;> rfl

/-- Sorting does not tell lists apart whose entries, one by one, compare alike. -/
theorem mergeSort_forall₂ {α : Type} {R : α → α → Prop} {le : α → α → Bool}
    (hle : ∀ a a' b b', R a a' → R b b' → le a b = le a' b') {l l' : List α} (h : List.Forall₂ R l l') :
    List.Forall₂ R (l.mergeSort le) (l'.mergeSort le) := by
  obtain ⟨hlength, hzip⟩ := List.forall₂_iff_zip.1 h
  have hpair : ∀ z ∈ l.zip l', R z.1 z.2 := fun z hz => hzip hz
  -- sorted as pairs, by what stands on the left
  have hleft : ((l.zip l').mergeSort fun x y => le x.1 y.1).map Prod.fst = l.mergeSort le := by
    rw [List.map_mergeSort (s := le) fun _ _ _ _ => rfl, List.map_fst_zip hlength.le]
  have hright : ((l.zip l').mergeSort fun x y => le x.1 y.1).map Prod.snd = l'.mergeSort le := by
    rw [List.map_mergeSort fun x hx y hy => hle _ _ _ _ (hpair x hx) (hpair y hy), List.map_snd_zip hlength.ge]
  rw [← hleft, ← hright, List.forall₂_map_left_iff, List.forall₂_map_right_iff, List.forall₂_same]
  exact fun z hz => hpair z (List.mem_mergeSort.1 hz)

/-- At the same place, the same stage but for the accounts. -/
def SameEntry (one other : Users) (entry entry' : Int × Stage σ) : Prop :=
  entry'.1 = entry.1 ∧ entry.2.SameBut one other entry'.2

theorem sameEntry_refl (entry : Int × Stage σ) : SameEntry one other entry entry :=
  ⟨rfl, .refl _⟩

/-- The plan with other accounts has the same stages but for the accounts. -/
theorem placed_withUsers {plan : Plan σ} (hform : ∀ f, plan.formLogin = some f → f.2 = one)
    (hbasic : ∀ h, plan.httpBasic = some h → h.2 = one) :
    List.Forall₂ (SameEntry one other) plan.placed (plan.withUsers other).placed := by
  have hsame (l : List (Int × Stage σ)) : List.Forall₂ (SameEntry one other) l l :=
    List.forall₂_same.2 fun entry _ => sameEntry_refl entry
  refine List.rel_append (hsame _) (List.rel_append (hsame _) (List.rel_append ?_ (List.rel_append ?_ (hsame _))))
  · rw [Plan.withUsers]
    cases hf : plan.formLogin with
    | none => exact .nil
    | some f =>
      obtain ⟨f, users⟩ := f
      obtain rfl : users = one := hform _ hf
      exact .cons ⟨rfl, .formLogin f⟩ .nil
  · rw [Plan.withUsers]
    cases hh : plan.httpBasic with
    | none => exact .nil
    | some h =>
      obtain ⟨realm, users⟩ := h
      obtain rfl : users = one := hbasic _ hh
      exact .cons ⟨rfl, .httpBasic realm⟩ .nil

/-- Wrappers that do not look at accounts wrap the same stages into the same. -/
theorem Blind.wrapStage (hb : b.Blind one other) {stage stage' : Stage σ} (h : stage.SameBut one other stage') :
    (b.wrapStage stage).SameBut one other (b.wrapStage stage') := by
  have hwrappers := hb.wrappers
  unfold Blueprint.wrapStage
  generalize b.wrappers = wrappers at hwrappers
  induction wrappers generalizing stage stage' with
  | nil => exact h
  | cons wrapper rest ih =>
    rw [List.forall_mem_cons] at hwrappers
    exact ih (hwrappers.1 _ _ h) hwrappers.2

/-- With other accounts the blueprint is built as well, into the same chain but for the accounts. -/
theorem exists_build_same (hb : b.Blind one other) {c : Chain σ} (h : b.build (shared.withUsers one) = .ok c) :
    ∃ c', b.build (shared.withUsers other) = .ok c' ∧ c.SameBut one other c' := by
  obtain ⟨matcher, plan, hmatcher, hplan, rfl⟩ := exists_plan_sorted h
  have hplan' : b.plan (shared.withUsers other) = .ok (plan.withUsers other) := by
    rw [b.plan_withUsers shared one other, hplan]
    rfl
  have hfound := found_of_plan hplan
  have hplaced : List.Forall₂ (SameEntry one other) plan.placed (plan.withUsers other).placed :=
    placed_withUsers (fun f hf => (Option.some.inj (hfound.formLogin f.1 f.2 hf)).symm)
      fun basic hbasic => (Option.some.inj (hfound.httpBasic basic.1 basic.2 hbasic)).symm
  have hentries := List.rel_append hplaced (List.forall₂_same.2 fun entry (_ : entry ∈ b.added) => sameEntry_refl entry)
  have hsorted : List.Forall₂ (SameEntry one other) (b.sorted plan) (b.sorted (plan.withUsers other)) :=
    mergeSort_forall₂ (fun _ _ _ _ h h' => by rw [h.1, h'.1]) hentries
  have hbuild : b.build (shared.withUsers other) =
      .ok ⟨matcher, (b.sorted (plan.withUsers other)).map (b.wrapStage ·.2), b.session.cookieName⟩ := by
    rw [build_sorted, hmatcher, hplan']
    rfl
  refine ⟨_, hbuild, rfl, rfl, ?_⟩
  rw [List.forall₂_map_left_iff, List.forall₂_map_right_iff]
  exact hsorted.imp fun _ _ hentry => hb.wrapStage hentry.2

/-- The stages of the chain leave the request as it is. -/
theorem Blind.keepsRequest (hb : b.Blind one other) {c : Chain σ} (h : b.build shared = .ok c) :
    ∀ stage ∈ c.stages, stage.KeepsRequest :=
  forall_mem_stages hb.keeps hb.added (fun _ hfound => keepsRequest_of_plan hb.repository hfound) h

/-- All the blueprints of a guard are built with other accounts as well. -/
theorem exists_builds_same {bs : List (Blueprint σ)} (hbs : ∀ b ∈ bs, b.Blind one other) {cs : List (Chain σ)}
    (h : List.Forall₂ (fun b c => b.build (shared.withUsers one) = .ok c) bs cs) :
    ∃ cs', List.Forall₂ (fun b c => b.build (shared.withUsers other) = .ok c) bs cs' ∧
      List.Forall₂ (Chain.SameBut one other) cs cs' ∧ ∀ c ∈ cs, ∀ stage ∈ c.stages, stage.KeepsRequest := by
  induction h with
  | nil => exact ⟨[], .nil, .nil, nofun⟩
  | @cons b c bs cs hbuild hrest ih =>
    rw [List.forall_mem_cons] at hbs
    obtain ⟨c', hbuild', hsame⟩ := exists_build_same hbs.1 hbuild
    obtain ⟨cs', hbuilds', hsames, hkeeps⟩ := ih hbs.2
    exact ⟨c' :: cs', .cons hbuild' hbuilds', .cons hsame hsames,
      List.forall_mem_cons.2 ⟨hbs.1.keepsRequest hbuild, hkeeps⟩⟩

end Blueprint

/-! ## Guards -/

namespace Guard

variable {bs : List (Blueprint σ)} {cs cs' : List (Chain σ)}

/-- A request goes through chains of both guards that are the same but for the accounts, or through none. -/
theorem chainFor?_same (h : List.Forall₂ (Chain.SameBut one other) cs cs') (path : String) :
    Option.Rel (Chain.SameBut one other) ((⟨cs⟩ : Guard σ).chainFor? path) ((⟨cs'⟩ : Guard σ).chainFor? path) := by
  rw [chainFor?, chainFor?]
  induction h with
  | nil => exact .none
  | @cons c c' cs cs' hsame hrest ih =>
    rw [List.find?_cons, List.find?_cons, hsame.matcher]
    cases c.matcher.covers path with
    | true => exact .some hsame
    | false => exact ih

theorem enter_same (h : List.Forall₂ (Chain.SameBut one other) cs cs') (r : Request) (d : Desk σ) :
    (⟨cs'⟩ : Guard σ).enter r d = (⟨cs⟩ : Guard σ).enter r d := by
  have hcookie : ((⟨cs'⟩ : Guard σ).chainFor? r.path).map (·.cookieName) =
      ((⟨cs⟩ : Guard σ).chainFor? r.path).map (·.cookieName) := by
    have hchain := chainFor?_same h r.path
    generalize (⟨cs⟩ : Guard σ).chainFor? r.path = chain, (⟨cs'⟩ : Guard σ).chainFor? r.path = chain' at hchain
    cases hchain with
    | none => rfl
    | some hsame => exact congrArg some hsame.cookieName
  rw [enter, enter, newExchange, newExchange, hcookie]

theorem stagesFor_same (h : List.Forall₂ (Chain.SameBut one other) cs cs') (path : String) :
    List.Forall₂ (Stage.SameBut one other) ((⟨cs⟩ : Guard σ).stagesFor path) ((⟨cs'⟩ : Guard σ).stagesFor path) := by
  rw [stagesFor, stagesFor]
  have hchain := chainFor?_same h path
  generalize (⟨cs⟩ : Guard σ).chainFor? path = chain, (⟨cs'⟩ : Guard σ).chainFor? path = chain' at hchain
  cases hchain with
  | none => exact .nil
  | some hsame => exact hsame.stages

variable [Clocked σ]

theorem runRequest_same (h : List.Forall₂ (Chain.SameBut one other) cs cs')
    (hkeeps : ∀ c ∈ cs, ∀ stage ∈ c.stages, stage.KeepsRequest) {handler : Flow σ Response}
    (hhandler : handler.KeepsRequest) (hreject : ∀ c, (⟨cs⟩ : Guard σ).chainFor? r.path = some c →
      ∀ stage ∈ c.stages, one.Reject r stage ∧ other.Reject r stage) (d : Desk σ) :
    (⟨cs'⟩ : Guard σ).runRequest handler r d = (⟨cs⟩ : Guard σ).runRequest handler r d := by
  have hstages : ∀ stage ∈ (⟨cs⟩ : Guard σ).stagesFor r.path,
      stage.KeepsRequest ∧ one.Reject r stage ∧ other.Reject r stage := by
    intro stage hstage
    obtain ⟨c, hchain, hmem⟩ := mem_stagesFor.1 hstage
    exact ⟨hkeeps c (List.mem_of_find?_eq_some hchain) stage hmem, hreject c hchain stage hmem⟩
  have hrun := (Pipeline.run_same hhandler (stagesFor_same h r.path) (fun stage hstage => (hstages stage hstage).1)
    (fun stage hstage => (hstages stage hstage).2.1) (fun stage hstage => (hstages stage hstage).2.2)
    ((⟨cs⟩ : Guard σ).about_enter r d)).1
  rw [runRequest_eq, runRequest_eq, enter_same h, hrun]

/-- A guard answers a request whose credentials earn nothing, be it that there is no such account, that the password is
wrong or that the account is disabled, in the same way whatever accounts there are, and does the same behind it. -/
theorem accounts_not_enumerable {shared : Shared σ} (hblind : ∀ b ∈ bs, b.Blind one other)
    (hbuild : List.Forall₂ (fun b c => b.build (shared.withUsers one) = .ok c) bs cs) :
    ∃ cs', List.Forall₂ (fun b c => b.build (shared.withUsers other) = .ok c) bs cs' ∧
      ∀ (r : Request) (handler : Flow σ Response) (d : Desk σ), handler.KeepsRequest →
        (∀ c, (⟨cs⟩ : Guard σ).chainFor? r.path = some c →
          ∀ stage ∈ c.stages, one.Reject r stage ∧ other.Reject r stage) →
        (⟨cs'⟩ : Guard σ).serve handler r d = (⟨cs⟩ : Guard σ).serve handler r d ∧
          (⟨cs'⟩ : Guard σ).handle handler r d = (⟨cs⟩ : Guard σ).handle handler r d := by
  obtain ⟨cs', hbuild', hsame, hkeeps⟩ := Blueprint.exists_builds_same hblind hbuild
  refine ⟨cs', hbuild', fun r handler d hhandler hreject => ?_⟩
  have hrun := runRequest_same hsame hkeeps hhandler hreject d
  rw [serve, serve, handle, handle, hrun]
  exact ⟨rfl, rfl⟩

/-! ## A guess -/

/-- Form login and basic authentication. -/
def bothLogins : Blueprint Sessions where
  formLogin := some {}
  httpBasic := some "Realm"

/-- Over the sessions in memory, with no accounts yet. -/
def inMemory : Shared Sessions where
  store := Sessions.store

/-- A chain with both kinds of login, over the accounts. -/
def bothLoginsChain (users : Users) : Chain Sessions where
  matcher := ⟨"/**", [.anyDepth]⟩
  stages := [.autoSave (.inSession Sessions.store true false), .formLogin {} users, .httpBasic "Realm" users,
    .anonymous]
  cookieName := "SESSION"

theorem build_bothLogins (users : Users) :
    bothLogins.build (inMemory.withUsers users) = .ok (bothLoginsChain users) := by
  rw [Blueprint.build_eq ⟨rfl, rfl⟩]
  rfl

/-- The password `guess` of `ann`, in the login form and in the header for basic authentication. -/
def guessTwice : Request where
  method := .post
  path := "/login"
  headers := [("authorization", "Basic YW5uOmd1ZXNz")]
  body := some "username=ann&password=guess"

theorem reject_guessTwice {users : Users} {fault : CredentialFault}
    (h : ∀ kind, users.authenticate "ann" "guess" kind = .error fault) {accounts : Users} :
    ∀ stage ∈ (bothLoginsChain accounts).stages, users.Reject guessTwice stage := by
  have hform : ({} : FormLogin).credentials? (guessTwice.body.getD "") = some ("ann", "guess") := by decide +kernel
  have hbasic : HttpBasic.credentials? "Basic YW5uOmd1ZXNz" = some ("ann", "guess") := by decide +kernel
  have hheader' : guessTwice.header? "authorization" = some "Basic YW5uOmd1ZXNz" := by decide +kernel
  intro stage hstage username password kind htakes a hadmitted
  simp only [bothLoginsChain, List.mem_cons, List.not_mem_nil, or_false] at hstage
  rcases hstage with rfl | rfl | rfl | rfl
  · nomatch htakes
  · cases htakes with
    | form _ hbody =>
      rw [hform] at hbody
      cases hbody
      cases (h _).symm.trans hadmitted
  · cases htakes with
    | basic hheader _ hcode =>
      rw [hheader'] at hheader
      cases hheader
      rw [hbasic] at hcode
      cases hcode
      cases (h _).symm.trans hadmitted
  · nomatch htakes

/-- The account of `ann`, who may log in or may not. -/
def onlyAnn (password : String) (enabled : Bool) : Users :=
  ⟨[{ username := "ann", password, enabled }]⟩

/-- A guess at the password of an account is answered like the password of an account that is disabled. -/
theorem wrong_password_like_disabled :
    (⟨[bothLoginsChain (onlyAnn "guess" false)]⟩ : Guard Sessions).serve Flow.allRight guessTwice newDesk =
      (⟨[bothLoginsChain (onlyAnn "secret" true)]⟩ : Guard Sessions).serve Flow.allRight guessTwice newDesk := by
  have hblind : ∀ b ∈ [bothLogins], b.Blind (onlyAnn "secret" true) (onlyAnn "guess" false) :=
    List.forall_mem_singleton.2 (Blueprint.Plain.blind ⟨rfl, rfl⟩ rfl)
  obtain ⟨cs', hbuild', hsame⟩ := accounts_not_enumerable hblind (.cons (build_bothLogins _) .nil)
  obtain ⟨c', _, hc', hnil, rfl⟩ := List.forall₂_cons_left_iff.1 hbuild'
  obtain rfl := List.forall₂_nil_left_iff.1 hnil
  obtain rfl := Except.ok.inj ((build_bothLogins _).symm.trans hc')
  refine (hsame guessTwice Flow.allRight newDesk (fun _ _ hp => hp) fun c hc => ?_).1
  obtain rfl : bothLoginsChain (onlyAnn "secret" true) = c := Option.some.inj hc
  have hwrong (kind : AuthenticationKind) :
      (onlyAnn "secret" true).authenticate "ann" "guess" kind = .error .badCredentials := rfl
  have hdisabled (kind : AuthenticationKind) :
      (onlyAnn "guess" false).authenticate "ann" "guess" kind = .error .disabled := rfl
  exact fun stage hstage => ⟨reject_guessTwice hwrong stage hstage, reject_guessTwice hdisabled stage hstage⟩

end Guard

end Portcullis
