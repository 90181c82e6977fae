import Portcullis.Proofs.Codec.Base64
import Portcullis.Proofs.Codec.Utf8
import Portcullis.Proofs.Pipeline.Effects
import Portcullis.Proofs.Pipeline.Login
import Portcullis.Proofs.Text

/-!
# Credentials in a header

A header holds a name and a password exactly if it says `Basic`, in any letter case, and then their written form
(`HttpBasic.credentials?_eq_some_iff`). Whether the scheme is `Basic` is looked at twice, once at the start of the
header and once after it has been trimmed and cut; whatever is read has been announced
(`HttpBasic.isAnnounced_of_carries`).

* `HttpBasic.Written`: headers as clients write them.
* `HttpBasic.run_of_credentials`, `HttpBasic.run_of_no_credentials`: what the stage makes of headers.
* `HttpBasic.basic_credentials_round_trip`: what is written is what is read, and is checked.
-/

namespace Portcullis.HttpBasic

/-- The written form of a name and a password: the two around a colon, in UTF-8 and base 64. -/
def written (username password : String) : List Char :=
  Base64.encode (Utf8.encode (username.toList ++ ':' :: password.toList))

/-- The text is `Basic`, up to the case of its letters. -/
def IsScheme (scheme : List Char) : Prop :=
  scheme.map Char.toLower = "basic".toList

/-- Without the white space around it, the header is a scheme, a space and, with white space around it or not, the
written form of the name and the password. -/
def Carries (header username password : String) : Prop :=
  ∃ scheme text, Text.trim header.toList = scheme ++ ' ' :: text ∧ IsScheme scheme ∧
    Text.trim text = written username password

/-- A header as clients write it: the scheme, one or more spaces, the written form, and white space around it all. -/
def Written (header username password : String) : Prop :=
  ∃ before scheme after : List Char, ∃ more : Nat,
    header.toList = before ++ (scheme ++ ' ' :: (List.replicate more ' ' ++ written username password) ++ after) ∧
      IsScheme scheme ∧ (∀ c ∈ before, Text.isBlank c = true) ∧ ∀ c ∈ after, Text.isBlank c = true

variable {header username password : String} {scheme : List Char}

/-! ## What is written -/

theorem written_ne_nil (username password : String) : written username password ≠ [] := by
  intro h
  have hbytes := Base64.encode_injective (show _ = Base64.encode [] from h)
  have htext := Utf8.encode_injective (show _ = Utf8.encode [] from hbytes)
  simp at htext

theorem not_isBlank_of_isScheme (h : IsScheme scheme) : ∀ c ∈ scheme, Text.isBlank c = false := by
  intro c hc
  have hlower : c.toLower ∈ "basic".toList := h ▸ List.mem_map_of_mem hc
  rw [← Text.isBlank_toLower]
  have hall : ("basic".toList.all fun d => !Text.isBlank d) = true := by decide
  simpa using List.all_eq_true.1 hall _ hlower

theorem space_not_mem_of_isScheme (h : IsScheme scheme) : ' ' ∉ scheme :=
  fun hspace => absurd (not_isBlank_of_isScheme h ' ' hspace) (by decide)

/-- There is nothing to trim at a scheme's start and at the written form's end. -/
theorem trim_of_isScheme (h : IsScheme scheme) (between : List Char) (username password : String) :
    Text.trim (scheme ++ (between ++ written username password)) =
      scheme ++ (between ++ written username password) := by
  have hne : scheme ≠ [] := by
    rintro rfl
    exact absurd (show [] = "basic".toList from h) (by decide)
  obtain ⟨first, scheme', rfl⟩ := List.exists_cons_of_ne_nil hne
  obtain ⟨code, last, hlast⟩ := (List.eq_nil_or_concat (written username password)).resolve_left (written_ne_nil _ _)
  have hmem : last ∈ written username password := by simp [hlast]
  rw [hlast, List.concat_eq_append, List.cons_append, ← List.append_assoc, ← List.append_assoc]
  exact Text.stripEnds_of_ends (not_isBlank_of_isScheme h first List.mem_cons_self) (Base64.isBlank_encode _ last hmem)

/-- What a client writes is what is read of a header. -/
theorem Written.carries (h : Written header username password) : Carries header username password := by
  obtain ⟨before, scheme, after, more, hheader, hscheme, hbefore, hafter⟩ := h
  refine ⟨scheme, List.replicate more ' ' ++ written username password, ?_, hscheme, ?_⟩
  · rw [hheader, Text.trim, Text.stripEnds_append hbefore hafter]
    exact trim_of_isScheme hscheme (' ' :: List.replicate more ' ') username password
  · have hspaces : ∀ c ∈ List.replicate more ' ', Text.isBlank c = true := by
      intro c hc
      rw [List.eq_of_mem_replicate hc]
      decide
    have hnothing : ∀ c ∈ ([] : List Char), Text.isBlank c = true := List.forall_mem_nil _
    have hstrip := Text.stripEnds_append hspaces hnothing (written username password)
    rw [List.append_nil] at hstrip
    exact hstrip.trans (Text.stripEnds_of_forall (Base64.isBlank_encode _))

/-! ## Reading -/

/-- A header holds a name and a password exactly if it carries them, and the name has no colon. -/
theorem credentials?_eq_some_iff :
    credentials? header = some (username, password) ↔ ':' ∉ username.toList ∧ Carries header username password := by
  constructor
  · intro h
    obtain ⟨⟨scheme, coded⟩, hcut, h⟩ := Option.bind_eq_some_iff.1 h
    dsimp only at h
    split at h
    · cases h
    rename_i hscheme
    obtain ⟨bytes, hbytes, h⟩ := Option.bind_eq_some_iff.1 h
    obtain ⟨text, htext, h⟩ := Option.bind_eq_some_iff.1 h
    obtain ⟨⟨name, rest⟩, hcolon, h⟩ := Option.bind_eq_some_iff.1 h
    cases h
    obtain ⟨hname, rfl⟩ := Text.cut_eq_some_iff.1 hcolon
    obtain rfl := Utf8.decode?_eq_some_iff.1 htext
    refine ⟨by simpa using hname, scheme, coded, (Text.cut_eq_some_iff.1 hcut).2, not_not.1 hscheme, ?_⟩
    simpa [written] using Base64.decode?_eq_some_iff.1 hbytes
  · rintro ⟨hname, scheme, text, htrim, hscheme, hcode⟩
    have hcut : Text.cut ' ' (Text.trim header.toList) = some (scheme, text) := by
      rw [htrim]
      exact Text.cut_append (space_not_mem_of_isScheme hscheme)
    have hbytes := Base64.decode?_eq_some_iff.2 hcode
    have htext := Utf8.decode?_eq_some_iff.2 (Eq.refl (Utf8.encode (username.toList ++ ':' :: password.toList)))
    have hcolon : Text.cut ':' (username.toList ++ ':' :: password.toList) = some (username.toList, password.toList) :=
      Text.cut_append hname
    simp [credentials?, hcut, show List.map Char.toLower scheme = "basic".toList from hscheme, hbytes, htext, hcolon]

/-- Whatever carries credentials announces them. -/
theorem isAnnounced_of_carries (h : Carries header username password) : isAnnounced header = true := by
  obtain ⟨scheme, text, htrim, hscheme, -⟩ := h
  have hprefix : Text.trim header.toList <+: Text.trimStart header.toList :=
    List.rdropWhile_prefix Text.isBlank (header.toList.dropWhile Text.isBlank)
  rw [htrim, List.append_cons] at hprefix
  have hlower := ((List.prefix_append _ text).trans hprefix).map Char.toLower
  rw [List.map_append, show List.map Char.toLower scheme = "basic".toList from hscheme] at hlower
  exact List.isPrefixOf_iff_prefix.2 hlower

/-! ## The stage -/

section Stage

variable {σ : Type} {users : Users} {p : Passage σ}

/-- The name and the password that are read are checked, and nothing else is. -/
theorem run_of_credentials (hheader : p.exchange.request.header? "authorization" = some header)
    (h : credentials? header = some (username, password)) (realm : String) (users : Users) (rest : Ahead σ) :
    run realm users rest p = match users.authenticate username password .httpBasic with
      | .ok a => rest.run { p with exchange := p.exchange.authenticate a }
      | .error _ => (.ok (challenge realm), p) := by
  have hannounced := isAnnounced_of_carries (credentials?_eq_some_iff.1 h).2
  have hverdict : verdict users p.exchange.request =
      some (users.authenticate username password .httpBasic).toOption := by
    rw [verdict, hheader, Option.filter_some, if_pos hannounced, Option.map_some, h]
    rfl
  rw [run_eq, hverdict]
  cases users.authenticate username password .httpBasic <;> rfl

/-- Where nothing is read, a header that announces credentials is challenged, and any other one is passed by. -/
theorem run_of_no_credentials (hheader : p.exchange.request.header? "authorization" = some header)
    (h : credentials? header = none) (realm : String) (users : Users) (rest : Ahead σ) :
    run realm users rest p = if isAnnounced header then (.ok (challenge realm), p) else rest.run p := by
  rw [run_eq, verdict, hheader, Option.filter_some]
  cases isAnnounced header with
  | false => rfl
  | true => simp [h, Users.admit?]

/-- The stage does with a header that a client has written for a name without a colon and a password what the check of
the two says: the request goes on with the authentication that they earn, or is challenged with a 401 and goes nowhere.
Conversely, what is read of a header is what the header carries in its written form; it has been announced, and the name
has no colon. A header that announces credentials of which none are read is challenged too. -/
theorem basic_credentials_round_trip (realm : String) (users : Users) (rest : Ahead σ)
    (hheader : p.exchange.request.header? "authorization" = some header) :
    (∀ username password, ':' ∉ username.toList → Written header username password →
      credentials? header = some (username, password) ∧
      run realm users rest p = match users.authenticate username password .httpBasic with
        | .ok a => rest.run { p with exchange := p.exchange.authenticate a }
        | .error _ => (.ok (challenge realm), p)) ∧
    (challenge realm).status = 401 ∧
    (∀ username password, credentials? header = some (username, password) →
      isAnnounced header = true ∧ ':' ∉ username.toList ∧ Carries header username password) ∧
    (credentials? header = none →
      run realm users rest p = if isAnnounced header then (.ok (challenge realm), p) else rest.run p) := by
  refine ⟨fun username password hcolon h => ?_, rfl, fun username password h => ?_, fun h => ?_⟩
  · have hread := credentials?_eq_some_iff.2 ⟨hcolon, h.carries⟩
    exact ⟨hread, run_of_credentials hheader hread realm users rest⟩
  · obtain ⟨hcolon, hcarries⟩ := credentials?_eq_some_iff.1 h
    exact ⟨isAnnounced_of_carries hcarries, hcolon, hcarries⟩
  · exact run_of_no_credentials hheader h realm users rest

/-! ## A password with a colon -/

/-- A request arrives with this header. -/
def arriving (header : String) : Passage Sessions :=
  .arriving { method := .get, path := "/", headers := [("authorization", header)] }

theorem header?_arriving (header : String) :
    (arriving header).exchange.request.header? "authorization" = some header := by
  simp [arriving, Passage.arriving, Exchange.ofRequest, Visit.ofRequest, Request.header?, Headers.get?, Headers.named,
    Text.sameIgnoringCase_self]

/-- The scheme in an odd spelling, white space all over, and the password `a:ß` of `ann`. -/
def spacedHeader : String :=
  " bASIC  YW5uOmE6w58=\t"

theorem written_spacedHeader : Written spacedHeader "ann" "a:ß" :=
  ⟨[' '], "bASIC".toList, ['\t'], 1, by decide +kernel, show List.map Char.toLower _ = _ by decide,
    List.forall_mem_singleton.2 (by decide), List.forall_mem_singleton.2 (by decide)⟩

/-- The account of `ann`. -/
def annsAccount : Users :=
  ⟨[{ username := "ann", password := "a:ß" }]⟩

/-- The header logs `ann` in, and is read as what it carries; a header that says `Basic` and no more is challenged. -/
theorem spacedHeader_logs_in :
    (arriving spacedHeader).exchange.request.header? "authorization" = some spacedHeader ∧ ':' ∉ "ann".toList ∧
      Written spacedHeader "ann" "a:ß" ∧ credentials? spacedHeader = some ("ann", "a:ß") ∧
      Carries spacedHeader "ann" "a:ß" ∧
      run "Realm" annsAccount (.answering { status := 200 }) (arriving spacedHeader) = (.ok { status := 200 },
        { arriving spacedHeader with
          exchange := (arriving spacedHeader).exchange.authenticate ⟨"ann", [], true, .httpBasic⟩ }) ∧
      credentials? "Basic !" = none ∧
      run "Realm" annsAccount (.answering { status := 200 }) (arriving "Basic !") =
        (.ok (challenge "Realm"), arriving "Basic !") := by
  obtain ⟨hwritten, -, hread, -⟩ :=
    basic_credentials_round_trip "Realm" annsAccount (.answering { status := 200 }) (header?_arriving spacedHeader)
  obtain ⟨-, -, -, hnone⟩ :=
    basic_credentials_round_trip "Realm" annsAccount (.answering { status := 200 }) (header?_arriving "Basic !")
  have hcolon : ':' ∉ "ann".toList := by decide
  obtain ⟨hcredentials, hrun⟩ := hwritten "ann" "a:ß" hcolon written_spacedHeader
  have hmalformed : credentials? "Basic !" = none := by decide +kernel
  refine ⟨header?_arriving _, hcolon, written_spacedHeader, hcredentials, (hread _ _ hcredentials).2.2, ?_,
    hmalformed, ?_⟩
  · have hearned : annsAccount.authenticate "ann" "a:ß" .httpBasic = .ok ⟨"ann", [], true, .httpBasic⟩ := by decide
    rw [hrun, hearned]
    rfl
  · rw [hnone hmalformed, if_pos (by decide +kernel)]

end Stage

end Portcullis.HttpBasic
