import Portcullis.Proofs.Cors.OriginPattern
import Portcullis.Proofs.Url

/-!
# Literal origins

An entry of a list of origins that is no pattern is to be an origin as a browser would name it: a scheme, a host,
perhaps a port, and nothing more (`Origins.Literal`). Two things keep a list from being read that strictly. An entry is
checked by reading it as a URL, and reading is lenient; so it takes a text without blanks, in which nothing but a host
and a port follow the slashes, to be what it is read as (`Origins.Bare`). And beside a pattern no entry is checked at
all.

* `Origins.literal_iff_bare`: which of the entries that pass the check are literal.
* `Origins.accepted_literal_iff`: what there is to say about an accepted list.
-/

namespace Portcullis.Cors.Origins

open Url (Undivided Tight IsScheme IsPort)

variable {cs scheme host port : List Char} {names : List String} {origins : Origins} {text : String}

/-- The text is a host and nothing besides. -/
structure IsHost (cs : List Char) : Prop where
  read : (Host.parse? cs).isSome = true
  undivided : Undivided cs
  tight : Tight cs
  /-- A colon at the end would begin a port. -/
  last : cs.getLast? ≠ some ':'

/-- A scheme, a host and perhaps a port, and nothing more. -/
inductive Literal : List Char → Prop
  | host {scheme host : List Char} (hscheme : IsScheme scheme) (hhost : IsHost host) :
    Literal (scheme ++ "://".toList ++ host)
  | port {scheme host port : List Char} (hscheme : IsScheme scheme) (hhost : IsHost host) (hport : IsPort port) :
    Literal (scheme ++ "://".toList ++ (host ++ ':' :: port))

/-- There are no blanks in the text, two slashes stand behind the first colon, and no character that sets parts of a URL
apart stands behind these; nor is there a colon at the end. -/
structure Bare (cs : List Char) : Prop where
  tight : Tight cs
  last : cs.getLast? ≠ some ':'
  parts : ∃ scheme rest, cs = scheme ++ "://".toList ++ rest ∧ ':' ∉ scheme ∧ Undivided rest

/-- What stands behind the first colon has no character that sets parts of a URL apart, but for two slashes. -/
theorem Bare.behind {before behind : List Char} (h : Bare cs) (heq : cs = before ++ ':' :: behind)
    (hcolon : ':' ∉ before) : ∃ rest, behind = '/' :: '/' :: rest ∧ Undivided rest := by
  obtain ⟨scheme, rest, hparts, hscheme, hrest⟩ := h.parts
  have hcut := Text.cut_append (b := behind) hcolon
  have hcut' : Text.cut ':' cs = some (scheme, '/' :: '/' :: rest) := by
    rw [hparts, List.append_assoc]
    exact Text.cut_append hscheme
  rw [← heq, hcut'] at hcut
  cases hcut
  exact ⟨rest, rfl, hrest⟩

theorem Literal.bare (h : Literal cs) : Bare cs := by
  cases h with
  | @host scheme host hscheme hhost =>
    refine ⟨?_, ?_, scheme, host, rfl, hscheme.colon_not_mem, hhost.undivided⟩
    · rw [Url.tight_append, Url.tight_append]
      exact ⟨⟨hscheme.tight, by decide⟩, hhost.tight⟩
    · rw [List.getLast?_append, List.getLast?_append]
      cases hlast : host.getLast? with
      | none =>
        show some '/' ≠ some ':'
        decide
      | some c =>
        rw [Option.some_or, ← hlast]
        exact hhost.last
  | @port scheme host port hscheme hhost hport =>
    refine ⟨?_, ?_, scheme, host ++ ':' :: port, rfl, hscheme.colon_not_mem, ?_⟩
    · rw [Url.tight_append, Url.tight_append, Url.tight_append, Url.tight_cons]
      exact ⟨⟨hscheme.tight, by decide⟩, hhost.tight, by decide, hport.tight⟩
    · rw [← List.append_assoc, List.getLast?_append_of_ne_nil _ (List.cons_ne_nil _ _),
        List.getLast?_cons_of_ne_nil hport.ne_nil]
      exact hport.getLast?
    · rw [Url.undivided_append, Url.undivided_cons]
      exact ⟨hhost.undivided, by decide, hport.undivided⟩

/-- An entry that passes the check is literal if it is bare, and only then. -/
theorem literal_iff_bare (h : isOrigin text = true) : Literal text.toList ↔ Bare text.toList := by
  refine ⟨Literal.bare, ?_⟩
  rintro ⟨htight, hlast, scheme, rest, heq, hcolon, hrest⟩
  cases hread : Url.parse? text with
  | none => simp [isOrigin, hread] at h
  | some url =>
    have hchecks : url.isRoot = true ∧ url.host.isSome = true := by
      simp only [isOrigin, hread, Bool.and_eq_true] at h
      exact ⟨h.1.1.1, h.1.2⟩
    obtain ⟨hscheme, hserver⟩ := Url.server_of_parse? heq htight hcolon hrest hread hchecks.1 hchecks.2
    have htight' : Tight rest := fun c hc => htight c (by simp [heq, hc])
    rw [heq]
    rcases hserver with hhost | ⟨host, port, rfl, hhost, hend, hport⟩
    · refine .host hscheme ⟨hhost, hrest, htight', fun hend => hlast ?_⟩
      rw [heq, List.getLast?_append, hend]
      rfl
    · rw [Url.undivided_append] at hrest
      rw [Url.tight_append] at htight'
      have hne : port ≠ [] := by
        rintro rfl
        exact hlast (by rw [heq, ← List.append_assoc, List.getLast?_concat])
      exact .port hscheme ⟨hhost, hrest.1, htight'.1, hend⟩ (hport hne)

/-! ## Lists -/

/-- Beside a pattern, every text is accepted. -/
theorem ofList_beside_star (hany : "*" ∉ names) (hstar : ∃ name ∈ names, '*' ∈ name.toList) (htext : text ≠ "*") :
    ∃ origins, ofList (text :: names) = .ok origins := by
  refine ⟨_, ofList_of_star ?_ ?_⟩
  · simpa [Ne.symm htext] using hany
  · obtain ⟨name, hname, hstar⟩ := hstar
    exact ⟨name, List.mem_cons_of_mem _ hname, hstar⟩

/-- Without patterns, a list is accepted if every entry passes the check, and it allows its entries. -/
theorem ofList_eq_ok_iff (hstar : ∀ name ∈ names, '*' ∉ name.toList) :
    ofList names = .ok origins ↔ (∀ name ∈ names, isOrigin name = true) ∧ origins = .exact names := by
  have hany : "*" ∉ names := fun h => hstar "*" h (by decide)
  have hnone : ¬(names.any (·.toList.contains '*')) = true := by simpa using hstar
  rw [ofList, if_neg (by simpa using hany), if_neg hnone]
  cases hfind : names.find? (!isOrigin ·) with
  | none =>
    have hall : ∀ name ∈ names, isOrigin name = true := by simpa using hfind
    rw [Except.ok.injEq, eq_comm]
    exact (and_iff_right hall).symm
  | some bad =>
    have hbad : isOrigin bad = false := by simpa using List.find?_some hfind
    simp only [reduceCtorEq, false_iff]
    rintro ⟨hall, -⟩
    rw [hall bad (List.mem_of_find?_eq_some hfind)] at hbad
    cases hbad

/-- In an accepted list without patterns an entry is literal exactly if it is bare; with patterns in a list it does not
matter what its other entries are. -/
theorem accepted_literal_iff (hany : "*" ∉ names) (hread : ofList names = .ok origins) :
    ((∀ name ∈ names, '*' ∉ name.toList) → ∀ name ∈ names, (Literal name.toList ↔ Bare name.toList)) ∧
    ((∃ name ∈ names, '*' ∈ name.toList) → ∀ text, text ≠ "*" → ∃ origins', ofList (text :: names) = .ok origins') :=
  ⟨fun hstar name hname => literal_iff_bare (((ofList_eq_ok_iff hstar).1 hread).1 name hname),
    fun hstar _ htext => ofList_beside_star hany hstar htext⟩

/-- A server of one's own. -/
def localOrigin : String := "https://[::1]:8443"

/-- The same with a note behind it. -/
def notedOrigin : String := "https://[::1]#top"

theorem bare_localOrigin : Bare localOrigin.toList where
  tight := by decide
  last := by decide
  parts := ⟨"https".toList, "[::1]:8443".toList, by decide, by decide, by decide⟩

theorem ofList_origins : ofList [localOrigin] = .ok (.exact [localOrigin]) ∧
    ofList [notedOrigin] = .ok (.exact [notedOrigin]) := by
  have hlocal : isOrigin localOrigin = true := by decide +kernel
  have hnoted : isOrigin notedOrigin = true := by decide +kernel
  exact ⟨(ofList_eq_ok_iff (by decide)).2 ⟨by simpa using hlocal, rfl⟩,
    (ofList_eq_ok_iff (by decide)).2 ⟨by simpa using hnoted, rfl⟩⟩

/-- The fragment of a URL is overlooked, and beside a pattern everything is. -/
theorem notedOrigin_accepted :
    ofList [notedOrigin] = .ok (.exact [notedOrigin]) ∧ ¬Literal notedOrigin.toList ∧
    ofList ["https://*.shop.example", "shop.example/path"] =
      .ok (.patterns [⟨"https://*.shop.example"⟩, ⟨"shop.example/path"⟩]) ∧
    ¬Literal "shop.example/path".toList := by
  refine ⟨ofList_origins.2, fun h => ?_, ofList_of_star (by decide) ⟨_, List.mem_cons_self, by decide⟩, fun h => ?_⟩
  · have hcut : notedOrigin.toList = "https".toList ++ ':' :: "//[::1]#top".toList := by decide +kernel
    obtain ⟨rest, hrest, hundivided⟩ := h.bare.behind hcut (by decide +kernel)
    cases hrest
    exact absurd hundivided (by decide +kernel)
  · obtain ⟨scheme, rest, hparts, -⟩ := h.bare.parts
    have hcolon : ':' ∈ "shop.example/path".toList := by simp [hparts]
    exact absurd hcolon (by decide)

/-- The server of one's own is named literally; beside a pattern it could have been named in any way. -/
theorem localOrigin_literal : "*" ∉ [localOrigin] ∧ Literal localOrigin.toList ∧
    ∃ origins, ofList ["shop.example/path", "https://*.shop.example"] = .ok origins := by
  have hany : "*" ∉ [localOrigin] := by decide +kernel
  have hnone : ∀ name ∈ [localOrigin], '*' ∉ name.toList := by decide +kernel
  have hany' : "*" ∉ ["https://*.shop.example"] := by decide +kernel
  have hstar : ∃ name ∈ ["https://*.shop.example"], '*' ∈ name.toList := ⟨_, List.mem_cons_self, by decide⟩
  refine ⟨hany, ?_, ?_⟩
  · exact ((accepted_literal_iff hany ofList_origins.1).1 hnone _ List.mem_cons_self).2 bare_localOrigin
  · exact (accepted_literal_iff hany' (ofList_of_star hany' hstar)).2 hstar _ (by decide +kernel)

end Portcullis.Cors.Origins
