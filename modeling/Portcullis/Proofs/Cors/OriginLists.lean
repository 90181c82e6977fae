import Portcullis.Proofs.Cors.Literal
import Portcullis.Proofs.Unicode.CaseFold

/-!
# Lists of origins put together

A list of origins allows what one or another of its entries allows (`Origins.allows_iff_of_ofList`). What an entry
allows hangs on the other entries in one respect: an entry without a star is compared up to the case of ASCII letters,
but beside a pattern it is a pattern too, and compared up to case folding. So two lists put together allow what either
of them does, and besides what spells an entry without a star, if there is a star in one of them
(`Origins.SpelledBesideStar`). Within ASCII this comes to nothing new.

* `Origins.spells_of_sameIgnoringCase`, `Origins.sameIgnoringCase_of_spells`: the two comparisons.
* `Origins.append_allows_iff`: two lists put together.
-/

namespace Portcullis.Cors.Origins

open OriginPattern (Cut Spells)

variable {names more : List String} {origins origins' : Origins} {name origin : String}

/-! ## The two comparisons -/

/-- What differs in the case of ASCII letters only is spelled alike. -/
theorem spells_of_sameIgnoringCase (h : Text.sameIgnoringCase name origin = true) :
    Spells name.toList origin.toList := by
  have hlower : List.Forall₂ (fun c d => c.toLower = d.toLower) name.toList origin.toList := by
    rw [Text.sameIgnoringCase_iff, ← List.forall₂_eq_eq_eq] at h
    simpa using h
  refine hlower.imp fun c d hcd => ?_
  rw [← Unicode.fold_toLower c, hcd, Unicode.fold_toLower]

/-- All characters of the text are characters of ASCII. -/
def IsAscii (text : String) : Prop :=
  ∀ c ∈ text.toList, c.toNat < 128

instance (text : String) : Decidable (IsAscii text) :=
  List.decidableBAll (fun c : Char => c.toNat < 128) text.toList

/-- What an ASCII text is spelled by differs from it in the case of letters only, unless it has a long s or a Kelvin
sign in it. -/
theorem sameIgnoringCase_of_spells (hname : IsAscii name) (hs : 'ſ' ∉ origin.toList) (hk : '\u212a' ∉ origin.toList)
    (h : Spells name.toList origin.toList) : Text.sameIgnoringCase name origin = true := by
  rw [Text.sameIgnoringCase_iff]
  unfold IsAscii at hname
  generalize name.toList = cs at h hname
  generalize origin.toList = ds at h hs hk
  induction h with
  | nil => rfl
  | @cons c d cs ds hcd h ih =>
    rw [List.forall_mem_cons] at hname
    rw [List.mem_cons, not_or] at hs hk
    rw [List.map_cons, List.map_cons, ih hname.2 hs.2 hk.2,
      Unicode.toLower_eq_of_fold_eq hname.1 (Ne.symm hs.1) (Ne.symm hk.1) hcd]

/-! ## What a list allows -/

/-- There is a star in some entry of the list. -/
def Starred (names : List String) : Prop :=
  ∃ name ∈ names, '*' ∈ name.toList

theorem starred_append : Starred (names ++ more) ↔ Starred names ∨ Starred more := by
  simp only [Starred, List.mem_append, or_and_right, exists_or]

/-- The entry allows the origin, in a list with stars or in one without. -/
inductive Admits (starred : Prop) (name origin : String) : Prop
  | any (h : name = "*")
  | same (hnone : ¬starred) (h : Text.sameIgnoringCase name origin = true)
  | cut (hstar : starred) (h : Cut (name.toList.splitOn '*') origin.toList)

/-- A list that can be read allows what one of its entries allows. -/
theorem allows_iff_of_ofList (h : ofList names = .ok origins) :
    origins.allows origin = true ↔ ∃ name ∈ names, Admits (Starred names) name origin := by
  by_cases hany : "*" ∈ names
  · have hread : ofList names = .ok .any := if_pos (by simpa using hany)
    obtain rfl : Origins.any = origins := Except.ok.inj (hread.symm.trans h)
    exact iff_of_true rfl ⟨"*", hany, .any rfl⟩
  by_cases hstar : Starred names
  · obtain ⟨origins', hread, hallows⟩ := allows_iff_cut hany hstar
    obtain rfl : origins' = origins := Except.ok.inj (hread.symm.trans h)
    rw [hallows]
    constructor
    · rintro ⟨name, hname, hcut⟩
      exact ⟨name, hname, .cut hstar hcut⟩
    · rintro ⟨name, hname, rfl | ⟨hnone, -⟩ | ⟨-, hcut⟩⟩
      · exact absurd hname hany
      · exact absurd hstar hnone
      · exact ⟨name, hname, hcut⟩
  · have hnone : ∀ name ∈ names, '*' ∉ name.toList := fun name hname hmem => hstar ⟨name, hname, hmem⟩
    obtain rfl := ((ofList_eq_ok_iff hnone).1 h).2
    rw [allows, List.any_eq_true]
    constructor
    · rintro ⟨name, hname, hsame⟩
      exact ⟨name, hname, .same hstar hsame⟩
    · rintro ⟨name, hname, rfl | ⟨-, hsame⟩ | ⟨hstar', -⟩⟩
      · exact absurd hname hany
      · exact ⟨name, hname, hsame⟩
      · exact absurd hstar' hstar

/-! ## Two lists put together -/

/-- There is a star in some entry, and the origin spells an entry without one. -/
def SpelledBesideStar (names : List String) (origin : String) : Prop :=
  Starred names ∧ ∃ name ∈ names, '*' ∉ name.toList ∧ Spells name.toList origin.toList

theorem cut_iff_of_no_star (h : '*' ∉ name.toList) :
    Cut (name.toList.splitOn '*') origin.toList ↔ Spells name.toList origin.toList := by
  rw [List.splitOn_eq_singleton h, OriginPattern.cut_singleton_iff]

/-- An entry without a star allows itself in every list, whatever the case of its ASCII letters. -/
theorem admits_of_sameIgnoringCase {starred : Prop} (hplain : '*' ∉ name.toList)
    (h : Text.sameIgnoringCase name origin = true) : Admits starred name origin := by
  by_cases hstar : starred
  · exact .cut hstar ((cut_iff_of_no_star hplain).2 (spells_of_sameIgnoringCase h))
  · exact .same hstar h

/-- An entry allows no less in a longer list. -/
theorem Admits.append (hname : name ∈ names) (hsub : Starred names → Starred more)
    (h : Admits (Starred names) name origin) : Admits (Starred more) name origin := by
  cases h with
  | any h => exact .any h
  | same hnone h => exact admits_of_sameIgnoringCase (fun hmem => hnone ⟨name, hname, hmem⟩) h
  | cut hstar h => exact .cut (hsub hstar) h

/-- What an entry allows in a longer list beyond what it allows in its own spells it. -/
theorem Admits.of_append (hname : name ∈ names) (hsub : Starred names → Starred more)
    (h : Admits (Starred more) name origin) : Admits (Starred names) name origin ∨
      Starred more ∧ '*' ∉ name.toList ∧ Spells name.toList origin.toList := by
  cases h with
  | any h => exact .inl (.any h)
  | same hnone h => exact .inl (.same (fun hstar => hnone (hsub hstar)) h)
  | cut hstar h =>
    by_cases hown : Starred names
    · exact .inl (.cut hown h)
    · have hplain : '*' ∉ name.toList := fun hmem => hown ⟨name, hname, hmem⟩
      exact .inr ⟨hstar, hplain, (cut_iff_of_no_star hplain).1 h⟩

/-- Two lists that can be read can be read as one. -/
theorem exists_ofList_append (hnames : ofList names = .ok origins) (hmore : ofList more = .ok origins') :
    ∃ all, ofList (names ++ more) = .ok all := by
  by_cases hany : "*" ∈ names ++ more
  · exact ⟨.any, if_pos (by simpa using hany)⟩
  by_cases hstar : Starred (names ++ more)
  · exact ⟨_, ofList_of_star hany hstar⟩
  · rw [starred_append, not_or] at hstar
    have hplain {list : List String} (h : ¬Starred list) : ∀ name ∈ list, '*' ∉ name.toList :=
      fun name hname hmem => h ⟨name, hname, hmem⟩
    have hfirst := (ofList_eq_ok_iff (hplain hstar.1)).1 hnames
    have hlast := (ofList_eq_ok_iff (hplain hstar.2)).1 hmore
    refine ⟨_, (ofList_eq_ok_iff ?_).2 ⟨?_, rfl⟩⟩
    · exact List.forall_mem_append.2 ⟨hplain hstar.1, hplain hstar.2⟩
    · exact List.forall_mem_append.2 ⟨hfirst.1, hlast.1⟩

/-- Two lists put together can be read if both can, and they allow what one or the other does; besides, where there is a
star in one of them, what spells an entry without one. If the entries are texts of ASCII, that is nothing new but for
origins with a long s or a Kelvin sign in them. -/
theorem append_allows_iff (hnames : ofList names = .ok origins) (hmore : ofList more = .ok origins') :
    ∃ all, ofList (names ++ more) = .ok all ∧
      (∀ origin : String, all.allows origin = true ↔
        origins.allows origin = true ∨ origins'.allows origin = true ∨ SpelledBesideStar (names ++ more) origin) ∧
      ((∀ name ∈ names ++ more, IsAscii name) → ∀ origin : String, 'ſ' ∉ origin.toList → '\u212a' ∉ origin.toList →
        (all.allows origin = true ↔ origins.allows origin = true ∨ origins'.allows origin = true)) := by
  obtain ⟨all, hall⟩ := exists_ofList_append hnames hmore
  have hfirst : Starred names → Starred (names ++ more) := fun h => starred_append.2 (.inl h)
  have hlast : Starred more → Starred (names ++ more) := fun h => starred_append.2 (.inr h)
  have hunion (origin : String) : all.allows origin = true ↔ origins.allows origin = true ∨
      origins'.allows origin = true ∨ SpelledBesideStar (names ++ more) origin := by
    rw [allows_iff_of_ofList hall, allows_iff_of_ofList hnames, allows_iff_of_ofList hmore]
    constructor
    · rintro ⟨name, hname, h⟩
      rcases List.mem_append.1 hname with hmem | hmem
      · rcases h.of_append hmem hfirst with h | ⟨hstar, h⟩
        · exact .inl ⟨name, hmem, h⟩
        · exact .inr (.inr ⟨hstar, name, hname, h⟩)
      · rcases h.of_append hmem hlast with h | ⟨hstar, h⟩
        · exact .inr (.inl ⟨name, hmem, h⟩)
        · exact .inr (.inr ⟨hstar, name, hname, h⟩)
    · rintro (⟨name, hname, h⟩ | ⟨name, hname, h⟩ | ⟨hstar, name, hname, hplain, h⟩)
      · exact ⟨name, List.mem_append_left _ hname, h.append hname hfirst⟩
      · exact ⟨name, List.mem_append_right _ hname, h.append hname hlast⟩
      · exact ⟨name, hname, .cut hstar ((cut_iff_of_no_star hplain).2 h)⟩
  refine ⟨all, hall, hunion, fun hascii origin hs hk => ?_⟩
  rw [hunion]
  refine ⟨fun h => ?_, fun h => h.imp_right .inl⟩
  rcases h with h | h | ⟨-, name, hname, hplain, h⟩
  · exact .inl h
  · exact .inr h
  · have hsame := sameIgnoringCase_of_spells (hascii name hname) hs hk h
    rw [allows_iff_of_ofList hnames, allows_iff_of_ofList hmore]
    rcases List.mem_append.1 hname with hmem | hmem
    · exact .inl ⟨name, hmem, admits_of_sameIgnoringCase hplain hsame⟩
    · exact .inr ⟨name, hmem, admits_of_sameIgnoringCase hplain hsame⟩

/-- A server of one's own. -/
def homeOrigins : List String :=
  ["https://[::1]"]

/-- All sites of a domain. -/
def domainOrigins : List String :=
  ["https://*.example.com"]

theorem ofList_homeOrigins : ofList homeOrigins = .ok (.exact homeOrigins) := by
  have hhome : isOrigin "https://[::1]" = true := by decide +kernel
  exact (ofList_eq_ok_iff (by decide)).2 ⟨by simpa [homeOrigins] using hhome, rfl⟩

/-- The server is known by its name in any letter case. -/
theorem home_allows_iff : (Origins.exact homeOrigins).allows origin = true ↔
    origin.toList.map Char.toLower = "https://[::1]".toList := by
  have hlower : "https://[::1]".toList.map Char.toLower = "https://[::1]".toList := by decide
  rw [allows, homeOrigins, List.any_cons, List.any_nil, Bool.or_false, Text.sameIgnoringCase_iff, hlower]
  exact eq_comm

theorem ofList_domainOrigins : ofList domainOrigins = .ok (.patterns [⟨"https://*.example.com"⟩]) :=
  ofList_of_star (by decide) ⟨_, List.mem_cons_self, by decide⟩

theorem parts_domain : "https://*.example.com".toList.splitOn '*' = ["https://".toList, ".example.com".toList] := by
  decide +kernel

/-- A short origin is none of the domain's. -/
theorem domain_not_allows (h : origin.toList.length < 20) :
    (Origins.patterns [⟨"https://*.example.com"⟩]).allows origin = false := by
  rw [← Bool.not_eq_true, allows_iff_of_ofList ofList_domainOrigins]
  rintro ⟨name, hname, hadmits⟩
  obtain rfl : name = "https://*.example.com" := by simpa [domainOrigins] using hname
  cases hadmits with
  | any h => exact absurd h (by decide)
  | same hnone => exact hnone ⟨_, hname, by decide⟩
  | cut hstar hcut =>
    rw [parts_domain] at hcut
    exact absurd (Nat.lt_of_le_of_lt hcut.length_le h) (by decide)

/-- With a long s in its scheme an origin is neither the one of the server nor one of the domain; the two lists put
together allow it. -/
theorem longS_allowed_beside_domain :
    ofList homeOrigins = .ok (.exact homeOrigins) ∧
    ofList domainOrigins = .ok (.patterns [⟨"https://*.example.com"⟩]) ∧
    (Origins.exact homeOrigins).allows "httpſ://[::1]" = false ∧
    (Origins.patterns [⟨"https://*.example.com"⟩]).allows "httpſ://[::1]" = false ∧
    ∃ all, ofList (homeOrigins ++ domainOrigins) = .ok all ∧ all.allows "httpſ://[::1]" = true := by
  refine ⟨ofList_homeOrigins, ofList_domainOrigins, ?_, domain_not_allows (by decide), ?_⟩
  · rw [← Bool.not_eq_true, home_allows_iff]
    decide
  · obtain ⟨all, hall⟩ := exists_ofList_append ofList_homeOrigins ofList_domainOrigins
    have hstar : Starred (homeOrigins ++ domainOrigins) := ⟨"https://*.example.com", by decide, by decide⟩
    refine ⟨all, hall, (allows_iff_of_ofList hall).2 ⟨"https://[::1]", by decide, .cut hstar ?_⟩⟩
    rw [cut_iff_of_no_star (by decide)]
    have hs : Unicode.fold 's' = Unicode.fold 'ſ' := by
      rw [Unicode.fold_longS, Unicode.fold_of_ascii (by decide)]
      rfl
    have hsame (cs : List Char) : Spells cs cs := List.forall₂_same.2 fun _ _ => rfl
    rw [show "https://[::1]".toList = "http".toList ++ 's' :: "://[::1]".toList by decide,
      show "httpſ://[::1]".toList = "http".toList ++ 'ſ' :: "://[::1]".toList by decide]
    exact List.rel_append (hsame "http".toList) (.cons hs (hsame "://[::1]".toList))

/-- Together the lists allow the server in any letter case, and no other protocol. -/
theorem home_and_domain_allow :
    ofList homeOrigins = .ok (.exact homeOrigins) ∧
    ofList domainOrigins = .ok (.patterns [⟨"https://*.example.com"⟩]) ∧
    ∃ all, ofList (homeOrigins ++ domainOrigins) = .ok all ∧ all.allows "HTTPS://[::1]" = true ∧
      all.allows "http://[::1]" = false := by
  obtain ⟨all, hall, -, hascii⟩ := append_allows_iff ofList_homeOrigins ofList_domainOrigins
  have hentries : ∀ name ∈ homeOrigins ++ domainOrigins, IsAscii name := by decide
  refine ⟨ofList_homeOrigins, ofList_domainOrigins, all, hall, ?_, ?_⟩
  · refine (hascii hentries _ (by decide) (by decide)).2 (.inl ?_)
    rw [home_allows_iff]
    decide
  · rw [← Bool.not_eq_true, hascii hentries _ (by decide) (by decide), domain_not_allows (by decide),
      home_allows_iff]
    decide

end Portcullis.Cors.Origins
