import Portcullis.Proofs.Text
import Portcullis.Url.Basic

/-!
# URLs that are written plainly

Reading forgives much: what stands at the ends or between the parts of a text may be dropped or replaced before the
parts are read. In a text that has nothing of the kind, every part is read as it stands: the scheme, the host up to a
colon outside of brackets, and the port behind it (`Url.spanHost_cases`).

* `Url.host_of_authority?_known`, `Url.host_of_fileAuthority?`, `Url.isRoot_authority?_other`: what follows the two
  slashes, by the kind of the scheme.
* `Url.server_of_parse?`: the whole text.
-/

namespace Portcullis.Url

variable {cs scheme rest name tail : List Char} {c : Char} {kind : Kind} {u : Url}

/-- The characters that set the parts behind the scheme apart. -/
def delimiters : List Char :=
  "/\\?#@".toList

/-- No such character is in the text. -/
def Undivided (cs : List Char) : Prop :=
  ∀ c ∈ cs, c ∉ delimiters

/-- Nothing in the text is dropped for being a blank or a control character. -/
def Tight (cs : List Char) : Prop :=
  ∀ c ∈ cs, isEdge c = false

instance (cs : List Char) : Decidable (Undivided cs) :=
  List.decidableBAll (· ∉ delimiters) cs

instance (cs : List Char) : Decidable (Tight cs) :=
  List.decidableBAll (isEdge · = false) cs

/-- A letter, and then letters, digits and the signs `+`, `-` and `.`. -/
def IsScheme (cs : List Char) : Prop :=
  cs.head?.any Char.isAlpha = true ∧ ∀ c ∈ cs, (c.isAlphanum || "+-.".toList.contains c) = true

theorem tight_append {ds : List Char} : Tight (cs ++ ds) ↔ Tight cs ∧ Tight ds :=
  List.forall_mem_append

theorem undivided_append {ds : List Char} : Undivided (cs ++ ds) ↔ Undivided cs ∧ Undivided ds :=
  List.forall_mem_append

theorem tight_cons : Tight (c :: cs) ↔ isEdge c = false ∧ Tight cs :=
  List.forall_mem_cons

theorem undivided_cons : Undivided (c :: cs) ↔ c ∉ delimiters ∧ Undivided cs :=
  List.forall_mem_cons

/-! ## Letters and digits -/

theorem isAlphanum_cases (h : c.isAlphanum = true) : isEdge c = false ∧ c ∉ delimiters ∧ c ≠ ':' := by
  refine ⟨?_, ?_, ?_⟩
  · by_contra hedge
    have hle : c.toNat ≤ 32 := by simpa [isEdge] using hedge
    have hnone : ∀ n < 33, (Char.ofNat n).isAlphanum = false := by decide
    have hnot := hnone c.toNat (by omega)
    rw [Char.ofNat_toNat, h] at hnot
    cases hnot
  · intro hmem
    have hcases : c = '/' ∨ c = '\\' ∨ c = '?' ∨ c = '#' ∨ c = '@' := by simpa [delimiters] using hmem
    rcases hcases with rfl | rfl | rfl | rfl | rfl <;> exact absurd h (by decide)
  · rintro rfl
    exact absurd h (by decide)

theorem IsScheme.colon_not_mem (h : IsScheme scheme) : ':' ∉ scheme :=
  fun hcolon => absurd (h.2 _ hcolon) (by decide)

theorem IsScheme.tight (h : IsScheme scheme) : Tight scheme := by
  intro c hc
  have hcases : c.isAlphanum = true ∨ c = '+' ∨ c = '-' ∨ c = '.' := by simpa using h.2 c hc
  rcases hcases with hc | rfl | rfl | rfl
  · exact (isAlphanum_cases hc).1
  all_goals rfl

/-! ## The scheme -/

theorem isSkipped_of_isEdge (h : isEdge c = false) : isSkipped c = false := by
  by_contra hskipped
  rw [Bool.not_eq_false] at hskipped
  have hcases : c = '\t' ∨ c = '\n' ∨ c = '\r' := by simpa [isSkipped, or_assoc] using hskipped
  rcases hcases with rfl | rfl | rfl <;> cases h

/-- Nothing is dropped from a text without blanks. -/
theorem clean_of_tight (h : Tight cs) : (Text.stripEnds isEdge cs).filter (!isSkipped ·) = cs := by
  rw [Text.stripEnds_of_forall h, List.filter_eq_self]
  intro c hc
  rw [isSkipped_of_isEdge (h c hc)]
  rfl

theorem scheme?_append (hcolon : ':' ∉ scheme) {found : String} {behind : List Char}
    (h : scheme? (scheme ++ ':' :: rest) = some (found, behind)) : IsScheme scheme ∧ behind = rest := by
  rw [scheme?, Text.cut_append hcolon] at h
  simp only [Option.bind_eq_bind, Option.bind_some, Option.ite_none_right_eq_some, Option.some.injEq,
    Prod.mk.injEq, Bool.and_eq_true, List.all_eq_true] at h
  exact ⟨h.1, h.2.2.symm⟩

/-! ## Host and port -/

/-- A host ends where the text does, or in front of a colon. Then there is no colon at its end, since one in brackets is
followed by a bracket at least. -/
theorem spanHost_cases (inside : Bool) (cs : List Char) :
    (spanHost inside cs = (cs, [])) ∨ ∃ name port, cs = name ++ ':' :: port ∧
      spanHost inside cs = (name, ':' :: port) ∧ name.getLast? ≠ some ':' ∧ (inside = true → name ≠ []) := by
  induction cs generalizing inside with
  | nil => exact .inl rfl
  | cons c cs ih =>
    rw [spanHost]
    split
    case isTrue hcolon =>
      obtain ⟨rfl, hinside⟩ := hcolon
      exact .inr ⟨[], cs, rfl, rfl, by simp, by simpa using hinside⟩
    case isFalse hnot =>
      rcases ih (if c = '[' then true else if c = ']' then false else inside) with h | ⟨name, port, rfl, h, hlast, hne⟩
      · rw [h]
        exact .inl rfl
      · rw [h]
        refine .inr ⟨c :: name, port, rfl, rfl, ?_, fun _ => List.cons_ne_nil _ _⟩
        cases name with
        | cons d name => rwa [List.getLast?_cons_cons]
        | nil =>
          intro hcolon
          obtain rfl : c = ':' := by simpa using hcolon
          have hinside : inside = true := by simpa using hnot
          refine hne ?_ rfl
          rwa [if_neg (by decide), if_neg (by decide)]

theorem takeWhile_of_undivided (h : Undivided cs) (p : Char → Bool) (hp : ∀ c, p c = false → c ∈ delimiters) :
    cs.takeWhile p = cs ∧ cs.dropWhile p = [] := by
  have hall : ∀ c ∈ cs, p c = true := fun c hc => by
    by_contra hnot
    exact h c hc (hp c (by simpa using hnot))
  exact ⟨List.takeWhile_eq_self_iff.2 hall, List.dropWhile_eq_nil_iff.2 hall⟩

theorem mem_delimiters_of_endsAuthority (h : endsAuthority kind c = true) : c ∈ delimiters := by
  have hcases : (c = '/' ∨ c = '?') ∨ c = '#' ∨ c = '\\' ∧ kind ≠ .other := by
    simpa [endsAuthority, or_assoc] using h
  rcases hcases with (rfl | rfl) | rfl | ⟨rfl, -⟩ <;> decide

/-- The server is all that follows the slashes. -/
theorem server_of_undivided (h : Undivided cs) (kind : Kind) :
    cs.takeWhile (!endsAuthority kind ·) = cs ∧ cs.dropWhile (!endsAuthority kind ·) = [] :=
  takeWhile_of_undivided h _ fun c hc =>
    mem_delimiters_of_endsAuthority (by simpa using hc : endsAuthority kind c = true)

theorem withoutUser_of_undivided (h : Undivided cs) : withoutUser cs = cs := by
  have hreverse : Undivided cs.reverse := fun c hc => h c (List.mem_reverse.1 hc)
  have hkept := takeWhile_of_undivided hreverse (· != '@') fun c hc => by
    obtain rfl : c = '@' := by simpa using hc
    decide
  rw [withoutUser, hkept.1, List.reverse_reverse]

/-! ## What follows the two slashes -/

/-- Host and port are read as they stand. -/
theorem authority?_of_undivided (h : Undivided cs) (scheme : String) (kind : Kind) : authority? scheme kind cs = (do
    let port ← port? scheme ((spanHost false cs).2.drop 1)
    let path := pathOf kind []
    if kind = .other then
      let host ← Host.parseOther? (spanHost false cs).1
      if host = "" then
        if (spanHost false cs).2.isEmpty && cs.isEmpty then some ⟨scheme, none, none, some path, false⟩ else none
      else some ⟨scheme, some host, port, some path, false⟩
    else some ⟨scheme, ← Host.parse? (spanHost false cs).1, port, some path, false⟩) := by
  have hrest : Undivided ((spanHost false cs).2.drop 1) := by
    intro c hc
    refine h c ?_
    rcases spanHost_cases false cs with hspan | ⟨name, port, rfl, hspan, -, -⟩
    · simp [hspan] at hc
    · rw [hspan] at hc
      simp [List.mem_of_mem_drop hc]
  have hport := takeWhile_of_undivided hrest (· != '\\') fun c hc => by
    obtain rfl : c = '\\' := by simpa using hc
    decide
  obtain ⟨htake, hdrop⟩ := server_of_undivided h kind
  simp only [authority?, htake, hdrop, withoutUser_of_undivided h, hport]
  rfl

/-- In a known scheme a host has to be there; a port may be. -/
theorem host_of_authority?_known (h : Undivided cs) {scheme : String} (hread : authority? scheme .known cs = some u) :
    (Host.parse? (spanHost false cs).1).isSome = true ∧
      (port? scheme ((spanHost false cs).2.drop 1)).isSome = true := by
  rw [authority?_of_undivided h] at hread
  obtain ⟨port, hport, hread⟩ := Option.bind_eq_some_iff.1 hread
  simp only [reduceCtorEq, if_false] at hread
  obtain ⟨host, hhost, -⟩ := Option.bind_eq_some_iff.1 hread
  exact ⟨Option.isSome_of_eq_some hhost, Option.isSome_of_eq_some hport⟩

/-- In a scheme that is not known there is no root where none is written. -/
theorem isRoot_authority?_other (h : Undivided cs) {scheme : String} (hread : authority? scheme .other cs = some u) :
    u.isRoot = false := by
  rw [authority?_of_undivided h] at hread
  obtain ⟨port, -, hread⟩ := Option.bind_eq_some_iff.1 hread
  simp only [if_true] at hread
  obtain ⟨host, -, hread⟩ := Option.bind_eq_some_iff.1 hread
  split at hread
  · split at hread <;> cases hread
    rfl
  · cases hread
    rfl

/-- A file has no port: all that follows the slashes is its host, if it has one. -/
theorem host_of_fileAuthority? (h : Undivided cs) (hread : fileAuthority? cs = some u) (hhost : u.host.isSome = true) :
    (Host.parse? cs).isSome = true := by
  obtain ⟨htake, hdrop⟩ := server_of_undivided h .file
  simp only [fileAuthority?, htake, hdrop] at hread
  split at hread
  · cases hread
    simp at hhost
  · obtain ⟨host, hname, -⟩ := Option.bind_eq_some_iff.1 hread
    obtain ⟨name, hname, -⟩ := Option.map_eq_some_iff.1 hname
    exact Option.isSome_of_eq_some hname

/-! ## The whole text -/

/-- The digits of a port number. -/
def IsPort (cs : List Char) : Prop :=
  ∃ n, Text.decimalValue? cs = some n ∧ n ≤ 65535

theorem IsPort.isAlphanum (h : IsPort cs) : ∀ c ∈ cs, c.isAlphanum = true := by
  obtain ⟨n, hn, -⟩ := h
  intro c hc
  rw [Char.isAlphanum, (Text.isDigit_of_decimalValue? hn).2 c hc, Bool.or_true]

theorem IsPort.ne_nil (h : IsPort cs) : cs ≠ [] := by
  obtain ⟨n, hn, -⟩ := h
  exact (Text.isDigit_of_decimalValue? hn).1

theorem IsPort.tight (h : IsPort cs) : Tight cs :=
  fun c hc => (isAlphanum_cases (h.isAlphanum c hc)).1

theorem IsPort.undivided (h : IsPort cs) : Undivided cs :=
  fun c hc => (isAlphanum_cases (h.isAlphanum c hc)).2.1

theorem IsPort.getLast? (h : IsPort cs) : cs.getLast? ≠ some ':' :=
  fun hlast => (isAlphanum_cases (h.isAlphanum ':' (List.mem_of_getLast? hlast))).2.2 rfl

theorem isPort_of_port? {scheme : String} (h : (port? scheme cs).isSome = true) (hne : cs ≠ []) : IsPort cs := by
  obtain ⟨port, hport⟩ := Option.isSome_iff_exists.1 h
  unfold port? at hport
  split at hport
  · exact absurd rfl hne
  · obtain ⟨n, hn, hport⟩ := Option.bind_eq_some_iff.1 hport
    split at hport
    case isTrue hle => exact ⟨n, hn, hle⟩
    case isFalse => cases hport

/-- What is read of a text with a scheme and a server, in which nothing is dropped: the server is a host, or a host with
a port. -/
theorem server_of_parse? {s : String} (hs : s.toList = scheme ++ "://".toList ++ rest) (htight : Tight s.toList)
    (hcolon : ':' ∉ scheme) (hrest : Undivided rest) (hread : parse? s = some u) (hroot : u.isRoot = true)
    (hhost : u.host.isSome = true) : IsScheme scheme ∧ ((Host.parse? rest).isSome = true ∨
      ∃ name port, rest = name ++ ':' :: port ∧ (Host.parse? name).isSome = true ∧ name.getLast? ≠ some ':' ∧
        (port ≠ [] → IsPort port)) := by
  have hclean : (Text.stripEnds isEdge s.toList).filter (!isSkipped ·) = scheme ++ ':' :: '/' :: '/' :: rest := by
    rw [clean_of_tight htight, hs]
    simp
  rw [parse?, hclean] at hread
  obtain ⟨⟨found, behind⟩, hscheme, hread⟩ := Option.bind_eq_some_iff.1 hread
  obtain ⟨hisScheme, rfl⟩ := scheme?_append hcolon hscheme
  refine ⟨hisScheme, ?_⟩
  cases hkind : kindOf found with
  | known =>
    simp only [hkind] at hread
    have hslashes : ('/' :: '/' :: rest).dropWhile (fun c => c = '/' || c = '\\') = rest := by
      rw [List.dropWhile_cons_of_pos (by decide), List.dropWhile_cons_of_pos (by decide), List.dropWhile_eq_self_iff]
      intro hlength hslash
      have hcases : rest[0] = '/' ∨ rest[0] = '\\' := by simpa using hslash
      refine hrest rest[0] (List.getElem_mem hlength) ?_
      rcases hcases with h | h <;> rw [h] <;> decide
    rw [hslashes] at hread
    obtain ⟨hname, hport⟩ := host_of_authority?_known hrest hread
    rcases spanHost_cases false rest with hspan | ⟨name, port, heq, hspan, hlast, -⟩
    · rw [hspan] at hname
      exact .inl hname
    · rw [hspan] at hname hport
      exact .inr ⟨name, port, heq, hname, hlast, isPort_of_port? hport⟩
  | file =>
    simp only [hkind] at hread
    exact .inl (host_of_fileAuthority? hrest hread hhost)
  | other =>
    simp only [hkind] at hread
    rw [isRoot_authority?_other hrest hread] at hroot
    cases hroot

end Portcullis.Url
