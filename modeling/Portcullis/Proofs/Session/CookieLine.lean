import Portcullis.Http.Request
import Portcullis.Proofs.Session.Cookie
import Portcullis.Proofs.Text

/-!
# Lines of cookies

A client keeps the pair of a `set-cookie` field, up to its first `;`, and sends it back in a line with the other cookies
that it has. The reader cuts the line at every `;` and each pair at its first `=`, and trims both halves; so what it
reads are names of one kind only (`Cookie.IsName`).

* `Cookie.isName_of_mem_parseAll`: every name that is read is such a name, whatever the line.
* `Cookie.parseAll_line`, `Cookie.parsePair_write`: a line is read pair by pair, and a pair with such a name as written.
* `Cookie.pair_render`: the pair of a session's cookie.
-/

namespace Portcullis

/-! ## Names and pairs -/

namespace Cookie

/-- A name that the reader finds as it has been written. -/
structure IsName (name : String) : Prop where
  nonempty : name ≠ ""
  trimmed : Text.trimmed name = name
  noEquals : '=' ∉ name.toList
  noSemicolon : ';' ∉ name.toList

instance (name : String) : Decidable (IsName name) :=
  decidable_of_iff (name ≠ "" ∧ Text.trimmed name = name ∧ '=' ∉ name.toList ∧ ';' ∉ name.toList)
    ⟨fun ⟨h, h', h'', h'''⟩ => ⟨h, h', h'', h'''⟩, fun h => ⟨h.nonempty, h.trimmed, h.noEquals, h.noSemicolon⟩⟩

/-- What a client sends back of a `set-cookie` field: the pair before the first `;`. -/
def pair (field : String) : String :=
  String.ofList (Text.upTo ';' field.toList)

/-- A cookie as a client writes it. -/
def write (cookie : String × String) : String :=
  cookie.1 ++ "=" ++ cookie.2

/-- The `cookie` line with these pairs. -/
def line (pairs : List String) : String :=
  "; ".intercalate pairs

/-- A cookie that can be written into a line and read from it. -/
structure WellFormed (cookie : String × String) : Prop where
  isName : IsName cookie.1
  value : ';' ∉ cookie.2.toList

/-! ## Reading -/

/-- A name that is read is trimmed, and there is something left of it. -/
theorem isName_of_parsePair {cs : List Char} {cookie : String × String} (hcs : ';' ∉ cs)
    (h : parsePair cs = some cookie) : IsName cookie.1 := by
  unfold parsePair at h
  cases hcut : Text.cut '=' cs with
  | none => simp [hcut] at h
  | some halves =>
    obtain ⟨name, value⟩ := halves
    simp only [hcut] at h
    split at h
    · cases h
    · rename_i hempty
      cases h
      obtain ⟨hname, rfl⟩ := Text.cut_eq_some_iff.1 hcut
      refine ⟨?_, ?_, ?_, ?_⟩
      · intro he
        apply hempty
        rw [← String.toList_inj, String.toList_ofList] at he
        simp [he]
      · rw [Text.trimmed, String.toList_ofList, Text.trim_trim]
      · rw [String.toList_ofList]
        exact fun hc => hname (Text.mem_of_mem_trim hc)
      · rw [String.toList_ofList]
        exact fun hc => hcs (List.mem_append_left _ (Text.mem_of_mem_trim hc))

theorem isName_of_mem_parseAll {s : String} {cookie : String × String} (h : cookie ∈ parseAll s) : IsName cookie.1 := by
  obtain ⟨part, hpart, hparse⟩ := List.mem_filterMap.1 h
  exact isName_of_parsePair (Text.not_mem_of_mem_splitOn hpart) hparse

/-- A pair is read as it has been written, its value trimmed. -/
theorem parsePair_write {name : String} (h : IsName name) (value : String) :
    parsePair (write (name, value)).toList = some (name, Text.trimmed value) := by
  have hwrite : (write (name, value)).toList = name.toList ++ '=' :: value.toList := by
    simp [write]
  have htrim : Text.trim name.toList = name.toList := by
    rw [← String.toList_ofList (l := Text.trim name.toList)]
    exact congrArg String.toList h.trimmed
  have hempty : name.toList.isEmpty = false := by
    rw [List.isEmpty_eq_false_iff]
    intro he
    exact h.nonempty (String.toList_inj.1 (by simpa using he))
  rw [parsePair, hwrite, Text.cut_append h.noEquals]
  simp only [htrim, hempty, Bool.false_eq_true, if_false, String.ofList_toList]
  rfl

/-- A blank before a pair does not matter. -/
theorem parsePair_blank_cons (cs : List Char) : parsePair (' ' :: cs) = parsePair cs := by
  have hblank : Text.isBlank ' ' = true := by decide
  unfold parsePair
  rw [Text.cut, if_neg (by decide)]
  cases Text.cut '=' cs with
  | none => rfl
  | some halves => simp only [Option.map_some, Text.trim_blank_cons hblank]

/-- Nor does one before a line. -/
theorem filterMap_parsePair_blank_cons (cs : List Char) :
    ((' ' :: cs).splitOn ';').filterMap parsePair = (cs.splitOn ';').filterMap parsePair := by
  rw [List.splitOn_cons_eq_if_modifyHead, if_neg (by decide)]
  obtain ⟨first, rest, hsplit⟩ := List.exists_cons_of_ne_nil (List.splitOn_ne_nil ';' cs)
  rw [hsplit, List.modifyHead_cons, List.filterMap_cons, List.filterMap_cons, parsePair_blank_cons]

/-- A line is read pair by pair. -/
theorem parseAll_line {pairs : List String} (h : ∀ p ∈ pairs, ';' ∉ p.toList) :
    parseAll (line pairs) = pairs.filterMap fun p => parsePair p.toList := by
  induction pairs with
  | nil => rfl
  | cons first rest ih =>
    rw [List.forall_mem_cons] at h
    cases rest with
    | nil =>
      rw [line, String.intercalate_singleton, parseAll, List.splitOn_eq_singleton h.1]
      rfl
    | cons second rest =>
      have hline : (line (first :: second :: rest)).toList =
          first.toList ++ ';' :: ' ' :: (line (second :: rest)).toList := by
        simp [line, String.intercalate_cons_cons]
      rw [parseAll, hline, List.splitOn_append_cons_self_of_not_mem h.1, List.filterMap_cons,
        filterMap_parsePair_blank_cons, List.filterMap_cons, ← ih h.2, parseAll]

/-- The cookies of a line that are well-formed are read as they are written, their values trimmed. -/
theorem filterMap_parsePair_write {cookies : List (String × String)} (h : ∀ cookie ∈ cookies, WellFormed cookie) :
    (cookies.map write).filterMap (fun p => parsePair p.toList) =
      cookies.map fun cookie => (cookie.1, Text.trimmed cookie.2) := by
  induction cookies with
  | nil => rfl
  | cons cookie rest ih =>
    rw [List.forall_mem_cons] at h
    rw [List.map_cons, List.filterMap_cons, parsePair_write h.1.isName, ih h.2, List.map_cons]

/-- Among cookies of other names there is none of this name. -/
theorem lookup_written {name : String} {cookies : List (String × String)} (h : ∀ cookie ∈ cookies, cookie.1 ≠ name) :
    (cookies.map fun cookie => (cookie.1, Text.trimmed cookie.2)).lookup name = none := by
  rw [List.lookup_eq_none_iff]
  intro cookie hcookie
  obtain ⟨other, hother, rfl⟩ := List.mem_map.1 hcookie
  simpa using Ne.symm (h other hother)

theorem not_mem_write {cookie : String × String} (h : WellFormed cookie) : ';' ∉ (write cookie).toList := by
  simp [write, h.isName.noSemicolon, h.value]

/-! ## The pair of the session -/

/-- The pair of a session's cookie is the cookie's name and the id. -/
theorem pair_render {name : String} (h : IsName name) (id : SessionId) :
    pair (render name id.text) = write (name, id.text) := by
  have hid : ';' ∉ id.text.toList := fun hc => (Ulid.plain_of_mem_text hc).2.1 rfl
  have hrender : (render name id.text).toList =
      (write (name, id.text)).toList ++ ';' :: " Path=/; HttpOnly".toList := by
    simp [render, write]
  have hwrite : ';' ∉ (write (name, id.text)).toList := not_mem_write ⟨h, hid⟩
  rw [pair, hrender, Text.upTo_append_cons hwrite, String.ofList_toList]

end Cookie

end Portcullis
