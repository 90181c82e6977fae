import Mathlib
import Portcullis.Http.Request
import Portcullis.Proofs.Ulid

/-!
# The id that a caller sends along

A request keeps the id that its caller has sent along, if what has been sent can be read as one. What is then written
for the id need not be what has been sent: the two differ, not only in letter case, exactly if the first digit is none of
`0` to `7`, since an id has no room for such a digit (`Request.caller_id_text_iff`).
-/

namespace Portcullis

namespace Ulid

variable {s : String} {c : Char} {n : Nat} {id : Ulid}

theorem toOption_parse_eq_some_iff : (parse s).toOption = some id ↔ parse s = .ok id := by
  cases parse s <;> simp [Except.toOption]

theorem toLower_digitOf_inj {m : Nat} (hm : m < 32) (hn : n < 32) (h : (digitOf m).toLower = (digitOf n).toLower) :
    m = n := by
  have hall : ∀ i : Fin 32, digitValue? (digitOf i).toLower = some i.val := by decide
  have hsame : some m = some n := by
    rw [← hall ⟨m, hm⟩, ← hall ⟨n, hn⟩, h]
  exact Option.some.inj hsame

theorem octal_eq : "01234567".toList = (List.range 8).map digitOf := by
  decide +kernel

/-- A digit below 8 is written in one way, since it is no letter. -/
theorem lt_eight_iff (h : digitValue? c = some n) : n < 8 ↔ c ∈ "01234567".toList := by
  rw [octal_eq, List.mem_map]
  constructor
  · intro hn
    have hall : ∀ m < 8, (digitOf m).toLower.toNat < 97 ∧ (digitOf m).toLower = digitOf m := by decide
    obtain ⟨hsmall, hsame⟩ := hall n hn
    have hlower : c.toLower = (digitOf n).toLower := by
      rw [← Char.toLower_toUpper_eq_toLower, (digitValue?_eq_some_iff.1 h).2]
    rcases Text.toLower_cases c with hc | ⟨hlow, -, hc⟩
    · exact ⟨n, List.mem_range.2 hn, by rw [← hsame, ← hlower, hc]⟩
    · rw [hlower] at hc
      omega
  · rintro ⟨m, hm, rfl⟩
    rw [List.mem_range] at hm
    rw [digitValue?_digitOf (Nat.lt_trans hm (by decide))] at h
    rwa [← Option.some.inj h]

/-- A text is kept if it is made of 26 digits. -/
theorem isSome_toOption_parse : (parse s).toOption.isSome = true ↔
    s.toList.length = 26 ∧ ∀ c ∈ s.toList, (digitValue? c).isSome = true := by
  rw [Option.isSome_iff_exists]
  simp only [toOption_parse_eq_some_iff, parse_eq_ok_iff]
  constructor
  · rintro ⟨-, values, hlength, hsmall, hdigits, -⟩
    have hsame := congrArg List.length hdigits
    rw [List.length_map, List.length_map, hlength] at hsame
    exact ⟨hsame, fun c hc => Option.isSome_iff_exists.2 (exists_digitValue?_of_mem hdigits hsmall hc)⟩
  · rintro ⟨hlength, hdigits⟩
    have hvalue {c : Char} (hc : c ∈ s.toList) : (digitValue? c).getD 0 < 32 ∧
        c.toUpper = digitOf ((digitValue? c).getD 0) := by
      obtain ⟨v, hv⟩ := Option.isSome_iff_exists.1 (hdigits c hc)
      rw [hv]
      exact digitValue?_eq_some_iff.1 hv
    refine ⟨_, s.toList.map fun c => (digitValue? c).getD 0, by rw [List.length_map, hlength], ?_, ?_, rfl⟩
    · intro v hv
      obtain ⟨c, hc, rfl⟩ := List.mem_map.1 hv
      exact (hvalue hc).1
    · rw [List.map_map]
      exact List.map_congr_left fun c hc => (hvalue hc).2

/-- The text that has been read is that of the id, letter case apart, exactly if the first digit leaves the two highest
bits alone. -/
theorem sameIgnoringCase_text_iff (h : parse s = .ok id) :
    Text.sameIgnoringCase id.text s = true ↔ ∃ c ∈ "01234567".toList, s.toList.head? = some c := by
  obtain ⟨c, cs, n, hs, hc, htext⟩ := toList_text_of_parse h
  obtain ⟨hn, hupper⟩ := digitValue?_eq_some_iff.1 hc
  have hrest : (cs.map Char.toUpper).map Char.toLower = cs.map Char.toLower := by simp
  have hhead : (∃ c ∈ "01234567".toList, s.toList.head? = some c) ↔ n < 8 := by
    rw [lt_eight_iff hc, hs, List.head?_cons]
    simp
  rw [hhead, Text.sameIgnoringCase_iff, htext, hs, List.map_cons, List.map_cons, hrest, List.cons.injEq,
    ← Char.toLower_toUpper_eq_toLower c, hupper]
  constructor
  · rintro ⟨hfirst, -⟩
    have hsame := toLower_digitOf_inj (Nat.lt_trans (Nat.mod_lt n (by decide)) (by decide)) hn hfirst
    rw [← hsame]
    exact Nat.mod_lt n (by decide)
  · intro hlt
    rw [Nat.mod_eq_of_lt hlt]
    exact ⟨rfl, rfl⟩

end Ulid

namespace Request

theorem callerId_withHeader (r : Request) {name : String} (hname : name.toLower = "x-request-id") (value : String) :
    (r.withHeader name value).callerId = (Ulid.parse value).toOption :=
  if_pos hname

/-- Of a text in `x-request-id` the request keeps an id if the text is made of 26 digits. What is then written for the
id is the text in capital letters, but for the first digit, of which three bits are left; so the two are the same, letter
case apart, exactly if the text starts with one of the digits `0` to `7`. -/
theorem caller_id_text_iff (r : Request) {name : String} (hname : name.toLower = "x-request-id") (value : String) :
    ((r.withHeader name value).callerId.isSome = true ↔
        value.toList.length = 26 ∧ ∀ c ∈ value.toList, (Ulid.digitValue? c).isSome = true) ∧
      ∀ id, (r.withHeader name value).callerId = some id →
        (∃ c cs n, value.toList = c :: cs ∧ Ulid.digitValue? c = some n ∧
          id.text.toList = Ulid.digitOf (n % 8) :: cs.map Char.toUpper) ∧
        (Text.sameIgnoringCase id.text value = true ↔ ∃ c ∈ "01234567".toList, value.toList.head? = some c) := by
  rw [callerId_withHeader r hname]
  constructor
  · exact Ulid.isSome_toOption_parse
  · intro id hid
    have hread := Ulid.toOption_parse_eq_some_iff.1 hid
    exact ⟨Ulid.toList_text_of_parse hread, Ulid.sameIgnoringCase_text_iff hread⟩

/-- What is kept of such a text in small letters is the text itself. -/
theorem caller_id_text_of_small_letters :
    ∃ id, ((ofTarget .get "/").withHeader "X-Request-Id" "01arz3ndektsv4rrffq69g5fav").callerId = some id ∧
      Text.sameIgnoringCase id.text "01arz3ndektsv4rrffq69g5fav" = true := by
  have hname : "X-Request-Id".toLower = "x-request-id" := by decide +kernel
  obtain ⟨hkept, hsame⟩ := caller_id_text_iff (ofTarget .get "/") hname "01arz3ndektsv4rrffq69g5fav"
  have hdigits : ("01arz3ndektsv4rrffq69g5fav".toList.all fun c => (Ulid.digitValue? c).isSome) = true := by
    decide +kernel
  obtain ⟨id, hid⟩ := Option.isSome_iff_exists.1 (hkept.2 ⟨by decide +kernel, List.all_eq_true.1 hdigits⟩)
  exact ⟨id, hid, (hsame id hid).2.2 ⟨'0', by decide +kernel, by decide +kernel⟩⟩

/-- An `8` at the front becomes a `0`: what is kept is another id than the one that was sent. -/
theorem caller_id_text_of_eight :
    ∃ id, ((ofTarget .get "/").withHeader "x-request-id" "8ZZZZZZZZZZZZZZZZZZZZZZZZZ").callerId = some id ∧
      id.text = "0ZZZZZZZZZZZZZZZZZZZZZZZZZ" ∧
      Text.sameIgnoringCase id.text "8ZZZZZZZZZZZZZZZZZZZZZZZZZ" = false := by
  have hread : Ulid.parse "8ZZZZZZZZZZZZZZZZZZZZZZZZZ" = .ok ⟨0x1FFFFFFFFFFFFFFFFFFFFFFFFFFFFFFF⟩ := by
    decide +kernel
  have htext : Ulid.text ⟨0x1FFFFFFFFFFFFFFFFFFFFFFFFFFFFFFF⟩ = "0ZZZZZZZZZZZZZZZZZZZZZZZZZ" := by decide +kernel
  refine ⟨_, (callerId_withHeader _ (by decide +kernel) _).trans (Ulid.toOption_parse_eq_some_iff.2 hread), htext, ?_⟩
  rw [htext]
  decide +kernel

end Request

end Portcullis
