import Portcullis.Proofs.Cors.Credentials
import Portcullis.Proofs.Vary

/-!
# The header fields of an allowed answer

What is decided about a request that is allowed is the grant of one policy, told in one of two forms
(`exists_granted_of_decide`). Either form names no field twice, so that every field is there once, with its value
(`getAll_of_decide`); and of what the answer varies with, it knows the origin only (`eq_origin_of_decide`).
-/

namespace Portcullis.Cors

variable {source : Source} {policy : Policy} {answer : String} {requested : Option String} {r : Request}
  {headers : Headers} {preflight : Bool}

/-- Whoever is allowed has been granted it, and is told so in the form that fits. -/
theorem exists_granted_of_decide (h : decide source r = .allow headers preflight) : ∃ m policy answer,
    r.isPreflight = preflight ∧ r.corsMethod? = some m ∧ policy.allowsMethod m = true ∧
      (if preflight then (Verdict.granted policy answer).announced (r.header? "access-control-request-headers")
        else (Verdict.granted policy answer).actual) = .allow headers preflight := by
  have hpreflight : preflight = r.isPreflight := isPreflight_of_decide (by rw [h]; rfl : _ = some preflight)
  obtain ⟨origin, m, -, horigin, hforeign, hmethod, -⟩ := speaksFor_of_decide h
  rw [decide_of_foreign horigin hforeign, hmethod] at h
  simp only [← hpreflight] at h
  cases hverdict : verdict source origin m r.path
  case granted policy answer =>
    rw [hverdict] at h
    exact ⟨m, policy, answer, hpreflight.symm, hmethod, (verdict_eq_granted_iff.1 hverdict).2.2.1, h⟩
  all_goals
    rw [hverdict] at h
    split at h <;> cases h

/-! ## No field is named twice -/

theorem names_pairwise : (readerNames ++ detailNames).Pairwise (Text.sameIgnoringCase · · = false) := by
  refine List.pairwise_append.2 ⟨readerNames_pairwise, ?_, fun name hname detail hdetail => ?_⟩
  · simp only [Text.sameIgnoringCase_eq]
    decide
  · rw [Text.sameIgnoringCase_comm]
    exact detailNames_ne_readerNames name hname detail hdetail

/-- Every field of a preflight's answer is there once. -/
theorem getAll_preflightHeaders {field : String × String} (hfield : field ∈ preflightHeaders policy answer requested) :
    (preflightHeaders policy answer requested).getAll field.1 = [field.2] := by
  refine Headers.getAll_of_pairwise (names_pairwise.sublist ?_) hfield
  by_cases hanswer : answer = "*" <;> by_cases hheaders : headerAnswer policy requested = "" <;>
    cases hcredentials : policy.credentials <;> cases hage : policy.maxAge <;>
    simp [preflightHeaders, commonHeaders, readerNames, detailNames, hanswer, hheaders, hcredentials, hage]

/-- Every field of any other answer is there once. -/
theorem getAll_of_actual (h : (Verdict.granted policy answer).actual = .allow headers preflight)
    {field : String × String} (hfield : field ∈ headers) : headers.getAll field.1 = [field.2] := by
  cases h
  refine Headers.getAll_of_pairwise (names_pairwise.sublist ?_) hfield
  by_cases hanswer : answer = "*" <;> cases hcredentials : policy.credentials <;> cases policy.exposed.isEmpty <;>
    simp [commonHeaders, readerNames, detailNames, hanswer, hcredentials]

theorem getAll_of_decide (h : decide source r = .allow headers preflight) {field : String × String}
    (hfield : field ∈ headers) : headers.getAll field.1 = [field.2] := by
  obtain ⟨m, policy, answer, -, -, -, htold⟩ := exists_granted_of_decide h
  split at htold
  case isTrue =>
    rw [Verdict.announced] at htold
    split at htold
    · cases htold
    · cases htold
      exact getAll_preflightHeaders hfield
  case isFalse => exact getAll_of_actual htold hfield

/-- What the answer is said to vary with is the origin. -/
theorem eq_origin_of_decide (h : decide source r = .allow headers preflight) :
    ∀ field ∈ headers, Headers.named "vary" field = true → field.2 = "Origin" := by
  intro field hfield hvary
  obtain ⟨policy, answer, -, hspeaks⟩ := granted_of_decide h
  have hvalue : field.2 ∈ headers.getAll "vary" := List.mem_map_of_mem (List.mem_filter.2 ⟨hfield, hvary⟩)
  rw [hspeaks.getAll_reader (by simp [readerNames]), getAll_vary] at hvalue
  split at hvalue
  · cases hvalue
  · exact List.mem_singleton.1 hvalue

end Portcullis.Cors
