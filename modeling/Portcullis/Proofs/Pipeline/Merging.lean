import Portcullis.Proofs.Cors.Fields
import Portcullis.Proofs.Pipeline.Readers

/-!
# Answers that the headers of a decision are put into

The stage for other origins puts the headers of its decision into the answer that comes back from ahead. It does so one
by one, and each step leaves everything else as it is: the fields of other names (`Stage.besides_mergeHeaders`), and the
`vary` list but for the token that is added (`Stage.mem_varyTokens_mergeHeaders`). Since a decision names no field twice
(`Cors.getAll_of_decide`), all of it is in the answer at the end (`Stage.cors_merges`).
-/

namespace Portcullis

namespace Stage

variable {headers : Headers} {names : List String} {token part : String}

/-- What no step changes is as it was at the end. -/
theorem mergeHeaders_keeps {α : Type} (f : Response → α)
    (hstep : ∀ r, ∀ field ∈ headers, f (mergeHeader r field) = f r) (r : Response) :
    f (mergeHeaders r headers) = f r := by
  induction headers generalizing r with
  | nil => rfl
  | cons field rest ih =>
    have hrest := ih (fun r other hother => hstep r other (List.mem_cons_of_mem _ hother)) (mergeHeader r field)
    rw [mergeHeaders, List.foldl_cons, ← mergeHeaders, hrest]
    exact hstep r field List.mem_cons_self

theorem besides_mergeHeader (hvary : "vary" ∈ names) {field : String × String} (hname : field.1 ∈ names)
    (r : Response) : (mergeHeader r field).headers.besides names = r.headers.besides names := by
  rw [mergeHeader]
  split
  · exact Headers.besides_addVary hvary _ _
  · exact Headers.besides_set hname _ _

/-- The fields of other names stay as they are, in their order. -/
theorem besides_mergeHeaders (hvary : "vary" ∈ names) (hnames : ∀ field ∈ headers, field.1 ∈ names) (r : Response) :
    (mergeHeaders r headers).headers.besides names = r.headers.besides names := by
  refine mergeHeaders_keeps (·.headers.besides names) (fun r field hfield => ?_) r
  exact besides_mergeHeader hvary (hnames field hfield) r

theorem mergeHeaders_body (r : Response) (headers : Headers) : (mergeHeaders r headers).body = r.body := by
  refine mergeHeaders_keeps (·.body) (fun r field _ => ?_) r
  rw [mergeHeader]
  split <;> rfl

/-- A field of another name is none of the list's business. -/
theorem getAll_vary_mergeHeader {field : String × String} (hfield : Headers.named "vary" field = false) (r : Response) :
    (mergeHeader r field).headers.getAll "vary" = r.headers.getAll "vary" := by
  rw [mergeHeader, hfield, if_neg Bool.false_ne_true, Response.setHeader, Headers.getAll_set_of_ne]
  rwa [Text.sameIgnoringCase_comm]

/-- The `vary` list grows by the token, if it is among the headers and the list does not say so already. Merged a second
time, the token finds itself listed. -/
theorem mem_varyTokens_mergeHeaders (htoken : Text.IsPart token) (hempty : token ≠ "")
    (hvalues : ∀ field ∈ headers, Headers.named "vary" field = true → field.2 = token) (r : Response) :
    part ∈ (mergeHeaders r headers).headers.varyTokens ↔ part ∈ r.headers.varyTokens ∨
      headers.has "vary" = true ∧ ¬r.headers.VariesWith token ∧ part = token := by
  induction headers generalizing r with
  | nil => simp [mergeHeaders, Headers.has, Headers.get?]
  | cons field rest ih =>
    rw [List.forall_mem_cons] at hvalues
    rw [mergeHeaders, List.foldl_cons, ← mergeHeaders, ih hvalues.2]
    cases hfield : Headers.named "vary" field with
    | false =>
      have hsame := getAll_vary_mergeHeader hfield r
      have hhas : Headers.has (field :: rest) "vary" = Headers.has rest "vary" := by
        simp [Headers.has, Headers.get?, hfield]
      rw [Headers.varyTokens, Headers.VariesWith, Headers.varyParts, hsame, hhas]
      rfl
    | true =>
      have hhas : Headers.has (field :: rest) "vary" = true := by simp [Headers.has, Headers.get?, hfield]
      have hmerged : (mergeHeader r field).headers = r.headers.addVary token := by
        rw [mergeHeader, if_pos hfield, hvalues.1 hfield]
        rfl
      have hvaries : (r.headers.addVary token).VariesWith token := Headers.variesWith_addVary htoken hempty r.headers
      rw [hmerged, Headers.mem_varyTokens_addVary htoken hempty, hhas]
      simp [hvaries]

/-- The answer to an actual request that is allowed comes back with every header of the decision as it has been decided,
once; with all fields of other names as they have been, in their order; with a `vary` list that has grown by the origin
at most, namely where the decision says so and the list has not; and with its status and body. -/
theorem cors_merges {σ : Type} [Clocked σ] {source : Cors.Source} (reject : RejectPolicy) (rest : Ahead σ)
    (p : Passage σ) {q : Passage σ} {response : Response}
    (hallowed : Cors.decide source p.exchange.request = .allow headers false)
    (hrest : rest.run { p with exchange := { p.exchange with decision := some (.allow headers false) } } =
      (.ok response, q)) :
    ∃ merged, (Stage.cors source reject).run rest p = (.ok merged, q) ∧
      (∀ field ∈ headers, Headers.named "vary" field = false → merged.headers.getAll field.1 = [field.2]) ∧
      merged.headers.besides ("vary" :: headers.map Prod.fst) =
        response.headers.besides ("vary" :: headers.map Prod.fst) ∧
      (∀ token, token ∈ merged.headers.varyTokens ↔ token ∈ response.headers.varyTokens ∨
        headers.has "vary" = true ∧ ¬response.headers.VariesWith "Origin" ∧ token = "Origin") ∧
      merged.status = response.status ∧ merged.body = response.body := by
  refine ⟨mergeHeaders response headers, ?_, fun field hfield hother => ?_, ?_, fun token => ?_,
    mergeHeaders_status response headers, mergeHeaders_body response headers⟩
  · rw [run, runCors]
    simp [Flow.request, Flow.update, hallowed, follow, hrest, Except.map]
  · have hvary : Text.sameIgnoringCase field.1 "vary" = false := hother
    rw [getAll_mergeHeaders hvary, Cors.getAll_of_decide hallowed hfield]
    rfl
  · refine besides_mergeHeaders List.mem_cons_self (fun field hfield => ?_) response
    exact List.mem_cons_of_mem _ (List.mem_map_of_mem hfield)
  · have horigin : Text.IsPart "Origin" := ⟨by decide +kernel, by decide⟩
    exact mem_varyTokens_mergeHeaders horigin (by decide) (Cors.eq_origin_of_decide hallowed) response

/-- Pages of the shop may read, with credentials. -/
def shopPolicy : Cors.Policy where
  origins := .exact ["https://shop.example"]
  methods := [.get]
  headers := []
  exposed := ["x-total"]
  credentials := true
  maxAge := none

/-- The policy holds for all paths. -/
def shopSource : Cors.Source :=
  .paths ⟨[(⟨"/**", [.anyDepth]⟩, shopPolicy)]⟩

/-- What the answer is to carry. -/
def shopHeaders : Headers :=
  [("access-control-allow-origin", "https://shop.example"), ("access-control-allow-credentials", "true"),
    ("vary", "Origin"), ("access-control-expose-headers", "x-total")]

/-- What comes back from ahead. -/
def shopResponse : Response where
  status := 200
  headers := [("Vary", "Accept"), ("access-control-allow-origin", "*"), ("x-part", "1"), ("vary", ""), ("x-part", "2")]

theorem decide_foreignGet : Cors.decide shopSource Cors.foreignGet = .allow shopHeaders false := by
  have horigin : Cors.foreignGet.origin? = some "https://shop.example" := by decide +kernel
  have hhost : Cors.foreignGet.header? "host" = none := by decide +kernel
  have hforeign : Cors.isSameOrigin Cors.foreignGet "https://shop.example" = false := by rw [Cors.isSameOrigin, hhost]
  have hactual : Cors.foreignGet.isPreflight = false := by decide
  have hgranted : Cors.verdict shopSource "https://shop.example" .get "/" =
      .granted shopPolicy "https://shop.example" :=
    Cors.verdict_eq_granted_iff.2 ⟨rfl, by decide +kernel, by decide +kernel, rfl⟩
  rw [Cors.decide_of_foreign horigin hforeign, Request.corsMethod?, hactual, if_neg Bool.false_ne_true]
  show (Cors.verdict shopSource "https://shop.example" .get "/").actual = _
  rw [hgranted]
  rfl

theorem named_shopResponse : (∀ name ∈ ["x-part", "access-control-allow-origin"],
      Text.sameIgnoringCase name "vary" = false) ∧ Text.sameIgnoringCase "Vary" "vary" = true ∧
    ∀ name ∈ "vary" :: shopHeaders.map Prod.fst, Text.sameIgnoringCase "x-part" name = false := by
  refine ⟨by decide +kernel, ?_, by decide +kernel⟩
  rw [Text.sameIgnoringCase_iff]
  decide

theorem varyTokens_shopResponse : shopResponse.headers.varyTokens = ["Accept"] ∧
    ¬shopResponse.headers.VariesWith "Origin" := by
  obtain ⟨hother, hvary, -⟩ := named_shopResponse
  simp only [List.forall_mem_cons] at hother
  have hall : shopResponse.headers.getAll "vary" = ["Accept", ""] := by
    simp [shopResponse, Headers.getAll_cons, Headers.named, hother, hvary, Text.sameIgnoringCase_self]
  have hparts : shopResponse.headers.varyParts = ["Accept", ""] := by
    rw [Headers.varyParts, hall]
    decide
  refine ⟨?_, ?_⟩
  · rw [Headers.varyTokens, hall]
    decide
  · simp only [Headers.VariesWith, hparts, Text.sameIgnoringCase_iff]
    decide

theorem besides_shopResponse : shopResponse.headers.besides ("vary" :: shopHeaders.map Prod.fst) =
    [("x-part", "1"), ("x-part", "2")] := by
  obtain ⟨hother, hvary, hpart⟩ := named_shopResponse
  simp only [shopHeaders, List.map_cons, List.map_nil, List.forall_mem_cons] at hother hpart
  simp [shopResponse, shopHeaders, Headers.besides, Headers.named, hother, hvary, hpart, Text.sameIgnoringCase_self]

/-- The answer names the shop's origin in place of all, keeps both of the other fields, and varies with the origin
besides. -/
theorem cors_merges_for_shop : Cors.decide shopSource Cors.foreignGet = .allow shopHeaders false ∧
    ∃ merged q, (Stage.cors shopSource .forbid).run (.answering shopResponse) (.arriving Cors.foreignGet) =
        (.ok merged, q) ∧
      merged.headers.getAll "access-control-allow-origin" = ["https://shop.example"] ∧
      merged.headers.besides ("vary" :: shopHeaders.map Prod.fst) = [("x-part", "1"), ("x-part", "2")] ∧
      (∀ token, token ∈ merged.headers.varyTokens ↔ token = "Accept" ∨ token = "Origin") ∧ merged.status = 200 := by
  obtain ⟨merged, hrun, honce, hbesides, htokens, hstatus, -⟩ :=
    cors_merges .forbid (.answering shopResponse) (.arriving Cors.foreignGet) decide_foreignGet rfl
  refine ⟨decide_foreignGet, merged, _, hrun, ?_, hbesides.trans besides_shopResponse, fun token => ?_, hstatus⟩
  · have hother := named_shopResponse.1 "access-control-allow-origin" (by simp)
    exact honce ("access-control-allow-origin", "https://shop.example") List.mem_cons_self hother
  · have hhas : shopHeaders.has "vary" = true := by decide +kernel
    rw [htokens, varyTokens_shopResponse.1]
    simp [hhas, varyTokens_shopResponse.2]

end Stage

end Portcullis
