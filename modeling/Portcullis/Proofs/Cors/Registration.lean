import Mathlib.Data.List.Nodup
import Portcullis.Cors.Source
import Portcullis.Proofs.PathPattern.Everything
import Portcullis.Proofs.PathPattern.Plain

/-!
# Registering policies

Policies are registered by calls, some of which may fail (`PathTable.after`). What a table answers afterwards goes by
what was registered, and not by how the table keeps it: the patterns in the order in which they were registered first
(`PathTable.patterns`), and under each of them the policy that was registered last (`PathTable.latest?`).

* `PathTable.map_after`, `PathTable.latest?_of_mem_after`: what the table has.
* `PathTable.find?_after_eq_some_iff`, `PathTable.find?_after_eq_none_iff`: what it answers.
* `PathTable.registered_and_found`: both, with what a call answers.
-/

namespace Portcullis.Cors.PathTable

open PathPattern (parse everything Chosen Plain)

/-! ## Histories -/

/-- A call: the text of a pattern, and a policy. -/
abbrev Call := String × Policy

/-- The table after a call. One that fails leaves it as it is. -/
def take (t : PathTable) (call : Call) : PathTable :=
  match t.register call.1 call.2 with
  | .ok t' => t'
  | .error _ => t

/-- A new table after some calls. -/
def after (calls : List Call) : PathTable :=
  calls.foldl take {}

/-- What is registered by a call whose text is a pattern. -/
def Call.read? (call : Call) : Option (PathPattern × Policy) :=
  (parse call.1).toOption.map fun p => (p, call.2)

/-- What was registered, call by call. -/
def registered (calls : List Call) : List (PathPattern × Policy) :=
  calls.filterMap Call.read?

section

variable (history : List (PathPattern × Policy))

/-- The patterns, in the order in which they were registered first. -/
def patterns : List PathPattern :=
  (history.map (·.1)).eraseDups

/-- The policy that was registered last under a pattern. -/
def latest? (p : PathPattern) : Option Policy :=
  history.reverse.lookup p

/-- What a table keeps of it. -/
def kept : List (PathPattern × Policy) :=
  history.foldl (fun entries e => put e.1 e.2 entries) []

end

variable {history earlier later : List (PathPattern × Policy)} {entry : PathPattern × Policy} {p : PathPattern}
  {policy : Policy} {entries : List (PathPattern × Policy)} {calls : List Call} {text path : String}

/-! ## Calls -/

theorem Call.read?_of_ok {call : Call} (h : parse call.1 = .ok p) : call.read? = some (p, call.2) := by
  rw [read?, h]
  rfl

theorem Call.read?_of_error {call : Call} {fault : PathPattern.Fault} (h : parse call.1 = .error fault) :
    call.read? = none := by
  rw [read?, h]
  rfl

theorem register_of_ok (h : parse text = .ok p) (t : PathTable) (policy : Policy) :
    t.register text policy = .ok ⟨put p policy t.entries⟩ := by
  rw [register, PathPattern.ofSetting, h]
  rfl

theorem register_of_error {fault : PathPattern.Fault} (h : parse text = .error fault) (t : PathTable)
    (policy : Policy) : t.register text policy = .error (.invalidPathPattern text fault) := by
  rw [register, PathPattern.ofSetting, h]
  rfl

theorem after_concat (calls : List Call) (call : Call) : after (calls ++ [call]) = (after calls).take call := by
  rw [after, List.foldl_concat]
  rfl

theorem registered_append (calls calls' : List Call) :
    registered (calls ++ calls') = registered calls ++ registered calls' :=
  List.filterMap_append

theorem kept_concat (history : List (PathPattern × Policy)) (entry : PathPattern × Policy) :
    kept (history ++ [entry]) = put entry.1 entry.2 (kept history) :=
  List.foldl_concat ..

/-- Of the calls, those that fail leave nothing behind. -/
theorem entries_after (calls : List Call) : (after calls).entries = kept (registered calls) := by
  induction calls using List.reverseRecOn with
  | nil => rfl
  | append_singleton calls call ih =>
    rw [after_concat, registered_append, take]
    cases hread : parse call.1 with
    | ok p =>
      have hcall : registered [call] = [(p, call.2)] := by simp [registered, Call.read?_of_ok hread]
      rw [register_of_ok hread, hcall, kept_concat, ← ih]
    | error fault =>
      have hcall : registered [call] = [] := by simp [registered, Call.read?_of_error hread]
      rw [register_of_error hread, hcall, List.append_nil, ← ih]

theorem exists_of_mem_registered (h : entry ∈ registered calls) : ∃ call ∈ calls, parse call.1 = .ok entry.1 := by
  obtain ⟨call, hcall, hread⟩ := List.mem_filterMap.1 h
  refine ⟨call, hcall, ?_⟩
  cases hparse : parse call.1 with
  | error fault => simp [Call.read?_of_error hparse] at hread
  | ok p =>
    rw [Call.read?_of_ok hparse] at hread
    cases hread
    rfl

theorem isRead_of_mem_registered (h : entry ∈ registered calls) : entry.1.IsRead :=
  have ⟨_, _, hparse⟩ := exists_of_mem_registered h
  PathPattern.isRead_of_parse hparse

/-! ## What is kept -/

theorem patterns_concat (history : List (PathPattern × Policy)) (entry : PathPattern × Policy) :
    patterns (history ++ [entry]) =
      if entry.1 ∈ patterns history then patterns history else patterns history ++ [entry.1] := by
  rw [patterns, List.map_append, List.eraseDups_append, ← patterns, List.map_singleton, List.removeAll,
    List.filter_singleton, patterns]
  by_cases h : entry.1 ∈ history.map (·.1)
  · simp [h]
  · simp [h, List.eraseDups_cons]

theorem latest?_concat (history : List (PathPattern × Policy)) (entry : PathPattern × Policy) (p : PathPattern) :
    latest? (history ++ [entry]) p = if p = entry.1 then some entry.2 else latest? history p := by
  obtain ⟨q, policy⟩ := entry
  rw [latest?, List.reverse_append, List.reverse_singleton, List.singleton_append, List.lookup_cons]
  split
  case h_1 heq => rw [if_pos (beq_iff_eq.1 heq)]
  case h_2 hne => rw [if_neg (beq_eq_false_iff_ne.1 hne), latest?]

theorem latest?_of_last (h : ∀ e ∈ later, e.1 ≠ p) : latest? (earlier ++ (p, policy) :: later) p = some policy := by
  induction later using List.reverseRecOn with
  | nil => rw [latest?_concat, if_pos rfl]
  | append_singleton later last ih =>
    rw [List.forall_mem_append, List.forall_mem_singleton] at h
    rw [← List.cons_append, ← List.append_assoc, latest?_concat, if_neg h.2.symm, ih h.1]

/-- A pattern keeps its place, or takes one behind all others. -/
theorem map_put (hp : p.IsRead) (hread : ∀ e ∈ entries, e.1.IsRead) : (put p policy entries).map (·.1) =
    if p ∈ entries.map (·.1) then entries.map (·.1) else entries.map (·.1) ++ [p] := by
  induction entries with
  | nil => rfl
  | cons e entries ih =>
    rw [List.forall_mem_cons] at hread
    rw [put]
    by_cases htext : e.1.text = p.text
    · simp [hread.1.eq_of_text hp htext]
    · have hne : p ≠ e.1 := fun h => htext (congrArg PathPattern.text h.symm)
      rw [if_neg htext, List.map_cons, ih hread.2]
      simp only [List.map_cons, List.mem_cons, hne, false_or]
      split <;> rfl

/-- Where no pattern is there twice, a policy that was there before is gone. -/
theorem eq_or_mem_of_mem_put (hp : p.IsRead) (hread : ∀ e ∈ entries, e.1.IsRead) (hnodup : (entries.map (·.1)).Nodup)
    (h : entry ∈ put p policy entries) : entry = (p, policy) ∨ entry.1 ≠ p ∧ entry ∈ entries := by
  induction entries with
  | nil => exact .inl (List.mem_singleton.1 h)
  | cons e entries ih =>
    rw [List.forall_mem_cons] at hread
    rw [List.map_cons, List.nodup_cons] at hnodup
    rw [put] at h
    split at h
    case isTrue htext =>
      obtain rfl : e.1 = p := hread.1.eq_of_text hp htext
      rcases List.mem_cons.1 h with rfl | hmem
      · exact .inl rfl
      · refine .inr ⟨fun heq => hnodup.1 ?_, List.mem_cons_of_mem _ hmem⟩
        exact List.mem_map.2 ⟨entry, hmem, heq⟩
    case isFalse hne =>
      rcases List.mem_cons.1 h with rfl | hmem
      · exact .inr ⟨fun heq => hne (congrArg PathPattern.text heq), List.mem_cons_self⟩
      · exact (ih hread.2 hnodup.2 hmem).imp_right fun hold => ⟨hold.1, List.mem_cons_of_mem _ hold.2⟩

theorem isRead_of_mem_patterns (hread : ∀ e ∈ history, e.1.IsRead) (h : p ∈ patterns history) : p.IsRead := by
  obtain ⟨e, he, rfl⟩ := List.mem_map.1 (List.mem_eraseDups.1 h)
  exact hread e he

theorem nodup_patterns (history : List (PathPattern × Policy)) : (patterns history).Nodup := by
  induction history using List.reverseRecOn with
  | nil => exact List.nodup_nil
  | append_singleton history entry ih =>
    rw [patterns_concat]
    split
    case isTrue => exact ih
    case isFalse hnew => simpa using List.Nodup.concat hnew ih

/-- What is kept, is kept under the patterns in the order in which they were registered first. -/
theorem map_kept (hread : ∀ e ∈ history, e.1.IsRead) : (kept history).map (·.1) = patterns history := by
  induction history using List.reverseRecOn with
  | nil => rfl
  | append_singleton history entry ih =>
    rw [List.forall_mem_append, List.forall_mem_singleton] at hread
    have ih := ih hread.1
    have hkept : ∀ e ∈ kept history, e.1.IsRead := fun e he =>
      isRead_of_mem_patterns hread.1 (ih ▸ List.mem_map_of_mem he)
    rw [kept_concat, map_put hread.2 hkept, ih, patterns_concat]

theorem isRead_of_mem_kept (hread : ∀ e ∈ history, e.1.IsRead) (h : entry ∈ kept history) : entry.1.IsRead :=
  isRead_of_mem_patterns hread (map_kept hread ▸ List.mem_map_of_mem h)

/-- Under each pattern the policy is kept that was registered last. -/
theorem latest?_of_mem_kept (hread : ∀ e ∈ history, e.1.IsRead) (h : entry ∈ kept history) :
    latest? history entry.1 = some entry.2 := by
  induction history using List.reverseRecOn generalizing entry with
  | nil => cases h
  | append_singleton history last ih =>
    rw [List.forall_mem_append, List.forall_mem_singleton] at hread
    have hnodup : ((kept history).map (·.1)).Nodup := map_kept hread.1 ▸ nodup_patterns history
    rw [kept_concat] at h
    rw [latest?_concat]
    rcases eq_or_mem_of_mem_put hread.2 (fun e => isRead_of_mem_kept hread.1) hnodup h with rfl | ⟨hne, hold⟩
    · rw [if_pos rfl]
    · rw [if_neg hne]
      exact ih hread.1 hold

/-! ## Tables -/

/-- A table has the patterns in the order in which they were registered first. -/
theorem map_after (calls : List Call) : (after calls).entries.map (·.1) = patterns (registered calls) := by
  rw [entries_after, map_kept fun e => isRead_of_mem_registered]

theorem isRead_of_mem_after (h : entry ∈ (after calls).entries) : entry.1.IsRead := by
  rw [entries_after] at h
  exact isRead_of_mem_kept (fun e => isRead_of_mem_registered) h

theorem latest?_of_mem_after (h : entry ∈ (after calls).entries) :
    latest? (registered calls) entry.1 = some entry.2 := by
  rw [entries_after] at h
  exact latest?_of_mem_kept (fun e => isRead_of_mem_registered) h

/-- No text is there twice. -/
theorem nodup_after (calls : List Call) : ((after calls).entries.map (·.1.text)).Nodup := by
  have hnodup : ((after calls).entries.map (·.1)).Nodup := map_after calls ▸ nodup_patterns _
  rw [show (fun e : PathPattern × Policy => e.1.text) = PathPattern.text ∘ Prod.fst from rfl, ← List.map_map]
  refine hnodup.map_on fun p hp q hq htext => ?_
  obtain ⟨e, he, rfl⟩ := List.mem_map.1 hp
  obtain ⟨e', he', rfl⟩ := List.mem_map.1 hq
  exact (isRead_of_mem_after he).eq_of_text (isRead_of_mem_after he') htext

/-! ## Answers -/

theorem find?_after_eq_none_iff :
    (after calls).find? path = none ↔ ∀ p ∈ patterns (registered calls), p.covers path = false := by
  rw [find?, Option.map_eq_none_iff, PathPattern.mostSpecific_eq_none_iff, ← map_after, List.forall_mem_map]

/-- The answer is the policy registered last under the pattern that is chosen. -/
theorem find?_after_eq_some_iff : (after calls).find? path = some policy ↔ ∃ earlier p later,
    patterns (registered calls) = earlier ++ p :: later ∧ Chosen path earlier p later ∧
      latest? (registered calls) p = some policy := by
  simp only [find?, Option.map_eq_some_iff, PathPattern.mostSpecific_eq_some_iff, ← map_after]
  constructor
  · rintro ⟨entry, ⟨earlier, later, hentries, hchosen⟩, rfl⟩
    refine ⟨_, _, _, by rw [hentries, List.map_append, List.map_cons], hchosen, ?_⟩
    exact latest?_of_mem_after (by simp [hentries])
  · rintro ⟨_, p, _, hpatterns, hchosen, hlatest⟩
    obtain ⟨earlier, rest, hentries, rfl, hrest⟩ := List.map_eq_append_iff.1 hpatterns
    obtain ⟨entry, later, rfl, rfl, rfl⟩ := List.map_eq_cons_iff.1 hrest
    refine ⟨entry, ⟨earlier, later, hentries, hchosen⟩, ?_⟩
    rw [latest?_of_mem_after (by simp [hentries])] at hlatest
    exact Option.some.inj hlatest

/-- What is registered last under a path that has no wildcards, is the answer for that path. -/
theorem find?_after_of_plain {before behind : List Call} (hlast : ∀ call ∈ behind, call.1 ≠ path)
    (hhead : path.toList.head? = some '/') (hplain : Plain path.toList) :
    (after (before ++ (path, policy) :: behind)).find? path = some policy := by
  obtain ⟨p, hparse⟩ := PathPattern.exists_parse_of_plain hhead hplain
  have htext : p.text = path := PathPattern.text_of_parse hparse
  have hhistory : registered (before ++ (path, policy) :: behind) =
      registered before ++ (p, policy) :: registered behind := by
    rw [registered_append, registered, registered, List.filterMap_cons_some (Call.read?_of_ok hparse)]
    rfl
  have hlatest : latest? (registered (before ++ (path, policy) :: behind)) p = some policy := by
    rw [hhistory]
    refine latest?_of_last fun e he heq => ?_
    obtain ⟨call, hcall, hread⟩ := exists_of_mem_registered he
    exact hlast call hcall (by rw [← PathPattern.text_of_parse hread, heq, htext])
  obtain ⟨entry, hentry, rfl⟩ : ∃ entry ∈ (after (before ++ (path, policy) :: behind)).entries, entry.1 = p := by
    rw [← List.mem_map, map_after, patterns, List.mem_eraseDups, hhistory]
    simp
  obtain ⟨picked, hpick, hpicked⟩ := Option.map_eq_some_iff.1 <|
    PathPattern.mostSpecific_of_plain (fun e => isRead_of_mem_after) hentry htext hplain
  rw [← hpicked, latest?_of_mem_after (PathPattern.mem_of_mostSpecific hpick).1] at hlatest
  rw [find?, hpick, Option.map_some, hlatest]

/-- Whatever calls were made, the table keeps each pattern once, in the order in which they were registered first, and
a further call changes nothing if it fails. For a path there is no answer if no pattern covers it, and else the policy
registered last under the pattern that is chosen; for a path without wildcards that policies were registered under,
this is the last one of them. -/
theorem registered_and_found (calls : List Call) :
    ((after calls).entries.map (·.1) = patterns (registered calls) ∧ ((after calls).entries.map (·.1.text)).Nodup) ∧
    (∀ text policy, match parse text with
      | .ok _ => (after calls).register text policy = .ok (after (calls ++ [(text, policy)]))
      | .error fault => (after calls).register text policy = .error (.invalidPathPattern text fault) ∧
          after (calls ++ [(text, policy)]) = after calls) ∧
    ∀ m path,
      ((Source.paths (after calls)).find? m path = none ↔ ∀ p ∈ patterns (registered calls), p.covers path = false) ∧
      (∀ policy, (Source.paths (after calls)).find? m path = some policy ↔ ∃ earlier p later,
        patterns (registered calls) = earlier ++ p :: later ∧ Chosen path earlier p later ∧
          latest? (registered calls) p = some policy) ∧
      ∀ before policy behind, calls = before ++ (path, policy) :: behind → (∀ call ∈ behind, call.1 ≠ path) →
        path.toList.head? = some '/' → Plain path.toList →
          (Source.paths (after calls)).find? m path = some policy := by
  refine ⟨⟨map_after calls, nodup_after calls⟩, fun text policy => ?_, fun m path =>
    ⟨find?_after_eq_none_iff, fun policy => find?_after_eq_some_iff, ?_⟩⟩
  · rw [after_concat, take]
    cases hparse : parse text with
    | ok p => simp only [register_of_ok hparse]
    | error fault => simp only [register_of_error hparse, and_self]
  · rintro before policy behind rfl
    exact find?_after_of_plain

/-! ## A site -/

/-- A policy that may be remembered for some seconds. -/
def remembered (seconds : Nat) : Policy :=
  { Policy.permitDefaults with maxAge := some seconds }

/-- The calls for a site: one of them fails, and two replace what was registered before. -/
def site : List Call :=
  [("/**", remembered 1), ("api", remembered 2), ("/api/*", remembered 3), ("/api/x", remembered 4),
    ("/**", remembered 5), ("/api/x", remembered 6)]

/-- The pages directly below `api`. -/
def apiPages : PathPattern where
  text := "/api/*"
  segments := [.single ("api".toList.map .exactly), .single [.run]]

/-- One of these pages. -/
def apiPage : PathPattern where
  text := "/api/x"
  segments := [.single ("api".toList.map .exactly), .single [.exactly 'x']]

theorem registered_site : registered site =
    [(everything, remembered 1), (apiPages, remembered 3), (apiPage, remembered 4)] ++
      (everything, remembered 5) :: [(apiPage, remembered 6)] := by
  have hbad : parse "api" = .error .notAbsolute := by decide
  have hpages : parse "/api/*" = .ok apiPages := by decide
  have hpage : parse "/api/x" = .ok apiPage := by decide
  simp [registered, site, Call.read?, PathPattern.parse_everything, hbad, hpages, hpage, Except.toOption]

theorem site_registered_and_found :
    (after site).entries.map (·.1) = [everything, apiPages, apiPage] ∧
      (Source.paths (after site)).find? .get "/api/x" = some (remembered 6) ∧
      (Source.paths (after site)).find? .get "/docs" = some (remembered 5) ∧
      (Source.paths (after site)).find? .get "docs" = none := by
  obtain ⟨⟨hpatterns, -⟩, -, hfind⟩ := registered_and_found site
  have hsite : patterns (registered site) = [everything, apiPages, apiPage] := by
    rw [registered_site]
    decide +kernel
  refine ⟨hpatterns.trans hsite, ?_, ?_, ?_⟩
  · have hplain : Plain "/api/x".toList := by decide +kernel
    exact (hfind .get "/api/x").2.2 (site.take 5) (remembered 6) [] rfl (by simp) (by decide +kernel) hplain
  · have hchosen : Chosen "/docs" [] everything [apiPages, apiPage] :=
      ⟨by decide +kernel, by simp, by decide +kernel⟩
    refine ((hfind .get "/docs").2.1 _).2 ⟨[], everything, _, hsite, hchosen, ?_⟩
    rw [registered_site]
    have hlast : ∀ e ∈ [(apiPage, remembered 6)], e.1 ≠ everything := by simp [everything, apiPage]
    exact latest?_of_last hlast
  · rw [(hfind .get "docs").1, hsite]
    decide +kernel

end Portcullis.Cors.PathTable
