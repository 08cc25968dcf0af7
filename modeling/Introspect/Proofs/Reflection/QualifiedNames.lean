import Introspect.Proofs.Reflection.Lookup
import Introspect.Proofs.Reflection.Misses
import Introspect.Proofs.Reflection.Namespaces

/-! # Names of what is described

The search for declarations takes its namespaces from names that it reads, so that the namespace of
whatever it finds obeys the laws of those that can be read:

* `plain_of_mem_topCandidates` — the walk keeps to such namespaces;
* `Reflection.Resolved`, `Reflection.name_of_resolved` — what is described has the name of its
  namespace and its own;
* `Namespace.names_and_segments` — names and segments can be recovered from each other.
-/

namespace Introspect

open Introspect.Syntax

/-! ## Namespaces of candidates -/

theorem plain_of_opens {source : String} {t : ParseTree} {scope : Namespace}
    {body : Option ParseTree} (opens : classify source t = .opens scope body) : scope.Plain := by
  rcases classify_cases source t with ⟨-, -, eq⟩ | ⟨_, -, -, eq⟩ | ⟨-, -, eq⟩
  · rw [eq] at opens
    cases opens
    unfold namedScope
    split
    · exact Namespace.plain_ofName _
    · exact Namespace.plain_global
  · rw [eq] at opens
    cases opens
  · rw [eq] at opens
    cases opens

theorem scope_of_mem_candidate? {source : String} {kind : DeclKind} {scope : Namespace}
    {doc : Option String} {t : ParseTree} {c : Candidate}
    (member : c ∈ (candidate? source kind scope doc t).toList) : c.scope = scope := by
  rw [Option.mem_toList] at member
  obtain ⟨name, -, rfl⟩ := Option.map_eq_some_iff.1 member
  rfl

theorem scope_of_mem_scopeCandidates {source : String} {scope : Namespace} (tracker : DocTracker)
    (ts : List ParseTree) : ∀ c ∈ scopeCandidates source scope tracker ts, c.scope = scope := by
  induction ts generalizing tracker with
  | nil => exact List.forall_mem_nil _
  | cons t rest ih =>
    simp only [scopeCandidates]
    split
    · exact List.forall_mem_append.2 ⟨fun _ => scope_of_mem_candidate?, ih _⟩
    · exact ih _

/-- Whatever follows, declarations are found in namespaces that were read. -/
theorem plain_of_mem_topCandidates {source : String} {scope : Namespace} (plain : scope.Plain)
    (tracker : DocTracker) (ts : List ParseTree) :
    ∀ c ∈ topCandidates source scope tracker ts, c.scope.Plain := by
  induction ts generalizing scope tracker with
  | nil => exact List.forall_mem_nil _
  | cons t rest ih =>
    simp only [topCandidates]
    split
    · refine List.forall_mem_append.2 ⟨fun c member => ?_, ih plain _⟩
      -- The declaration stands in the namespace that is in force.
      rw [scope_of_mem_candidate? member]
      exact plain
    case h_2 opens =>
      -- A namespace with a body of its own ends with it, and what follows is global.
      refine List.forall_mem_append.2 ⟨fun c member => ?_, ih Namespace.plain_global _⟩
      rw [scope_of_mem_scopeCandidates _ _ c member]
      exact plain_of_opens opens
    case h_3 opens => exact ih (plain_of_opens opens) _
    · exact ih plain _

theorem plain_of_mem_candidates {root : ParseTree} {source : String} {kind : DeclKind}
    {c : Candidate} (member : c ∈ candidates root source kind) : c.scope.Plain :=
  plain_of_mem_topCandidates Namespace.plain_global _ _ c (List.mem_filter.1 member).1

/-! ## Names of descriptions -/

namespace Reflection

/-- The namespace of what is described. -/
def scope : Reflection → Namespace
  | ofClass c => c.scope
  | ofFunction f => f.scope

/-- Listed among the declarations of a source, or found by a lookup in one. -/
def Resolved (d : Reflection) : Prop :=
  (∃ limit source kind ds, resolveAll limit source kind = .ok ds ∧ d ∈ ds) ∨
    ∃ limit source i, resolveOne limit source i = .ok (some d)

theorem exists_candidate_of_resolved {d : Reflection} (resolved : d.Resolved) :
    ∃ source parsed kind, Grammar.parse source.text source.label = .ok parsed ∧
      ∃ c ∈ candidates parsed.tree source.text kind, c.describe? source = some d := by
  rcases resolved with ⟨limit, source, kind, ds, listed, member⟩ | ⟨limit, source, i, found⟩
  · unfold resolveAll at listed
    cases searched : sourceCandidates limit source kind with
    | error e =>
      rw [searched] at listed
      cases listed
    | ok cs =>
      rw [searched] at listed
      cases listed
      obtain ⟨parsed, success, rfl⟩ := candidates_of_sourceCandidates searched
      obtain ⟨c, candidate, described⟩ := List.mem_filterMap.1 member
      exact ⟨source, parsed, kind, success, c, candidate, described⟩
  · obtain ⟨-, parsed, success, described⟩ := resolveOne_eq_ok_iff.1 found
    obtain ⟨c, first, described⟩ := Option.bind_eq_some_iff.1 described.symm
    exact ⟨source, parsed, i.kind, success, c, List.mem_of_find?_eq_some first, described⟩

theorem name_of_describe? {source : Source} {c : Candidate} {d : Reflection}
    (described : c.describe? source = some d) :
    d.scope = c.scope ∧ d.name = c.scope.qualify d.shortName := by
  unfold Candidate.describe? at described
  split at described
  · obtain ⟨found, isClass, rfl⟩ := Option.map_eq_some_iff.1 described
    obtain ⟨kind, -, rfl⟩ := Option.map_eq_some_iff.1 isClass
    exact ⟨rfl, rfl⟩
  · obtain ⟨found, isFunction, rfl⟩ := Option.map_eq_some_iff.1 described
    obtain ⟨-, rfl⟩ := Function.eq_of_ofNode? isFunction
    exact ⟨rfl, Function.name_of_free rfl⟩

theorem name_of_resolved {d : Reflection} (resolved : d.Resolved) :
    d.scope.Plain ∧ d.name = d.scope.qualify d.shortName := by
  obtain ⟨source, parsed, kind, -, c, member, described⟩ := exists_candidate_of_resolved resolved
  obtain ⟨scope, name⟩ := name_of_describe? described
  rw [scope]
  exact ⟨plain_of_mem_candidates member, name⟩

end Reflection

/-! ## Names and segments -/

/-- What is read of a text are segments, and they are read again from the name of the namespace.  A
full name has the segments of the namespace and those of the name in it; a separator in front keeps a
name as it is, and any other name is one in the namespace.  So the name of anything that is described
falls into the segments of its namespace and its own name, if this is one. -/
theorem Namespace.names_and_segments (s n : String) :
    (ofName s).Plain ∧
    ofName (ofName s).name = ofName s ∧
    (ofName ((ofName s).qualify n)).segments = (ofName s).segments ++ (ofName n).segments ∧
    (ofName s).resolve (String.singleton separator ++ n) = n ∧
    ((∀ rest, n ≠ String.singleton separator ++ rest) →
      (ofName s).resolve n = (ofName s).qualify n) ∧
    ∀ d : Reflection, d.Resolved → PlainSegment d.shortName →
      (ofName d.name).segments = d.scope.segments ++ [d.shortName] ∧
      Text.split separator d.name = d.scope.segments ++ [d.shortName] := by
  refine ⟨plain_ofName s, ofName_name (plain_ofName s), segments_ofName_qualify (plain_ofName s) n,
    resolve_rooted _ n, resolve_of_unrooted _, fun d resolved segment => ?_⟩
  obtain ⟨plain, name⟩ := Reflection.name_of_resolved resolved
  rw [name]
  refine ⟨?_, split_qualify plain segment⟩
  rw [segments_ofName_qualify plain, segments_ofName_of_plainSegment segment]

/-- A text with a function in a namespace whose name is written with blanks. -/
def nestedFunction : Source := .evaluated "<?php namespace A \\ B; function f()\x7b\x7d"

theorem Namespace.names_and_segments_nested :
    (∀ rest, "C\\D" ≠ String.singleton separator ++ rest) ∧
    (ofName "A \\ B").resolve "C\\D" = "A\\B\\C\\D" ∧
    ∃ d : Reflection, d.Resolved ∧ PlainSegment d.shortName ∧ d.name = "A\\B\\f" ∧
      Text.split separator d.name = d.scope.segments ++ [d.shortName] := by
  have relative : ∀ rest, "C\\D" ≠ String.singleton separator ++ rest :=
    Text.strip?_eq_none_iff.1 (by decide +kernel)
  have checked : ((resolveOne 100 nestedFunction (.ofName .function "a\\b\\F")).toOption.join.any
      fun d => d.name == "A\\B\\f" && decide (PlainSegment d.shortName)) = true := by
    decide +kernel
  obtain ⟨-, -, -, -, resolves, named⟩ := names_and_segments "A \\ B" "C\\D"
  obtain ⟨d, present, described⟩ := (Option.any_eq_true _ _).1 checked
  obtain ⟨name, segment⟩ := Bool.and_eq_true_iff.1 described
  have resolved : d.Resolved :=
    .inr ⟨_, _, _, eq_ok_of_toOption (Option.join_eq_some_iff.1 present)⟩
  have segment : PlainSegment d.shortName := of_decide_eq_true segment
  exact ⟨relative, (resolves relative).trans (by decide +kernel), d, resolved, segment,
    beq_iff_eq.1 name, (named d resolved segment).2⟩

end Introspect
