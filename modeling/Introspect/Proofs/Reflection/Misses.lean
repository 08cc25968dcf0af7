import Introspect.Reflector
import Introspect.Proofs.Reflection.Lookup

/-! # Misses

A lookup passes through several stages, each with its own way to fail.  That nothing was found is
said by the last one alone:

* `MissFree` — no failure says that nothing was found;
* `Reflector.Misses` — the locators serve nothing, or a text without the declaration;
* `Reflector.reflect?_eq_none_iff` — the outcome of a lookup is empty exactly on a miss;
* `Reflector.reflect_cases` — the three outcomes of a lookup, and what they mean for `has`.
-/

namespace Introspect

open Introspect.Syntax

/-! ## Failures of the stages -/

/-- No failure of the computation says that nothing was found. -/
def MissFree (x : Except Error α) : Prop := ∀ e, x = .error e → e.isNotFound = false

namespace MissFree

theorem ok (a : α) : MissFree (.ok a : Except Error α) := by
  intro e failed
  cases failed

theorem fault {e : Error} (h : e.isNotFound = false) : MissFree (.error e : Except Error α) := by
  intro e' failed
  cases failed
  exact h

theorem bind {x : Except Error α} {f : α → Except Error β} (first : MissFree x)
    (next : ∀ a, MissFree (f a)) : MissFree (x >>= f) := by
  cases x with
  | error e => exact fault (first e rfl)
  | ok a => exact next a

/-- Behind a stage that never misses, only what follows can miss. -/
theorem bind_eq_notFound_iff {x : Except Error α} {f : α → Except Error β} {i : Identifier}
    (first : MissFree x) :
    (x >>= f) = .error (.notFound i) ↔ ∃ a, x = .ok a ∧ f a = .error (.notFound i) := by
  constructor
  · intro failed
    cases x with
    | error e =>
      cases failed
      cases first _ rfl
    | ok a => exact ⟨a, rfl, failed⟩
  · rintro ⟨a, rfl, failed⟩
    exact failed

theorem ne_notFound {x : Except Error α} (h : MissFree x) (i : Identifier) :
    x ≠ .error (.notFound i) := by
  intro failed
  cases h _ failed

end MissFree

theorem missFree_readSource (files : FileTree) (path : String) :
    MissFree (readSource files path) := by
  unfold readSource
  split
  · exact .ok _
  · exact .fault rfl

theorem missFree_settle (files : FileTree) (located : Located) :
    MissFree (located.settle files) := by
  cases located with
  | definite source => exact .ok source
  | potential path => exact missFree_readSource files path

mutual

theorem Locator.missFree_locate (w : World) (i : Identifier) :
    ∀ l, MissFree (Locator.locate w i l)
  | .file path => by
    rw [locate]
    exact (missFree_readSource w.files path).bind fun source => .ok _
  | .chain members => by
    rw [locate]
    exact missFree_locateFirst w i members
  | .text _ | .evaluated _ | .builtin | .classMap _ | .autoload _ => by
    rw [locate]
    exact .ok _

theorem Locator.missFree_locateFirst (w : World) (i : Identifier) :
    ∀ ls, MissFree (Locator.locateFirst w i ls)
  | [] => by
    rw [locateFirst]
    exact .ok none
  | l :: rest => by
    rw [locateFirst]
    refine (missFree_locate w i l).bind fun answer => ?_
    cases answer with
    | none => exact missFree_locateFirst w i rest
    | some found => exact .ok _

end

theorem missFree_sourceCandidates (limit : Nat) (source : Source) (kind : DeclKind) :
    MissFree (sourceCandidates limit source kind) := by
  unfold sourceCandidates
  split
  · exact .fault rfl
  · split
    · exact .ok _
    · exact .fault rfl

theorem missFree_resolveAll (limit : Nat) (source : Source) (kind : DeclKind) :
    MissFree (resolveAll limit source kind) :=
  (missFree_sourceCandidates limit source kind).bind fun _ => .ok _

theorem missFree_resolveOne (limit : Nat) (source : Source) (i : Identifier) :
    MissFree (resolveOne limit source i) :=
  (missFree_sourceCandidates limit source i.kind).bind fun _ => .ok _

/-! ## One source -/

/-- A candidate always has a description, and it is of the kind that was asked for. -/
theorem hasKind_of_mem_candidates {root : ParseTree} {source : Source} {kind : DeclKind}
    {c : Candidate} (member : c ∈ candidates root source.text kind) :
    ∃ r, c.describe? source = some r ∧ r.hasKind kind = true := by
  obtain ⟨-, rfl, declares, -⟩ := mem_candidates member
  have sameKind := Node.kind_ofTree source.text c.tree
  unfold Candidate.describe?
  cases kind : c.kind with
  | classLike =>
    rw [kind] at declares
    obtain ⟨classKind, isClass⟩ := classKind_isSome declares
    simp only [Class.ofNode?, sameKind, isClass, Option.map_some]
    exact ⟨_, rfl, rfl⟩
  | function =>
    rw [kind] at declares
    have isFunction : functionKinds.contains c.tree.kind = true := by
      rw [kind_of_declaresFunction declares]
      decide
    simp only [Function.ofNode?, sameKind, isFunction, if_true, Option.map_some]
    exact ⟨_, rfl, rfl⟩

/-- The source can be searched: it is not too large, and it is in one of the dialects. -/
theorem sourceCandidates_eq_ok_iff {limit : Nat} {source : Source} {kind : DeclKind}
    {cs : List Candidate} :
    sourceCandidates limit source kind = .ok cs ↔
      source.text.utf8ByteSize ≤ limit ∧
        ∃ parsed, Grammar.parse source.text source.label = .ok parsed ∧
          cs = candidates parsed.tree source.text kind := by
  unfold sourceCandidates
  by_cases large : limit < source.text.utf8ByteSize
  · rw [if_pos large]
    constructor
    · intro searched
      cases searched
    · rintro ⟨small, -⟩
      omega
  · rw [if_neg large]
    have small : source.text.utf8ByteSize ≤ limit := by omega
    cases parse : Grammar.parse source.text source.label with
    | error failure => simp
    | ok parsed => simp [small, eq_comm]

/-- Wherever the search looks, no declaration of the kind that is asked for has a name that is asked
for. -/
def Undeclared (root : ParseTree) (source : String) (i : Identifier) : Prop :=
  ∀ scope t name, StandsIn source root scope t → declaresKind i.kind t = true →
    t.childByField? "name" = some name →
    i.matchesName (scope.qualify (coveredText source name)) = false

theorem undeclared_iff {root : ParseTree} {source : String} {i : Identifier} :
    Undeclared root source i ↔
      ∀ c ∈ candidates root source i.kind, i.matchesName c.qualifiedName = false := by
  constructor
  · intro undeclared c member
    obtain ⟨scope, t, name, stands, declares, isName, qualified⟩ :=
      exists_candidate_iff.1 ⟨c, member, rfl⟩
    rw [← qualified]
    exact undeclared scope t name stands declares isName
  · intro unmatched scope t name stands declares isName
    obtain ⟨c, member, named⟩ :=
      exists_candidate_iff.2 ⟨scope, t, name, stands, declares, isName, rfl⟩
    rw [← named]
    exact unmatched c member

/-- The description of the first declaration that a query matches. -/
def described? (root : ParseTree) (source : Source) (i : Identifier) : Option Reflection :=
  ((candidates root source.text i.kind).find? fun c => i.matchesName c.qualifiedName).bind
    (·.describe? source)

theorem described?_eq_none_iff {root : ParseTree} {source : Source} {i : Identifier} :
    described? root source i = none ↔ Undeclared root source.text i := by
  rw [described?, Option.bind_eq_none_iff, undeclared_iff]
  constructor
  · intro absent c member
    by_contra matched
    -- A candidate that matches would be found, if not an earlier one, and be described.
    obtain ⟨found, first⟩ : ∃ found, (candidates root source.text i.kind).find?
        (fun c => i.matchesName c.qualifiedName) = some found := by
      rw [← Option.isSome_iff_exists, List.find?_isSome]
      exact ⟨c, member, by simpa using matched⟩
    obtain ⟨r, described, -⟩ := hasKind_of_mem_candidates (List.mem_of_find?_eq_some first)
    rw [absent found first] at described
    cases described
  · intro undeclared c found
    have matched := List.find?_some found
    rw [undeclared c (List.mem_of_find?_eq_some found)] at matched
    cases matched

theorem hasKind_of_described? {root : ParseTree} {source : Source} {i : Identifier}
    {r : Reflection} (found : described? root source i = some r) : r.hasKind i.kind = true := by
  obtain ⟨c, first, described⟩ := Option.bind_eq_some_iff.1 found
  obtain ⟨r', described', ofKind⟩ := hasKind_of_mem_candidates (List.mem_of_find?_eq_some first)
  rw [described] at described'
  cases described'
  exact ofKind

theorem resolveOne_eq_ok_iff {limit : Nat} {source : Source} {i : Identifier}
    {answer : Option Reflection} :
    resolveOne limit source i = .ok answer ↔
      source.text.utf8ByteSize ≤ limit ∧
        ∃ parsed, Grammar.parse source.text source.label = .ok parsed ∧
          answer = described? parsed.tree source i := by
  constructor
  · intro found
    cases searched : sourceCandidates limit source i.kind with
    | error e =>
      simp only [resolveOne, searched] at found
      cases found
    | ok cs =>
      obtain ⟨small, parsed, success, rfl⟩ := sourceCandidates_eq_ok_iff.1 searched
      simp only [resolveOne, searched] at found
      exact ⟨small, parsed, success, (Except.ok.inj found).symm⟩
  · rintro ⟨small, parsed, success, rfl⟩
    have searched : sourceCandidates limit source i.kind =
        .ok (candidates parsed.tree source.text i.kind) :=
      sourceCandidates_eq_ok_iff.2 ⟨small, parsed, success, rfl⟩
    simp only [resolveOne, searched]
    rfl

/-! ## Through locators -/

namespace Reflector

/-- The locators serve nothing for the query, or a source that can be searched and has no declaration
for it. -/
def Misses (r : Reflector) (w : World) (i : Identifier) : Prop :=
  r.locator.locate w i = .ok none ∨
    ∃ located source parsed,
      r.locator.locate w i = .ok (some located) ∧ located.settle w.files = .ok source ∧
        source.text.utf8ByteSize ≤ r.limit ∧
        Grammar.parse source.text source.label = .ok parsed ∧
        Undeclared parsed.tree source.text i

variable {r : Reflector} {w : World} {i : Identifier}

theorem missFree_reflect? (r : Reflector) (w : World) (i : Identifier) :
    MissFree (r.reflect? w i) := by
  unfold reflect?
  refine (Locator.missFree_locate w i r.locator).bind fun answer => ?_
  cases answer with
  | none => exact .ok none
  | some located =>
    exact (missFree_settle w.files located).bind fun source => missFree_resolveOne r.limit source i

theorem missFree_reflectAll (r : Reflector) (w : World) (kind : DeclKind) :
    MissFree (r.reflectAll w kind) := by
  unfold reflectAll
  refine (Locator.missFree_locate w (.wildcard kind) r.locator).bind fun answer => ?_
  cases answer with
  | none => exact .ok []
  | some located =>
    exact (missFree_settle w.files located).bind fun source => missFree_resolveAll r.limit source kind

/-- A lookup that goes through ends at a miss of the locators, or in the source that they serve. -/
theorem reflect?_eq_ok_iff {answer : Option Reflection} :
    r.reflect? w i = .ok answer ↔
      (r.locator.locate w i = .ok none ∧ answer = none) ∨
      ∃ located source parsed,
        r.locator.locate w i = .ok (some located) ∧ located.settle w.files = .ok source ∧
          source.text.utf8ByteSize ≤ r.limit ∧
          Grammar.parse source.text source.label = .ok parsed ∧
          answer = described? parsed.tree source i := by
  cases served : r.locator.locate w i with
  | error e => simp [reflect?, served, bind, Except.bind]
  | ok hit =>
    cases hit with
    | none => simp [reflect?, served, bind, Except.bind, pure, Except.pure, eq_comm]
    | some located =>
      cases settled : located.settle w.files with
      | error e => simp [reflect?, served, settled, bind, Except.bind]
      | ok source =>
        have inSource : r.reflect? w i = resolveOne r.limit source i := by
          simp [reflect?, served, settled, bind, Except.bind]
        rw [inSource, resolveOne_eq_ok_iff]
        simp [settled]

theorem reflect?_eq_none_iff : r.reflect? w i = .ok none ↔ r.Misses w i := by
  rw [reflect?_eq_ok_iff]
  simp [Misses, eq_comm (a := none), described?_eq_none_iff]

theorem hasKind_of_reflect? {d : Reflection} (found : r.reflect? w i = .ok (some d)) :
    d.hasKind i.kind = true := by
  rcases reflect?_eq_ok_iff.1 found with ⟨-, absent⟩ | ⟨_, source, parsed, -, -, -, -, described⟩
  · cases absent
  · exact hasKind_of_described? described.symm

/-- The three outcomes of a lookup: a description, a miss, or a fault. -/
theorem reflect_cases (r : Reflector) (w : World) (i : Identifier) :
    (∃ d, d.hasKind i.kind = true ∧ r.reflect? w i = .ok (some d) ∧ r.reflect w i = .ok d ∧
      r.has w i = .ok true) ∨
    (r.Misses w i ∧ r.reflect w i = .error (.notFound i) ∧ r.has w i = .ok false) ∨
    ∃ e, e.isNotFound = false ∧ r.reflect? w i = .error e ∧ r.reflect w i = .error e ∧
      r.has w i = .error e := by
  cases outcome : r.reflect? w i with
  | error e =>
    right; right
    refine ⟨e, missFree_reflect? r w i e outcome, rfl, ?_, ?_⟩
    · simp only [reflect, outcome]; rfl
    · simp only [has, outcome]; rfl
  | ok answer =>
    cases answer with
    | none =>
      right; left
      refine ⟨reflect?_eq_none_iff.1 outcome, ?_, ?_⟩
      · simp only [reflect, outcome]; rfl
      · simp only [has, outcome]; rfl
    | some d =>
      left
      refine ⟨d, hasKind_of_reflect? outcome, rfl, ?_, ?_⟩
      · simp only [reflect, outcome]; rfl
      · simp only [has, outcome]; rfl

theorem reflect_eq_notFound_iff {j : Identifier} :
    r.reflect w i = .error (.notFound j) ↔ j = i ∧ r.Misses w i := by
  rw [← reflect?_eq_none_iff]
  rcases reflect_cases r w i with ⟨d, -, outcome, reflected, -⟩ | ⟨missed, reflected, -⟩ |
    ⟨e, fault, outcome, reflected, -⟩
  · simp [outcome, reflected]
  · simp [reflect?_eq_none_iff.2 missed, reflected, eq_comm]
  · simp only [outcome, reflected, Except.error.injEq, reduceCtorEq, and_false, iff_false]
    rintro rfl
    cases fault

theorem has_eq_true_iff : r.has w i = .ok true ↔ ∃ d, r.reflect w i = .ok d := by
  rcases reflect_cases r w i with ⟨d, -, -, reflected, answered⟩ | ⟨-, reflected, answered⟩ |
    ⟨e, -, -, reflected, answered⟩
  · simp [reflected, answered]
  · simp [reflected, answered]
  · simp [reflected, answered]

theorem has_eq_false_iff : r.has w i = .ok false ↔ r.reflect w i = .error (.notFound i) := by
  rcases reflect_cases r w i with ⟨d, -, -, reflected, answered⟩ | ⟨-, reflected, answered⟩ |
    ⟨e, fault, -, reflected, answered⟩
  · simp [reflected, answered]
  · simp [reflected, answered]
  · simp only [reflected, answered, reduceCtorEq, Except.error.injEq, false_iff]
    rintro rfl
    cases fault

theorem has_eq_error_iff {e : Error} :
    r.has w i = .error e ↔ r.reflect w i = .error e ∧ e.isNotFound = false := by
  rcases reflect_cases r w i with ⟨d, -, -, reflected, answered⟩ | ⟨-, reflected, answered⟩ |
    ⟨e', fault, -, reflected, answered⟩
  · simp [reflected, answered]
  · simp only [reflected, answered, reduceCtorEq, Except.error.injEq, false_iff]
    rintro ⟨rfl, found⟩
    cases found
  · simp only [reflected, answered, Except.error.injEq]
    constructor
    · rintro rfl
      exact ⟨rfl, fault⟩
    · rintro ⟨rfl, -⟩
      rfl

/-! ## By kind -/

theorem map_reflectClass (r : Reflector) (w : World) (name : String) :
    (r.reflectClass w name).map .ofClass = r.reflect w (.ofName .classLike name) := by
  simp only [reflectClass]
  rcases reflect_cases r w (.ofName .classLike name) with ⟨d, ofKind, -, reflected, -⟩ |
    ⟨-, reflected, -⟩ | ⟨e, -, -, reflected, -⟩
  · rw [reflected]
    cases d with
    | ofClass c => rfl
    | ofFunction f => cases ofKind
  · rw [reflected]
    rfl
  · rw [reflected]
    rfl

theorem map_reflectFunction (r : Reflector) (w : World) (name : String) :
    (r.reflectFunction w name).map .ofFunction = r.reflect w (.ofName .function name) := by
  simp only [reflectFunction]
  rcases reflect_cases r w (.ofName .function name) with ⟨d, ofKind, -, reflected, -⟩ |
    ⟨-, reflected, -⟩ | ⟨e, -, -, reflected, -⟩
  · rw [reflected]
    cases d with
    | ofClass c => cases ofKind
    | ofFunction f => rfl
  · rw [reflected]
    rfl
  · rw [reflected]
    rfl

end Reflector

end Introspect
