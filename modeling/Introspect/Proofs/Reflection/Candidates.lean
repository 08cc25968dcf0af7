import Mathlib.Data.List.Basic
import Introspect.Reflection.Declarations
import Introspect.Proofs.Syntax.Documentation

/-! # Candidates by position

The search for declarations carries the current namespace along.  Here the candidates of a tree
are said position by position, from the statements before a position alone:

* `positions` — the members of a list, each with the members before it;
* `scopeBehind` — the namespace that top-level statements leave for the next one;
* `declarationOf?`, `declarationsAt` — what a statement contributes where it stands;
* `candidates_by_position` — the search finds what the positions contribute, in their order.

The search has its namespace from the nearest namespace statement on, so the step lemmas below say
how `scopeBehind` and `docBehind` change when one more statement has been passed.
-/

namespace Introspect

open Introspect.Syntax

/-! ## Positions -/

/-- The members of a list, each with all members before it. -/
def positions (ts : List ParseTree) : List (List ParseTree × ParseTree) :=
  ts.zipIdx.map fun (t, i) => (ts.take i, t)

/-- The positions of `ts` in a longer list that starts with `before`. -/
def positionsBehind (before ts : List ParseTree) : List (List ParseTree × ParseTree) :=
  (positions ts).map fun (earlier, t) => (before ++ earlier, t)

theorem positionsBehind_cons (before : List ParseTree) (t : ParseTree) (ts : List ParseTree) :
    positionsBehind before (t :: ts) = (before, t) :: positionsBehind (before ++ [t]) ts := by
  simp [positionsBehind, positions, List.zipIdx_cons, List.zipIdx_succ, Function.comp_def]

theorem positionsBehind_start (ts : List ParseTree) : positionsBehind [] ts = positions ts := by
  simp [positionsBehind]

theorem mem_of_mem_positions {ts before : List ParseTree} {t : ParseTree}
    (h : (before, t) ∈ positions ts) : t ∈ ts := by
  simp only [positions, List.mem_map, Prod.mk.injEq, Prod.exists] at h
  obtain ⟨u, i, member, -, rfl⟩ := h
  exact (List.mem_zipIdx' member).2 ▸ List.getElem_mem _

/-! ## Statements -/

/-- Does the statement declare something of the kind? -/
def declaresKind (kind : DeclKind) (t : ParseTree) : Bool :=
  match kind with
  | .classLike =>
    ["class_declaration", "enum_declaration", "interface_declaration",
      "trait_declaration"].contains t.kind
  | .function => t.kind == "function_definition"

def isNamespace (t : ParseTree) : Bool := t.kind == "namespace_definition"

/-- The namespace that a namespace statement names; without a name it is the global one. -/
def namedScope (source : String) (t : ParseTree) : Namespace :=
  match t.childByField? "name" with
  | some name => Namespace.ofName (coveredText source name)
  | none => .global

/-- The namespace that top-level statements leave for the next one: that of the nearest namespace
statement, unless this one has a body. -/
def scopeBehind (source : String) (before : List ParseTree) : Namespace :=
  match before.reverse.find? isNamespace with
  | some nearest =>
    if (nearest.childByField? "body").isSome then .global else namedScope source nearest
  | none => .global

/-- Kinds and texts of statements, as a tracker observes them. -/
def siblings (source : String) (ts : List ParseTree) : List (String × String) :=
  ts.map fun t => (t.kind, coveredText source t)

/-- The candidate of a statement in a namespace: of the given kind, and with a name. -/
def declarationOf? (source : String) (kind : DeclKind) (scope : Namespace)
    (before : List ParseTree) (t : ParseTree) : Option Candidate :=
  if declaresKind kind t then
    (t.childByField? "name").map fun name =>
      { doc := docBehind (siblings source before), kind, scope, tree := t
        qualifiedName := scope.qualify (coveredText source name) }
  else none

/-- What a top-level statement contributes behind the statements `before`: the declarations directly
in the body of a namespace, or the statement itself. -/
def declarationsAt (source : String) (kind : DeclKind) (before : List ParseTree)
    (t : ParseTree) : List Candidate :=
  if isNamespace t then
    match t.childByField? "body" with
    | some body =>
      (positions body.namedChildren).filterMap fun (earlier, d) =>
        declarationOf? source kind (namedScope source t) earlier d
    | none => []
  else (declarationOf? source kind (scopeBehind source before) before t).toList

/-- What the search takes a statement for. -/
theorem classify_cases (source : String) (t : ParseTree) :
    (isNamespace t = true ∧ (∀ kind, declaresKind kind t = false) ∧
      classify source t = .opens (namedScope source t) (t.childByField? "body")) ∨
    (∃ kind, isNamespace t = false ∧ (∀ other, declaresKind other t = (kind == other)) ∧
      classify source t = .declares kind) ∨
    (isNamespace t = false ∧ (∀ kind, declaresKind kind t = false) ∧
      classify source t = .other) := by
  unfold classify
  split
  · rename_i isKind
    left
    refine ⟨by simp [isNamespace, isKind], fun kind => ?_, rfl⟩
    cases kind <;> simp [declaresKind, isKind]
  case h_6 isKind =>
    right; left
    refine ⟨.function, by simp [isNamespace, isKind], fun other => ?_, rfl⟩
    cases other <;> simp [declaresKind, isKind]
  case h_7 noNamespace noClass noEnum noInterface noTrait noFunction =>
    right; right
    refine ⟨by simpa [isNamespace] using noNamespace, fun kind => ?_, rfl⟩
    cases kind <;> simp_all [declaresKind]
  -- The four kinds of classes are left.
  all_goals
    rename_i isKind
    right; left
    refine ⟨.classLike, by simp [isNamespace, isKind], fun other => ?_, rfl⟩
    cases other <;> simp [declaresKind, isKind]

/-! ## One more statement -/

/-- A namespace statement decides what follows it. -/
theorem scopeBehind_namespace (source : String) (before : List ParseTree) {t : ParseTree}
    (h : isNamespace t = true) :
    scopeBehind source (before ++ [t]) =
      if (t.childByField? "body").isSome then .global else namedScope source t := by
  simp [scopeBehind, h]

/-- Any other statement leaves the namespace as it was. -/
theorem scopeBehind_other (source : String) (before : List ParseTree) {t : ParseTree}
    (h : isNamespace t = false) :
    scopeBehind source (before ++ [t]) = scopeBehind source before := by
  simp [scopeBehind, h]

/-- What a tracker answers at a statement and holds behind it. -/
theorem observe_siblings (source : String) (before : List ParseTree) (t : ParseTree) :
    DocTracker.observe ⟨docBehind (siblings source before)⟩ t.kind (coveredText source t) =
      (if t.kind == "comment" then none else docBehind (siblings source before),
        ⟨docBehind (siblings source (before ++ [t]))⟩) := by
  simp only [siblings, List.map_append, List.map_cons, List.map_nil]
  exact observe_docBehind _ _ _

/-- A declaration is no comment, so the tracker hands it the pending documentation. -/
theorem kind_ne_comment_of_declares {kind : DeclKind} {t : ParseTree}
    (h : declaresKind kind t = true) : (t.kind == "comment") = false := by
  cases isComment : t.kind == "comment" with
  | false => rfl
  | true =>
    rw [beq_iff_eq] at isComment
    cases kind <;> simp [declaresKind, isComment] at h

/-- The candidate of a declaration, kept if it is of the kind that is asked for. -/
theorem candidate?_filter (source : String) (scope : Namespace) (before : List ParseTree)
    {found : DeclKind} (kind : DeclKind) {t : ParseTree}
    (h : ∀ other, declaresKind other t = (found == other)) :
    ((candidate? source found scope (docBehind (siblings source before)) t).toList.filter
      fun c => c.kind == kind) = (declarationOf? source kind scope before t).toList := by
  unfold candidate? declarationOf?
  rw [h kind]
  cases t.childByField? "name" with
  | none => simp
  | some name =>
    by_cases same : found = kind
    · subst same
      simp
    · have differ : (found == kind) = false := by simpa using same
      simp [differ]

/-! ## The two walks -/

/-- Behind the statements `before` of a body, the search finds what the rest contributes. -/
theorem scopeCandidates_filter (source : String) (scope : Namespace) (kind : DeclKind)
    (before rest : List ParseTree) :
    ((scopeCandidates source scope ⟨docBehind (siblings source before)⟩ rest).filter
      fun c => c.kind == kind) =
      (positionsBehind before rest).filterMap fun (earlier, t) =>
        declarationOf? source kind scope earlier t := by
  rw [List.filterMap_eq_flatMap_toList]
  -- The tracker is determined by the statements passed, so these are all that the induction varies.
  induction rest generalizing before with
  | nil => rfl
  | cons t rest ih =>
    rw [positionsBehind_cons, List.flatMap_cons, ← ih (before ++ [t])]
    simp only [scopeCandidates, observe_siblings]
    rcases classify_cases source t with
      ⟨-, nothing, eq⟩ | ⟨found, -, declares, eq⟩ | ⟨-, nothing, eq⟩
    · simp [eq, declarationOf?, nothing]
    · have noComment := @kind_ne_comment_of_declares found t (by simp [declares])
      simp only [eq, noComment, List.filter_append]
      rw [if_neg (by simp), candidate?_filter source scope before kind declares]
    · simp [eq, declarationOf?, nothing]

/-- A body is searched from its start, with documentation of its own. -/
theorem scopeCandidates_body (source : String) (scope : Namespace) (kind : DeclKind)
    (body : ParseTree) :
    ((scopeCandidates source scope {} body.namedChildren).filter fun c => c.kind == kind) =
      (positions body.namedChildren).filterMap fun (earlier, t) =>
        declarationOf? source kind scope earlier t := by
  rw [← positionsBehind_start]
  exact scopeCandidates_filter source scope kind [] body.namedChildren

/-- Behind the top-level statements `before`, the search finds what the rest contributes. -/
theorem topCandidates_filter (source : String) (kind : DeclKind) (before rest : List ParseTree) :
    ((topCandidates source (scopeBehind source before) ⟨docBehind (siblings source before)⟩
      rest).filter fun c => c.kind == kind) =
      (positionsBehind before rest).flatMap fun (earlier, t) =>
        declarationsAt source kind earlier t := by
  induction rest generalizing before with
  | nil => rfl
  | cons t rest ih =>
    rw [positionsBehind_cons, List.flatMap_cons, ← ih (before ++ [t])]
    simp only [topCandidates, observe_siblings]
    rcases classify_cases source t with
      ⟨opens, -, eq⟩ | ⟨found, stays, declares, eq⟩ | ⟨stays, nothing, eq⟩
    · -- A namespace contributes its body, and with or without one decides what follows.
      rw [scopeBehind_namespace source before opens]
      simp only [eq, declarationsAt, opens, if_true]
      cases t.childByField? "body" with
      | none => rfl
      | some body =>
        simp only [List.filter_append, Option.isSome_some, if_true]
        rw [scopeCandidates_body]
    · have noComment := @kind_ne_comment_of_declares found t (by simp [declares])
      rw [scopeBehind_other source before stays]
      simp only [eq, noComment, declarationsAt, stays, List.filter_append]
      rw [if_neg (by simp), candidate?_filter source _ before kind declares]
      rfl
    · rw [scopeBehind_other source before stays]
      simp [eq, declarationsAt, declarationOf?, stays, nothing]

/-! ## Where candidates stand -/

theorem Syntax.ParseTree.mem_of_childByField? {t c : ParseTree} {name : String}
    (found : t.childByField? name = some c) : c ∈ t.children ∧ c.field = some name := by
  rw [childByField?] at found
  exact ⟨List.mem_of_find?_eq_some found, by simpa using List.find?_some found⟩

/-- Does a tree stand where the search looks: at top level, or directly in the body of a
top-level namespace? -/
def Searched (root t : ParseTree) : Prop :=
  t ∈ root.namedChildren ∨
    ∃ ns ∈ root.namedChildren, isNamespace ns = true ∧
      ∃ body, ns.childByField? "body" = some body ∧ t ∈ body.namedChildren

/-- The tree stands in a namespace where the search looks: at top level behind the statements that
leave this namespace to it, or directly in the body of a statement that names it. -/
inductive StandsIn (source : String) (root : ParseTree) : Namespace → ParseTree → Prop where
  | top {before : List ParseTree} {t : ParseTree} :
      (before, t) ∈ positions root.namedChildren → isNamespace t = false →
      StandsIn source root (scopeBehind source before) t
  | inner {ns body t : ParseTree} :
      ns ∈ root.namedChildren → isNamespace ns = true → ns.childByField? "body" = some body →
      t ∈ body.namedChildren → StandsIn source root (namedScope source ns) t

theorem declarationOf?_eq_some {source : String} {kind : DeclKind} {scope : Namespace}
    {before : List ParseTree} {t : ParseTree} {c : Candidate}
    (h : declarationOf? source kind scope before t = some c) :
    c.tree = t ∧ c.kind = kind ∧ declaresKind kind t = true ∧
      ∃ name, t.childByField? "name" = some name ∧
        c.qualifiedName = c.scope.qualify (coveredText source name) := by
  unfold declarationOf? at h
  split at h
  · rename_i declares
    obtain ⟨name, found, rfl⟩ := Option.map_eq_some_iff.1 h
    exact ⟨rfl, rfl, declares, name, found, rfl⟩
  · contradiction

/-- What the positions contribute are declarations of statements at places that are searched. -/
theorem declarationOf?_of_mem_positions {root : ParseTree} {source : String} {kind : DeclKind}
    {c : Candidate}
    (h : c ∈ (positions root.namedChildren).flatMap fun (before, t) =>
      declarationsAt source kind before t) :
    ∃ scope before t, Searched root t ∧ declarationOf? source kind scope before t = some c := by
  obtain ⟨⟨before, t⟩, place, contributed⟩ := List.mem_flatMap.1 h
  have top := mem_of_mem_positions place
  simp only [declarationsAt] at contributed
  split at contributed
  · rename_i opens
    cases hasBody : t.childByField? "body" with
    | none => simp [hasBody] at contributed
    | some body =>
      simp only [hasBody, List.mem_filterMap, Prod.exists] at contributed
      obtain ⟨earlier, d, inner, declared⟩ := contributed
      exact ⟨_, earlier, d, .inr ⟨t, top, opens, body, hasBody, mem_of_mem_positions inner⟩,
        declared⟩
  · rw [Option.mem_toList] at contributed
    exact ⟨_, before, t, .inl top, contributed⟩

theorem candidates_eq_positions (root : ParseTree) (source : String) (kind : DeclKind) :
    candidates root source kind =
      (positions root.namedChildren).flatMap fun (before, t) =>
        declarationsAt source kind before t := by
  rw [← positionsBehind_start]
  exact topCandidates_filter source kind [] root.namedChildren

/-- A candidate stands where the search looks and declares something of the kind, and its full name
is that of its namespace with its own name. -/
theorem mem_candidates {root : ParseTree} {source : String} {kind : DeclKind} {c : Candidate}
    (h : c ∈ candidates root source kind) :
    Searched root c.tree ∧ c.kind = kind ∧ declaresKind kind c.tree = true ∧
      ∃ name, c.tree.childByField? "name" = some name ∧
        c.qualifiedName = c.scope.qualify (coveredText source name) := by
  rw [candidates_eq_positions] at h
  obtain ⟨scope, before, t, searched, declared⟩ := declarationOf?_of_mem_positions h
  obtain ⟨rfl, ofKind, declares, named⟩ := declarationOf?_eq_some declared
  exact ⟨searched, ofKind, declares, named⟩

theorem exists_position {ts : List ParseTree} {t : ParseTree} (member : t ∈ ts) :
    ∃ before, (before, t) ∈ positions ts := by
  obtain ⟨i, found⟩ := List.getElem?_of_mem member
  refine ⟨ts.take i, List.mem_map.2 ⟨(t, i), ?_, rfl⟩⟩
  exact List.mem_zipIdx_iff_getElem?.2 found

theorem exists_declarationOf?_iff {source : String} {kind : DeclKind} {scope : Namespace}
    {before : List ParseTree} {t : ParseTree} {q : String} :
    (∃ c, declarationOf? source kind scope before t = some c ∧ c.qualifiedName = q) ↔
      declaresKind kind t = true ∧ ∃ name, t.childByField? "name" = some name ∧
        scope.qualify (coveredText source name) = q := by
  unfold declarationOf?
  cases declares : declaresKind kind t with
  | false => simp
  | true => simp

/-- A full name is that of a candidate exactly if it is the name of a declaration of the kind in a
namespace where the search looks. -/
theorem exists_candidate_iff {root : ParseTree} {source : String} {kind : DeclKind} {q : String} :
    (∃ c ∈ candidates root source kind, c.qualifiedName = q) ↔
      ∃ scope t name, StandsIn source root scope t ∧ declaresKind kind t = true ∧
        t.childByField? "name" = some name ∧ scope.qualify (coveredText source name) = q := by
  rw [candidates_eq_positions]
  constructor
  · rintro ⟨c, member, named⟩
    obtain ⟨⟨before, t⟩, place, contributed⟩ := List.mem_flatMap.1 member
    simp only [declarationsAt] at contributed
    split at contributed
    · rename_i opens
      cases hasBody : t.childByField? "body" with
      | none => simp [hasBody] at contributed
      | some body =>
        simp only [hasBody, List.mem_filterMap, Prod.exists] at contributed
        obtain ⟨earlier, d, inner, declared⟩ := contributed
        obtain ⟨declares, name, isName, qualified⟩ :=
          exists_declarationOf?_iff.1 ⟨c, declared, named⟩
        exact ⟨_, d, name, .inner (mem_of_mem_positions place) opens hasBody
          (mem_of_mem_positions inner), declares, isName, qualified⟩
    · rename_i stays
      rw [Option.mem_toList] at contributed
      obtain ⟨declares, name, isName, qualified⟩ :=
        exists_declarationOf?_iff.1 ⟨c, contributed, named⟩
      exact ⟨_, t, name, .top place (by simpa using stays), declares, isName, qualified⟩
  · rintro ⟨scope, t, name, stands, declares, isName, qualified⟩
    cases stands with
    | @top before t place stays =>
      obtain ⟨c, declared, named⟩ := exists_declarationOf?_iff.2 ⟨declares, name, isName, qualified⟩
      refine ⟨c, List.mem_flatMap.2 ⟨(before, t), place, ?_⟩, named⟩
      simpa [declarationsAt, stays] using declared
    | @inner ns body t top opens hasBody member =>
      obtain ⟨before, place⟩ := exists_position top
      obtain ⟨earlier, inner⟩ := exists_position member
      obtain ⟨c, declared, named⟩ := exists_declarationOf?_iff.2 ⟨declares, name, isName, qualified⟩
      refine ⟨c, List.mem_flatMap.2 ⟨(before, ns), place, ?_⟩, named⟩
      simp only [declarationsAt, opens, hasBody, if_true]
      exact List.mem_filterMap.2 ⟨(earlier, t), inner, declared⟩

/-- The candidates of a tree are what the positions of its top level contribute, in order and each
once; nothing that stands deeper is among them. -/
theorem candidates_by_position (root : ParseTree) (source : String) (kind : DeclKind) :
    candidates root source kind =
      ((positions root.namedChildren).flatMap fun (before, t) =>
        declarationsAt source kind before t) ∧
    ∀ c ∈ candidates root source kind,
      Searched root c.tree ∧ c.kind = kind ∧ declaresKind kind c.tree = true ∧
        ∃ name, c.tree.childByField? "name" = some name ∧
          c.qualifiedName = c.scope.qualify (coveredText source name) :=
  ⟨candidates_eq_positions root source kind, fun _ member => mem_candidates member⟩

end Introspect
