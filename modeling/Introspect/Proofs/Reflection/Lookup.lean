import Mathlib.Data.List.Find
import Introspect.Reflector
import Introspect.Proofs.Syntax.Copy
import Introspect.Proofs.Reflection.Candidates

/-! # Lookup and listing

A lookup compares the name that a candidate has in its parse tree, a listing shows the name that is
read off its copy:

* `LeafNames` — the declarations of a tree are named by leaves;
* `describe?_of_mem_candidates` — every candidate has a description, of its kind and with its name;
* `resolveOne_eq_find?_resolveAll` — a lookup finds the first description of the listing that the
  query matches.
-/

namespace Introspect

open Introspect.Syntax

/-! ## Names of candidates and of their descriptions -/

/-- Wherever the search looks, the name of a declaration is kept as one leaf. -/
def LeafNames (root : ParseTree) : Prop :=
  ∀ t kind name, Searched root t → declaresKind kind t = true →
    t.childByField? "name" = some name → Node.isLeaf name = true

/-- The trees at the places where the search looks. -/
def searchedTrees (root : ParseTree) : List ParseTree :=
  root.namedChildren ++ root.namedChildren.flatMap fun t =>
    if isNamespace t then (t.childByField? "body").toList.flatMap ParseTree.namedChildren else []

theorem mem_searchedTrees {root t : ParseTree} : t ∈ searchedTrees root ↔ Searched root t := by
  rw [searchedTrees, List.mem_append, List.mem_flatMap, Searched]
  refine or_congr_right (exists_congr fun ns => and_congr_right fun _ => ?_)
  cases isNamespace ns <;> simp

instance (root : ParseTree) : Decidable (LeafNames root) :=
  decidable_of_iff (∀ t ∈ searchedTrees root, ∀ kind ∈ [DeclKind.classLike, .function],
      declaresKind kind t = true → ∀ name ∈ t.childByField? "name", Node.isLeaf name = true) <| by
    simp only [mem_searchedTrees]
    constructor
    · intro h t kind name searched declares named
      exact h t searched kind (by cases kind <;> decide) declares name named
    · intro h t searched kind _ declares name named
      exact h t kind name searched declares named

theorem kind_of_declaresClass {t : ParseTree} (h : declaresKind .classLike t = true) :
    t.kind = "class_declaration" ∨ t.kind = "enum_declaration" ∨ t.kind = "interface_declaration" ∨
      t.kind = "trait_declaration" := by
  simpa [declaresKind] using h

theorem kind_of_declaresFunction {t : ParseTree} (h : declaresKind .function t = true) :
    t.kind = "function_definition" := by
  simpa [declaresKind] using h

theorem kind_notMem_atomicKinds {kind : DeclKind} {t : ParseTree}
    (declares : declaresKind kind t = true) : t.kind ∉ atomicKinds := by
  cases kind with
  | classLike => rcases kind_of_declaresClass declares with eq | eq | eq | eq <;> rw [eq] <;> decide
  | function => rw [kind_of_declaresFunction declares]; decide

/-- A declaration with a name is copied with all its children. -/
theorem isLeaf_of_declares {kind : DeclKind} {t name : ParseTree}
    (declares : declaresKind kind t = true) (named : t.childByField? "name" = some name) :
    Node.isLeaf t = false := by
  have hasChild : t.children ≠ [] := by
    intro empty
    simp [ParseTree.childByField?, empty] at named
  simp [Node.isLeaf, hasChild, kind_notMem_atomicKinds declares]

/-- The written name of a declaration that is copied out of its tree. -/
theorem leafText_name_ofTree (source : String) {kind : DeclKind} {t name : ParseTree}
    (declares : declaresKind kind t = true) (named : t.childByField? "name" = some name)
    (leaf : Node.isLeaf name = true) :
    ((Node.ofTree source t).childByField? "name").bind Node.leafText =
      some (coveredText source name) := by
  rw [Node.childByField?_ofTree source (isLeaf_of_declares declares named), named]
  simp [Node.copy_of_isLeaf source _ leaf, coveredText]

theorem classKind_isSome {t : ParseTree} (declares : declaresKind .classLike t = true) :
    ∃ kind, ClassKind.ofNodeKind? t.kind = some kind := by
  rcases kind_of_declaresClass declares with eq | eq | eq | eq <;> rw [eq] <;> exact ⟨_, rfl⟩

/-- A free function has the name of its namespace and its own. -/
theorem Function.name_of_free {f : Function} (free : f.owner = none) :
    f.name = f.scope.qualify f.shortName := by
  unfold name
  split
  · rename_i global
    have isGlobal : f.scope.isGlobal = true := by simpa [isMethod, free, inNamespace] using global
    rw [Namespace.qualify, isGlobal]
    rfl
  · rfl

/-- A candidate always has a description, of its kind and with its full name. -/
theorem describe?_of_mem_candidates {root : ParseTree} {source : Source} {kind : DeclKind}
    {c : Candidate} (names : LeafNames root) (member : c ∈ candidates root source.text kind) :
    ∃ r, c.describe? source = some r ∧ r.name = c.qualifiedName ∧ r.hasKind kind = true := by
  obtain ⟨searched, rfl, declares, name, named, qualified⟩ := mem_candidates member
  have written := leafText_name_ofTree source.text declares named
    (names _ _ _ searched declares named)
  have sameKind := Node.kind_ofTree source.text c.tree
  unfold Candidate.describe?
  cases kind : c.kind with
  | classLike =>
    rw [kind] at declares
    obtain ⟨classKind, isClass⟩ := classKind_isSome declares
    simp only [Class.ofNode?, sameKind, isClass, Option.map_some]
    refine ⟨_, rfl, ?_, rfl⟩
    rw [Reflection.name, Class.name, qualified, Class.shortName, declaredName?, written]
    rfl
  | function =>
    rw [kind] at declares
    have isFunction : functionKinds.contains c.tree.kind = true := by
      rw [kind_of_declaresFunction declares]
      decide
    simp only [Function.ofNode?, sameKind, isFunction, if_true, Option.map_some]
    refine ⟨_, rfl, ?_, rfl⟩
    rw [Reflection.name, Function.name_of_free rfl, qualified, Function.shortName, written]
    rfl

/-! ## One source -/

theorem candidates_of_sourceCandidates {limit : Nat} {source : Source} {kind : DeclKind}
    {cs : List Candidate} (h : sourceCandidates limit source kind = .ok cs) :
    ∃ parsed, Grammar.parse source.text source.label = .ok parsed ∧
      cs = candidates parsed.tree source.text kind := by
  unfold sourceCandidates at h
  split at h
  · contradiction
  · split at h
    · rename_i parsed success
      cases h
      exact ⟨parsed, success, rfl⟩
    · contradiction

/-- Where every candidate has a description with its name, it is all the same whether one looks for a
name among the candidates or among the descriptions. -/
theorem find?_describe? {source : Source} {cs : List Candidate} (p : String → Bool)
    (described : ∀ c ∈ cs, ∃ r, c.describe? source = some r ∧ r.name = c.qualifiedName) :
    (cs.find? fun c => p c.qualifiedName).bind (·.describe? source) =
      (cs.filterMap (·.describe? source)).find? fun r => p r.name := by
  induction cs with
  | nil => rfl
  | cons c cs ih =>
    obtain ⟨r, describes, name⟩ := described c (by simp)
    rw [List.filterMap_cons_some describes, List.find?_cons, List.find?_cons, name]
    cases p c.qualifiedName with
    | true => exact describes
    | false => exact ih fun d member => described d (by simp [member])

section

variable {limit : Nat} {source : Source}
  (names : ∀ parsed, Grammar.parse source.text source.label = .ok parsed → LeafNames parsed.tree)
include names

/-- A lookup is a search through the listing, and fails where the listing fails. -/
theorem resolveOne_eq_map (i : Identifier) :
    resolveOne limit source i =
      (resolveAll limit source i.kind).map fun rs => rs.find? fun r => i.matchesName r.name := by
  unfold resolveOne resolveAll
  cases found : sourceCandidates limit source i.kind with
  | error e => rfl
  | ok cs =>
    obtain ⟨parsed, success, rfl⟩ := candidates_of_sourceCandidates found
    refine congrArg Except.ok (find?_describe? i.matchesName fun c member => ?_)
    obtain ⟨r, describes, name, -⟩ := describe?_of_mem_candidates (names parsed success) member
    exact ⟨r, describes, name⟩

/-- A listing holds descriptions of the kind that was asked for. -/
theorem hasKind_of_mem_resolveAll {kind : DeclKind} {rs : List Reflection}
    (listed : resolveAll limit source kind = .ok rs) : ∀ r ∈ rs, r.hasKind kind = true := by
  unfold resolveAll at listed
  cases found : sourceCandidates limit source kind with
  | error e =>
    rw [found] at listed
    contradiction
  | ok cs =>
    obtain ⟨parsed, success, rfl⟩ := candidates_of_sourceCandidates found
    rw [found] at listed
    cases listed
    intro r member
    obtain ⟨c, candidate, describes⟩ := List.mem_filterMap.1 member
    obtain ⟨r', describes', -, ofKind⟩ :=
      describe?_of_mem_candidates (names parsed success) candidate
    rw [describes', Option.some.injEq] at describes
    exact describes ▸ ofKind

end

/-- The query for a name matches the names that are filed like it. -/
theorem matchesName_ofName (kind : DeclKind) (name other : String) :
    (Identifier.ofName kind name).matchesName other = (foldName other == foldName name) := by
  rw [Bool.beq_comm]
  rfl

/-- A name without separators in front is filed by its letters alone. -/
theorem foldName_beq_of_unrooted {name other : String} (h : unrooted name = name)
    (h' : unrooted other = other) : (foldName other == foldName name) = Text.sameFolded other name := by
  rw [foldName, foldName, h, h']
  rfl

/-- A lookup gives the first description of the listing that the query matches, nothing where there
is none, and fails exactly as the listing does.  So what is listed is of the kind that was asked for
and can be looked up by its own name, which gives the first one in the listing that has this name up
to letter case. -/
theorem resolveOne_eq_find?_resolveAll (limit : Nat) (source : Source) (i : Identifier)
    (names : ∀ parsed, Grammar.parse source.text source.label = .ok parsed →
      LeafNames parsed.tree) :
    resolveOne limit source i =
      ((resolveAll limit source i.kind).map fun rs => rs.find? fun r => i.matchesName r.name) ∧
    (∀ r, resolveOne limit source i = .ok (some r) → r.hasKind i.kind = true) ∧
    ∀ rs, resolveAll limit source i.kind = .ok rs → ∀ r ∈ rs,
      r.hasKind i.kind = true ∧
      ∃ first, resolveOne limit source (.ofName i.kind r.name) = .ok (some first) ∧
        rs.find? (fun q => foldName q.name == foldName r.name) = some first ∧
        ((∀ q ∈ rs, unrooted q.name = q.name) →
          rs.find? (fun q => Text.sameFolded q.name r.name) = some first) := by
  refine ⟨resolveOne_eq_map names i, fun r found => ?_, fun rs listed r member => ?_⟩
  · rw [resolveOne_eq_map names i] at found
    cases listed : resolveAll limit source i.kind with
    | error e =>
      rw [listed] at found
      contradiction
    | ok rs =>
      rw [listed] at found
      have first : rs.find? (fun r => i.matchesName r.name) = some r := Except.ok.inj found
      exact hasKind_of_mem_resolveAll names listed r (List.mem_of_find?_eq_some first)
  · -- The description itself has its name, so that the search for that name ends at it or before.
    refine ⟨hasKind_of_mem_resolveAll names listed r member, ?_⟩
    have sameName : rs.find? (fun q => (Identifier.ofName i.kind r.name).matchesName q.name) =
        rs.find? fun q => foldName q.name == foldName r.name := by
      simp only [matchesName_ofName]
    obtain ⟨first, found⟩ : ∃ first,
        rs.find? (fun q => foldName q.name == foldName r.name) = some first := by
      rw [← Option.isSome_iff_exists, List.find?_isSome]
      exact ⟨r, member, by simp⟩
    refine ⟨first, ?_, found, fun plain => ?_⟩
    · rw [resolveOne_eq_map names]
      change (resolveAll limit source i.kind).map _ = _
      rw [listed]
      exact congrArg Except.ok (sameName.trans found)
    · rw [← found]
      apply List.find?_congr
      intro q listedToo
      exact (foldName_beq_of_unrooted (plain r member) (plain q listedToo)).symm

theorem eq_ok_of_toOption {ε α : Type} {e : Except ε α} {a : α}
    (present : e.toOption = some a) : e = .ok a := by
  cases e with
  | error _ => cases present
  | ok b => exact congrArg _ (Option.some.inj present)

/-- A text that declares functions whose names differ in the case of letters only, and another. -/
def caseVariants : Source :=
  .evaluated "<?php namespace A; function f()\x7b\x7d function F()\x7b\x7d function g()\x7b\x7d"

/-- Each of the two names leads to the first of the two functions. -/
theorem resolveOne_caseVariants :
    (∃ parsed, Grammar.parse caseVariants.text caseVariants.label = .ok parsed ∧
      LeafNames parsed.tree) ∧
    ∃ first second third, resolveAll 100 caseVariants .function = .ok [first, second, third] ∧
      [first, second, third].map (·.name) = ["A\\f", "A\\F", "A\\g"] ∧
      first.hasKind .function = true ∧
      resolveOne 100 caseVariants (.ofName .function "\\a\\F") = .ok (some first) ∧
      resolveOne 100 caseVariants (.ofName .function second.name) = .ok (some first) ∧
      [first, second, third].find? (fun q => Text.sameFolded q.name second.name) = some first := by
  have checked : ((Grammar.parse caseVariants.text caseVariants.label).toOption.any fun parsed =>
      decide (LeafNames parsed.tree)) = true := by
    decide +kernel
  have listing : (resolveAll 100 caseVariants .function).toOption.map (·.map (·.name)) =
      some ["A\\f", "A\\F", "A\\g"] := by
    decide +kernel
  obtain ⟨parsed, success, leaves⟩ := (Option.any_eq_true _ _).1 checked
  have parses := eq_ok_of_toOption success
  have leaves := of_decide_eq_true leaves
  have names : ∀ parsed, Grammar.parse caseVariants.text caseVariants.label = .ok parsed →
      LeafNames parsed.tree := by
    intro other parsesToo
    cases parses.symm.trans parsesToo
    exact leaves
  obtain ⟨rs, present, listed⟩ := Option.map_eq_some_iff.1 listing
  obtain ⟨first, rest, rfl, f, listed⟩ := List.map_eq_cons_iff.1 listed
  obtain ⟨second, rest, rfl, F, listed⟩ := List.map_eq_cons_iff.1 listed
  obtain ⟨third, rest, rfl, g, listed⟩ := List.map_eq_cons_iff.1 listed
  obtain rfl := List.map_eq_nil_iff.1 listed
  have all := eq_ok_of_toOption present
  obtain ⟨lookup, -, own⟩ :=
    resolveOne_eq_find?_resolveAll 100 caseVariants (.ofName .function "\\a\\F") names
  obtain ⟨ofKind, -⟩ := own _ all first (by simp)
  obtain ⟨-, found, resolved, folded, plain⟩ := own _ all second (by simp)
  have unrootedNames : ∀ q ∈ [first, second, third], unrooted q.name = q.name := by
    simp only [List.forall_mem_cons, f, F, g]
    decide
  obtain rfl : first = found := by
    rw [List.find?_cons_of_pos (by rw [f, F]; decide)] at folded
    exact Option.some.inj folded
  refine ⟨⟨parsed, parses, leaves⟩, first, second, third, all, by simp [f, F, g], ofKind, ?_,
    resolved, plain unrootedNames⟩
  change _ = (resolveAll 100 caseVariants .function).map _ at lookup
  rw [lookup, all]
  refine congrArg Except.ok (List.find?_cons_of_pos ?_)
  rw [f]
  decide

end Introspect
