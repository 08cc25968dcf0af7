import Introspect.Proofs.Grammar.Bodies
import Introspect.Proofs.Reflection.Generators
import Introspect.Proofs.Reflection.QualifiedNames

/-! # Functions that are looked up

Whatever a lookup finds was read by the grammar, so that what the grammar says of declarations holds
of it:

* `Function.Declared` — functions as lookups find them, and methods of classes found so;
* `exists_copiedFrom_of_declared`, `Function.ofNode?_of_declared` — the declarations that they are
  copied from, and that nothing else makes them;
* `Function.openBody_of_declared` — their bodies are in braces;
* `Function.bare_of_declared` — their parameters for all remaining arguments have no default values.
-/

namespace Introspect

open Introspect.Syntax

/-- A lookup finds the function, or the class that it is a method of. -/
def Function.Declared (f : Function) : Prop :=
  (Reflection.ofFunction f).Resolved ∨ ∃ c, (Reflection.ofClass c).Resolved ∧ f ∈ c.methods

theorem Function.declared_of_resolveOne {f : Function} {limit : Nat} {source : Source}
    {i : Identifier} (found : resolveOne limit source i = .ok (some (.ofFunction f))) :
    f.Declared :=
  .inl (.inr ⟨_, _, _, found⟩)

/-- The function of a name in a short text. -/
def functionIn? (text name : String) : Option Function :=
  match resolveOne 100 (.evaluated text) (.ofName .function name) with
  | .ok (some (.ofFunction f)) => some f
  | _ => none

theorem resolveOne_of_functionIn? {text name : String} {f : Function}
    (found : functionIn? text name = some f) :
    resolveOne 100 (.evaluated text) (.ofName .function name) = .ok (some (.ofFunction f)) := by
  unfold functionIn? at found
  split at found
  · rename_i g resolved
    cases found
    exact resolved
  · cases found

/-! ## Declarations -/

theorem openDeclaration_of_searched {text origin : String} {parsed : Grammar.Parsed} {t : ParseTree}
    (read : Grammar.parse text origin = .ok parsed) (searched : Searched parsed.tree t) :
    Grammar.OpenDeclaration t := by
  have statement := Grammar.openStatement_of_parse read
  rcases searched with top | ⟨ns, top, opens, body, isBody, inner⟩
  · exact (statement t (List.mem_filter.1 top).1).declaration
  · have ofKind : ns.kind = "namespace_definition" := by simpa [isNamespace] using opens
    obtain ⟨child, inField⟩ := ParseTree.mem_of_childByField? isBody
    have scope := (statement ns (List.mem_filter.1 top).1).scope ofKind
    exact (scope body child).body inField t (List.mem_filter.1 inner).1

/-- What a lookup finds is described from a declaration that the grammar reads. -/
theorem exists_declaration_of_resolved {d : Reflection} (resolved : d.Resolved) :
    ∃ source, ∃ c : Candidate, ∃ kind, c.describe? source = some d ∧ d.hasKind kind = true ∧
      declaresKind kind c.tree = true ∧ Grammar.OpenDeclaration c.tree := by
  obtain ⟨source, parsed, kind, read, c, candidate, described⟩ :=
    Reflection.exists_candidate_of_resolved resolved
  obtain ⟨searched, -, declares, -⟩ := mem_candidates candidate
  obtain ⟨d', described', ofKind⟩ := hasKind_of_mem_candidates candidate
  rw [described, Option.some.injEq] at described'
  exact ⟨source, c, kind, described, described' ▸ ofKind, declares,
    openDeclaration_of_searched read searched⟩

theorem exists_copiedFrom_of_declared {f : Function} (declared : f.Declared) :
    ∃ source t, CopiedFrom source t f ∧ Grammar.Parts Grammar.Opened t := by
  rcases declared with resolved | ⟨k, resolved, member⟩
  · obtain ⟨source, c, kind, described, ofKind, declares, opened⟩ :=
      exists_declaration_of_resolved resolved
    obtain rfl : kind = .function := by simpa [Reflection.hasKind] using ofKind
    refine ⟨source, c.tree, copiedFrom_of_describe? described, opened.function ?_⟩
    rw [kind_of_declaresFunction declares]
    decide
  · obtain ⟨source, c, kind, described, ofKind, declares, opened⟩ :=
      exists_declaration_of_resolved resolved
    obtain rfl : kind = .classLike := by simpa [Reflection.hasKind] using ofKind
    obtain ⟨body, child, inField, t, grandchild, isFunction, copied⟩ :=
      exists_member_of_mem_methods described member
    have isClass : c.tree.kind ∈ functionKinds ++ Grammar.classKinds := by
      rcases kind_of_declaresClass declares with eq | eq | eq | eq <;> rw [eq] <;> decide
    refine ⟨source, t, copied, ?_⟩
    have inner := (opened isClass body child).body inField
    exact inner.functions t grandchild (by simpa using isFunction)

/-- A child of a declared function in some field is the copy of a part that the grammar reads. -/
theorem Function.exists_part_of_declared {f : Function} (declared : f.Declared) :
    ∃ source : Source, ∀ name m, f.node.childByField? name = some m →
      ∃ c, c.field = some name ∧ Grammar.AsPart Grammar.Opened c ∧
        m = Node.copy source.text c.field c := by
  obtain ⟨source, t, copied, parts⟩ := exists_copiedFrom_of_declared declared
  obtain ⟨field, node⟩ := copied.ofCopy
  refine ⟨source, fun name m isPart => ?_⟩
  obtain ⟨child, inField⟩ := Node.mem_of_childByField? isPart
  rw [node] at child
  obtain ⟨c, member, rfl⟩ := Node.exists_of_mem_children_copy child
  rw [Node.field_copy] at inField
  exact ⟨c, inField, parts c member, rfl⟩

theorem Function.ofNode?_self {n : Node} {source : Source} {scope : Namespace}
    {doc : Option String} {owner : Option MethodOwner} {f : Function}
    (made : ofNode? n source scope doc owner = some f) :
    ofNode? f.node f.source f.scope f.doc f.owner = some f := by
  obtain ⟨-, rfl⟩ := eq_of_ofNode? made
  exact made

/-- A declared function is what is made of its own node. -/
theorem Function.ofNode?_of_declared {f : Function} (declared : f.Declared) :
    ofNode? f.node f.source f.scope f.doc f.owner = some f := by
  rcases declared with resolved | ⟨k, -, member⟩
  · obtain ⟨source, c, kind, described, -⟩ := exists_declaration_of_resolved resolved
    unfold Candidate.describe? at described
    split at described
    · obtain ⟨k, -, impossible⟩ := Option.map_eq_some_iff.1 described
      cases impossible
    · obtain ⟨g, made, same⟩ := Option.map_eq_some_iff.1 described
      cases same
      exact ofNode?_self made
  · obtain ⟨entry, -, found⟩ := List.mem_filterMap.1 member
    simp only [Class.methodAt?, Option.bind_eq_bind, Option.bind_eq_some_iff] at found
    obtain ⟨body, -, node, -, made⟩ := found
    exact ofNode?_self made

/-! ## Bodies and parameters -/

/-- In the copy of a declaration with its body in braces, the body is no leaf. -/
theorem Function.openBody_of_declared {f : Function} (declared : f.Declared) :
    f.node.OpenBody := by
  obtain ⟨source, part⟩ := f.exists_part_of_declared declared
  intro body isBody
  obtain ⟨c, inField, asPart, rfl⟩ := part "body" body isBody
  rw [Node.copy_of_not_isLeaf _ _ (asPart.body inField), Node.leafText_mk]

theorem Function.bare_of_declared {f : Function} (declared : f.Declared) {p : Node}
    (member : p ∈ parameterNodes f.node) (variadic : p.kind = "variadic_parameter") :
    p.childByField? "default_value" = none := by
  obtain ⟨source, part⟩ := f.exists_part_of_declared declared
  unfold parameterNodes at member
  split at member
  · rename_i list isList
    obtain ⟨c, inField, asPart, rfl⟩ := part "parameters" list isList
    obtain ⟨u, listed, rfl⟩ := Node.exists_of_mem_children_copy (List.mem_filter.1 member).1
    rw [Node.kind_copy] at variadic
    have bare := asPart.parameters inField u listed variadic
    rw [Node.childByField?, List.find?_eq_none]
    intro d child
    obtain ⟨v, written, rfl⟩ := Node.exists_of_mem_children_copy child
    simpa using bare v written
  · cases member

end Introspect
