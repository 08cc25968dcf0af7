import Mathlib.Data.List.Find
import Introspect.Reflector
import Introspect.Proofs.Reflection.Comments
import Introspect.Proofs.Reflection.MethodIndex

/-! # Comments in classes

A class with comments and the same class without them are described alike, except where a comment
is taken for a part of a type, for the name of another class or for the value of a constant:

* `Class.outline` — the answers in which comments have no part;
* `Class.bases`, `Class.typing` — the other classes that it names, and the types of its methods;
* `QuietMethods`, `QuietClauses`, `QuietValues` — no comment is taken for something else;
* `descriptions_withoutComments` — descriptions of functions and classes without comments;
* `parentName?_commentedClass` — a comment that is taken for the name of a class.
-/

namespace Introspect

open Introspect.Syntax
open Introspect.Layout (tokenNode)

/-! ## Answers and conditions -/

/-- What a class tells of itself and of its methods, types, values and other classes apart. -/
structure Class.Outline where
  name : String
  methodNames : List String
  propertyNames : List String
  methods : List Function.Outline
deriving DecidableEq

def Class.outline (c : Class) : Class.Outline :=
  ⟨c.name, c.methodNames, c.propertyNames, c.methods.map Function.outline⟩

/-- The names of the classes that a class builds on. -/
def Class.bases (c : Class) : Option String × List String := (c.parentName?, c.interfaceNames)

def Class.typing (c : Class) : List (Option String × List Parameter.Typing) :=
  c.methods.map Function.typing

/-- The methods of a class have no comments in their types. -/
def QuietMethods (n : Node) : Prop := ∀ m ∈ methodNodes (memberNodes n), QuietTypes m

instance (n : Node) : Decidable (QuietMethods n) :=
  inferInstanceAs (Decidable (∀ m ∈ methodNodes (memberNodes n), QuietTypes m))

/-- The clauses that name other classes hold no comments. -/
def QuietClauses (n : Node) : Prop :=
  ∀ kind ∈ ["base_clause", "class_interface_clause"], ∀ clause ∈ n.childOfKind? kind,
    clause.CommentFree

instance (n : Node) : Decidable (QuietClauses n) :=
  inferInstanceAs (Decidable (∀ kind ∈ ["base_clause", "class_interface_clause"],
    ∀ clause ∈ n.childOfKind? kind, clause.CommentFree))

/-- The node that is taken for the value of a constant or a case. -/
def valueNode? (n : Node) : Option Node :=
  (n.namedChildren.filter fun c => c.kind != "name").getLast?

/-- The nodes among a member and its children that declare constants. -/
def constantNodes (m : Node) : List Node :=
  if m.kind = "const_declaration" then m.namedChildren.filter fun c => c.kind == "const_element"
  else if m.kind = "enum_case" then [m]
  else []

/-- No constant or case of a class has a comment for its value. -/
def QuietValues (n : Node) : Prop :=
  ∀ m ∈ memberNodes n, ∀ e ∈ constantNodes m, ∀ v ∈ valueNode? e, v.isComment = false

instance (n : Node) : Decidable (QuietValues n) :=
  inferInstanceAs (Decidable (∀ m ∈ memberNodes n, ∀ e ∈ constantNodes m,
    ∀ v ∈ valueNode? e, v.isComment = false))

/-! ## Members of classes -/

theorem memberNodes_withoutComments {n : Node} (h : n.Orderly) :
    memberNodes n.withoutComments = Node.dropComments (memberNodes n) := by
  unfold memberNodes
  rw [Node.body?, Node.childByField?_withoutComments h, Node.body?]
  cases n.childByField? "body" with
  | none => rfl
  | some body => exact Node.children_withoutComments body

theorem grammatical_of_mem_memberNodes {n m : Node} (h : Grammatical n)
    (member : m ∈ memberNodes n) : Grammatical m := by
  unfold memberNodes at member
  split at member
  · rename_i body found
    exact (h.child (Node.mem_of_childByField? found).1).child member
  · contradiction

theorem declaredName?_withoutComments {n : Node} (h : n.Orderly) :
    declaredName? n.withoutComments = declaredName? n := by
  rw [declaredName?, Node.childByField?_withoutComments h, declaredName?]
  cases n.childByField? "name" with
  | none => rfl
  | some name => simp

theorem methodNodes_withoutComments {n : Node} (h : Grammatical n) :
    methodNodes (memberNodes n.withoutComments) =
      (methodNodes (memberNodes n)).map Node.withoutComments := by
  rw [memberNodes_withoutComments h.orderly]
  refine Node.filter_dropComments (fun m member => ?_) fun m _ comment => ?_
  · have orderly := (grammatical_of_mem_memberNodes h member).orderly
    simp only [isMethodNode, Node.named_withoutComments, Node.kind_withoutComments,
      declaredName?_withoutComments orderly]
  · simp [isMethodNode, Node.isComment_iff.1 comment]

theorem memberProperties_withoutComments {m : Node} (h : m.Orderly) :
    memberProperties m.withoutComments = memberProperties m := by
  have elements := Node.filter_kind_dropComments (p := (· == "property_element")) rfl
    m.namedChildren
  simp only [memberProperties, Node.kind_withoutComments, Node.namedChildren_withoutComments,
    elements, List.filterMap_map]
  congr 1
  apply List.filterMap_congr
  intro e member
  have orderly := h.child (List.mem_of_mem_filter (List.mem_of_mem_filter member))
  rw [Function.comp_apply, Node.childOfKind?_withoutComments_of_atomic orderly (by decide)
    (by decide : "variable_name" ≠ "comment")]

/-! ## Constants -/

theorem memberConstants_eq (m : Node) :
    memberConstants m = (constantNodes m).filterMap nameAndValue? := by
  unfold memberConstants constantNodes
  split
  · rename_i declaration
    rw [if_pos declaration]
  · rename_i enumCase
    rw [enumCase, if_neg (by decide), if_pos rfl, List.filterMap_cons]
    cases nameAndValue? m <;> rfl
  · rename_i declaration enumCase
    rw [if_neg declaration, if_neg enumCase]
    rfl

theorem constantNodes_withoutComments (m : Node) :
    constantNodes m.withoutComments = (constantNodes m).map Node.withoutComments := by
  have elements := Node.filter_kind_dropComments (p := (· == "const_element")) rfl m.namedChildren
  unfold constantNodes
  rw [Node.kind_withoutComments, Node.namedChildren_withoutComments, elements]
  split
  · rfl
  · split <;> rfl

theorem orderly_of_mem_constantNodes {m e : Node} (h : m.Orderly) (member : e ∈ constantNodes m) :
    e.Orderly := by
  unfold constantNodes at member
  split at member
  · exact h.child (List.mem_of_mem_filter (List.mem_of_mem_filter member))
  · split at member
    · rw [List.mem_singleton.1 member]
      exact h
    · contradiction

/-- A value that is no comment is the value without comments too: what follows it is dropped. -/
theorem valueNode?_withoutComments {n : Node}
    (quiet : ∀ v ∈ valueNode? n, v.isComment = false) :
    valueNode? n.withoutComments = (valueNode? n).map Node.withoutComments := by
  have kept : ((n.namedChildren.filter fun c => c.kind != "name").filter
      fun c => !c.isComment).getLast? = valueNode? n := by
    cases last : valueNode? n with
    | none => rw [List.getLast?_eq_none_iff.1 last]; rfl
    | some v =>
      obtain ⟨before, split⟩ := List.getLast?_eq_some_iff.1 last
      simp [split, quiet v last]
  rw [← kept, valueNode?, Node.namedChildren_withoutComments, Node.dropComments_eq_map,
    List.filter_map, List.getLast?_map, List.filter_filter, List.filter_filter]
  congr 2
  apply List.filter_congr
  intro c _
  rw [Function.comp_apply, Node.kind_withoutComments, Bool.and_comm]

theorem nameAndValue?_withoutComments {n : Node} (h : n.Orderly)
    (quiet : ∀ v ∈ valueNode? n, v.isComment = false) :
    nameAndValue? n.withoutComments = nameAndValue? n := by
  have name := Node.childOfKind?_withoutComments_of_atomic h (by decide)
    (by decide : "name" ≠ "comment")
  have value : (valueNode? n.withoutComments).map (fun v => Layout.printStatements [v]) =
      (valueNode? n).map fun v => Layout.printStatements [v] := by
    rw [valueNode?_withoutComments quiet, Option.map_map]
    congr 1
    funext v
    exact Layout.printStatements_map_withoutComments [v]
  simp only [valueNode?] at value
  simp only [nameAndValue?, name, value]

theorem memberConstants_withoutComments {m : Node} (h : m.Orderly)
    (quiet : ∀ e ∈ constantNodes m, ∀ v ∈ valueNode? e, v.isComment = false) :
    memberConstants m.withoutComments = memberConstants m := by
  rw [memberConstants_eq, memberConstants_eq, constantNodes_withoutComments, List.filterMap_map]
  apply List.filterMap_congr
  intro e member
  exact nameAndValue?_withoutComments (orderly_of_mem_constantNodes h member) (quiet e member)

/-! ## Classes -/

namespace Class

/-- The class around the same declaration without comments. -/
def withoutComments (c : Class) : Class :=
  { c with node := c.node.withoutComments, index := indexMethods c.node.withoutComments }

@[simp] theorem node_withoutComments (c : Class) :
    c.withoutComments.node = c.node.withoutComments := rfl

theorem ofNode?_withoutComments (n : Node) (source : Source) (scope : Namespace)
    (doc : Option String) :
    ofNode? n.withoutComments source scope doc =
      (ofNode? n source scope doc).map withoutComments := by
  rw [ofNode?, Node.kind_withoutComments, ofNode?, Option.map_map]
  rfl

variable {c : Class}

theorem name_withoutComments (h : c.node.Orderly) : c.withoutComments.name = c.name := by
  simp only [name, shortName, withoutComments, declaredName?_withoutComments h]

theorem orderly_of_mem_members (h : Grammatical c.node) {m : Node} (member : m ∈ c.members) :
    m.Orderly := by
  rw [members_eq] at member
  exact (grammatical_of_mem_memberNodes h (List.mem_of_mem_filter member)).orderly

theorem members_withoutComments (h : c.node.Orderly) :
    c.withoutComments.members = Node.dropComments c.members := by
  simp only [members, withoutComments, Node.body?, Node.childByField?_withoutComments h]
  cases c.node.childByField? "body" with
  | none => rfl
  | some body => exact Node.namedChildren_withoutComments body

/-! ### Methods -/

theorem methodOf?_withoutComments (h : Grammatical c.node) {m : Node} (grammatical : Grammatical m) :
    c.withoutComments.methodOf? m.withoutComments =
      (c.methodOf? m).map Function.withoutComments := by
  rw [methodOf?, name_withoutComments h.orderly, Function.ofNode?_withoutComments grammatical]
  rfl

/-- An answer that is the same for a method is the same for what its node declares. -/
theorem map_methodOf?_withoutComments {α : Type} (h : Grammatical c.node) {m : Node}
    (grammatical : Grammatical m) (answer : Function → α)
    (same : ∀ f : Function, f.node = m → answer f.withoutComments = answer f) :
    (c.withoutComments.methodOf? m.withoutComments).map answer = (c.methodOf? m).map answer := by
  rw [methodOf?_withoutComments h grammatical, Option.map_map]
  cases found : c.methodOf? m with
  | none => rfl
  | some f => exact congrArg some (same f (Function.node_of_ofNode? found))

/-- An answer that depends neither on comments nor on documentation is the same for all methods. -/
theorem map_methods_withoutComments {α : Type} (indexed : c.index = indexMethods c.node)
    (h : Grammatical c.node) (answer : Function → α)
    (undocumented : ∀ f, answer f.undocumented = answer f)
    (same : ∀ f : Function, f.node ∈ methodNodes (memberNodes c.node) → Grammatical f.node →
      answer f.withoutComments = answer f) :
    c.withoutComments.methods.map answer = c.methods.map answer := by
  -- Comments shift the positions in the index, so both sides are read off the members instead.
  have told {d : Class} (indexed : d.index = indexMethods d.node) :
      d.methods.map answer =
        ((methodNodes (memberNodes d.node)).filterMap d.methodOf?).map answer := by
    rw [← methods_undocumented indexed, List.map_map]
    exact List.map_congr_left fun f _ => (undocumented f).symm
  rw [told indexed, told (d := c.withoutComments) rfl, node_withoutComments,
    methodNodes_withoutComments h, List.filterMap_map, List.map_filterMap, List.map_filterMap]
  apply List.filterMap_congr
  intro m member
  have grammatical := grammatical_of_mem_memberNodes h (List.mem_of_mem_filter member)
  apply map_methodOf?_withoutComments h grammatical
  rintro f rfl
  exact same f member grammatical

theorem outline_method?_withoutComments (indexed : c.index = indexMethods c.node)
    (h : Grammatical c.node) (name : String) :
    (c.withoutComments.method? name).map Function.outline =
      (c.method? name).map Function.outline := by
  have told {d : Class} (indexed : d.index = indexMethods d.node) :
      (d.method? name).map Function.outline =
        (((methodNodes (memberNodes d.node)).find? fun m => methodKey m == Text.foldCase name).bind
          d.methodOf?).map Function.outline := by
    rw [← method?_undocumented indexed, Option.map_map]
    rfl
  have grammatical {m : Node} (member : m ∈ methodNodes (memberNodes c.node)) : Grammatical m :=
    grammatical_of_mem_memberNodes h (List.mem_of_mem_filter member)
  have keys : (methodNodes (memberNodes c.node)).find?
      ((fun m => methodKey m == Text.foldCase name) ∘ Node.withoutComments) =
        (methodNodes (memberNodes c.node)).find? fun m => methodKey m == Text.foldCase name := by
    apply List.find?_congr
    intro m member
    simp only [Function.comp_apply, methodKey,
      declaredName?_withoutComments (grammatical member).orderly]
  rw [told indexed, told (d := c.withoutComments) rfl, node_withoutComments,
    methodNodes_withoutComments h, List.find?_map, keys, Option.bind_map]
  cases found : (methodNodes (memberNodes c.node)).find?
      fun m => methodKey m == Text.foldCase name with
  | none => rfl
  | some m =>
    have grammatical := grammatical (List.mem_of_find?_eq_some found)
    apply map_methodOf?_withoutComments h grammatical
    rintro f rfl
    exact Function.outline_withoutComments grammatical

theorem methodNames_withoutComments (h : Grammatical c.node) :
    c.withoutComments.methodNames = c.methodNames := by
  have methods : (c.withoutComments.members.filter fun m => m.kind == "method_declaration") =
      (c.members.filter fun m => m.kind == "method_declaration").map Node.withoutComments := by
    rw [members_withoutComments h.orderly]
    exact Node.filter_kind_dropComments (p := (· == "method_declaration")) rfl c.members
  rw [methodNames, methods, List.filterMap_map]
  apply List.filterMap_congr
  intro m member
  exact declaredName?_withoutComments (orderly_of_mem_members h (List.mem_of_mem_filter member))

/-! ### Properties and constants -/

/-- The outline of the constructor tells which properties it declares. -/
theorem promoted_outline (f : Function) :
    (f.parameters.filter (·.isPromoted)).map (·.name) =
      (f.outline.parameters.filter fun p => p.form == .promoted).map (·.name) := by
  simp only [Function.outline, List.filter_map, List.map_map]
  rfl

theorem propertyNames_withoutComments (indexed : c.index = indexMethods c.node)
    (h : Grammatical c.node) : c.withoutComments.propertyNames = c.propertyNames := by
  have declared : c.withoutComments.members.flatMap memberProperties =
      c.members.flatMap memberProperties := by
    rw [members_withoutComments h.orderly]
    refine Node.flatMap_dropComments (fun m member => ?_) fun m _ comment => ?_
    · exact memberProperties_withoutComments (orderly_of_mem_members h member)
    · simp [memberProperties, Node.isComment_iff.1 comment]
  have constructor := outline_method?_withoutComments indexed h "__construct"
  rw [propertyNames, declared, propertyNames]
  congr 1
  cases before : c.method? "__construct" <;> cases after : c.withoutComments.method? "__construct"
  · rfl
  · simp [before, after] at constructor
  · simp [before, after] at constructor
  · rw [before, after] at constructor
    simp only [promoted_outline, Option.some.inj constructor]

theorem constants_withoutComments (h : Grammatical c.node) (quiet : QuietValues c.node) :
    c.withoutComments.constants = c.constants := by
  rw [constants, members_withoutComments h.orderly, constants]
  refine Node.flatMap_dropComments (fun m member => ?_) fun m _ comment => ?_
  · apply memberConstants_withoutComments (orderly_of_mem_members h member)
    rw [members_eq] at member
    exact quiet m (List.mem_of_mem_filter member)
  · simp [memberConstants, Node.isComment_iff.1 comment]

/-! ### Whole classes -/

theorem outline_withoutComments (indexed : c.index = indexMethods c.node) (h : Grammatical c.node) :
    c.withoutComments.outline = c.outline := by
  have methods := map_methods_withoutComments indexed h Function.outline (fun _ => rfl)
    fun f _ grammatical => Function.outline_withoutComments grammatical
  rw [outline, name_withoutComments h.orderly, methodNames_withoutComments h,
    propertyNames_withoutComments indexed h, methods]
  rfl

theorem bases_withoutComments (quiet : QuietClauses c.node) : c.withoutComments.bases = c.bases := by
  have clauses (kind : String) (among : kind ∈ ["base_clause", "class_interface_clause"]) :
      c.withoutComments.clauseNames kind = c.clauseNames kind := by
    have other : kind ≠ "comment" := by rintro rfl; simp at among
    simp only [clauseNames, withoutComments, Node.childOfKind?_withoutComments c.node other]
    cases found : c.node.childOfKind? kind with
    | none => rfl
    | some clause =>
      simp only [Option.map_some,
        Node.withoutComments_of_commentFree (quiet kind among clause found)]
  have parent : c.withoutComments.parentName? = c.parentName? := by
    simp only [parentName?, clauses "base_clause" (by decide)]
    rfl
  have interfaces : c.withoutComments.interfaceNames = c.interfaceNames := by
    refine clauses _ ?_
    split <;> decide
  rw [bases, parent, interfaces]
  rfl

theorem typing_withoutComments (indexed : c.index = indexMethods c.node) (h : Grammatical c.node)
    (quiet : QuietMethods c.node) : c.withoutComments.typing = c.typing :=
  map_methods_withoutComments indexed h Function.typing (fun _ => rfl)
    fun f member grammatical => Function.typing_withoutComments grammatical (quiet f.node member)

end Class

/-! ## Descriptions -/

/-- A declaration is described alike with and without comments, as far as no comment stands in a
type, in a clause that names other classes, or in the place of a value. -/
theorem descriptions_withoutComments {n : Node} (h : Grammatical n) (source : Source)
    (scope : Namespace) (doc : Option String) :
    (∀ owner,
      let described := fun m => Function.ofNode? m source scope doc owner
      (described n.withoutComments).map Function.outline = (described n).map Function.outline ∧
      (QuietTypes n →
        (described n.withoutComments).map Function.typing = (described n).map Function.typing)) ∧
    let described := fun m => Class.ofNode? m source scope doc
    (described n.withoutComments).map Class.outline = (described n).map Class.outline ∧
    (QuietClauses n →
      (described n.withoutComments).map Class.bases = (described n).map Class.bases) ∧
    (QuietValues n →
      (described n.withoutComments).map Class.constants = (described n).map Class.constants) ∧
    (QuietMethods n →
      (described n.withoutComments).map Class.typing = (described n).map Class.typing) := by
  constructor
  · intro owner described
    simp only [described, Function.ofNode?_withoutComments h, Option.map_map]
    cases found : Function.ofNode? n source scope doc owner with
    | none => exact ⟨rfl, fun _ => rfl⟩
    | some f =>
      obtain rfl := Function.node_of_ofNode? found
      exact ⟨congrArg some (Function.outline_withoutComments h),
        fun quiet => congrArg some (Function.typing_withoutComments h quiet)⟩
  · intro described
    simp only [described, Class.ofNode?_withoutComments, Option.map_map]
    cases found : Class.ofNode? n source scope doc with
    | none => exact ⟨rfl, fun _ => rfl, fun _ => rfl, fun _ => rfl⟩
    | some c =>
      obtain ⟨rfl, indexed⟩ := Class.node_of_ofNode? found
      exact ⟨congrArg some (Class.outline_withoutComments indexed h),
        fun quiet => congrArg some (Class.bases_withoutComments quiet),
        fun quiet => congrArg some (Class.constants_withoutComments h quiet),
        fun quiet => congrArg some (Class.typing_withoutComments indexed h quiet)⟩

/-- A class with comments around its clause, its constant and its method, none of which shows. -/
def quietClass : Node :=
  let leaf := fun kind field text => Node.mk kind true field none (some text) []
  let inner := fun kind field children => Node.mk kind true field none none children
  inner "class_declaration" none [
    tokenNode "class", leaf "name" (some "name") "A",
    inner "base_clause" none [tokenNode "extends", leaf "name" none "B"],
    leaf "comment" none "/* a */",
    inner "declaration_list" (some "body") [
      tokenNode "\x7b",
      inner "const_declaration" none [tokenNode "const", inner "const_element" none [
        leaf "name" none "X", tokenNode "=", leaf "comment" none "/* b */",
        leaf "integer" none "1"], tokenNode ";"],
      leaf "comment" none "/** C */",
      inner "method_declaration" none [
        tokenNode "function", leaf "name" (some "name") "f",
        inner "formal_parameters" (some "parameters") [tokenNode "(",
          inner "simple_parameter" none [leaf "primitive_type" (some "type") "int",
            leaf "comment" none "/* d */", leaf "variable_name" (some "name") "$x"],
          tokenNode ")"],
        inner "compound_statement" (some "body") [
          tokenNode "\x7b", leaf "comment" none "/* e */", tokenNode "\x7d"]],
      tokenNode "\x7d"]]

theorem descriptions_quietClass :
    Grammatical quietClass ∧
    (QuietClauses quietClass ∧ QuietValues quietClass ∧ QuietMethods quietClass) ∧
    ¬ quietClass.CommentFree ∧
    let described := fun m => Class.ofNode? m (.evaluated "") .global none
    (described quietClass.withoutComments).map Class.outline =
      (described quietClass).map Class.outline ∧
    (described quietClass.withoutComments).map Class.bases =
      (described quietClass).map Class.bases ∧
    (described quietClass.withoutComments).map Class.constants =
      (described quietClass).map Class.constants ∧
    (described quietClass.withoutComments).map Class.typing =
      (described quietClass).map Class.typing := by
  have grammatical : Grammatical quietClass := by decide +kernel
  have clauses : QuietClauses quietClass := by decide +kernel
  have values : QuietValues quietClass := by decide +kernel
  have methods : QuietMethods quietClass := by decide +kernel
  obtain ⟨-, outline, bases, constants, typing⟩ :=
    descriptions_withoutComments grammatical (.evaluated "") .global none
  exact ⟨grammatical, ⟨clauses, values, methods⟩, by decide +kernel, outline, bases clauses,
    constants values, typing methods⟩

/-- A lookup in one text. -/
def classIn? (code name : String) : Option Class :=
  (Reflector.reflectClass ⟨.text code, 1000⟩ { files := .empty [] } name).toOption

/-- A comment before the name of the class that is extended is taken for that name. -/
theorem parentName?_commentedClass :
    ∃ c, classIn? "<?php class A extends /* x */ B \x7b\x7d" "A" = some c ∧
      c.parentName? = some "/*x*/" ∧
      ∃ d, Class.ofNode? c.node.withoutComments c.source c.scope c.doc = some d ∧
        d.parentName? = some "B" := by
  have checked : ((classIn? "<?php class A extends /* x */ B \x7b\x7d" "A").any
      fun c => c.parentName? == some "/*x*/" &&
        (Class.ofNode? c.node.withoutComments c.source c.scope c.doc).any
          fun d => d.parentName? == some "B") = true := by
    decide +kernel
  obtain ⟨c, found, told⟩ := (Option.any_eq_true _ _).1 checked
  obtain ⟨comment, bare⟩ := Bool.and_eq_true_iff.1 told
  obtain ⟨d, described, parent⟩ := (Option.any_eq_true _ _).1 bare
  exact ⟨c, found, beq_iff_eq.1 comment, d, described, beq_iff_eq.1 parent⟩

end Introspect
