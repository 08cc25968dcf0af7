import Introspect.Reflection.Function
import Introspect.Proofs.Layout.Spacing
import Introspect.Proofs.Syntax.Body

/-! # Comments in functions

A function with comments and the same function without them are described alike, except where a
comment is taken for a part of a type:

* `Parameter.outline`, `Function.outline` — the answers in which comments have no part;
* `Parameter.typing`, `Function.typing` — the answers that are read off types;
* `Grammatical` — what the grammar guarantees of comments and names;
* `QuietTypes` — types and default values have no comments in them;
* `Function.outline_withoutComments`, `Function.typing_withoutComments` — functions without comments.
-/

namespace Introspect

open Introspect.Syntax

/-! ## Answers -/

/-- What a parameter tells of itself, its type apart. -/
structure Parameter.Outline where
  name : String
  position : Nat
  optional : Bool
  byReference : Bool
  form : ParameterForm
  owner : ParameterOwner
  defaultCode : Option String
deriving DecidableEq

def Parameter.outline (p : Parameter) : Parameter.Outline :=
  ⟨p.name, p.position, p.optional, p.byReference, p.form, p.owner, p.defaultCode⟩

/-- What the type of a parameter tells. -/
structure Parameter.Typing where
  hint : Option String
  className : Option String
  isArray : Bool
  isCallable : Bool
  allowsNull : Bool
deriving DecidableEq

def Parameter.typing (p : Parameter) : Parameter.Typing :=
  ⟨p.typeHint, p.className?, p.isArray, p.isCallable, p.allowsNull⟩

/-- What a function tells of itself, types apart. -/
structure Function.Outline where
  name : String
  parameters : List Parameter.Outline
  optional : List Bool
  isVariadic : Bool
  isGenerator : Bool
  returnsReference : Bool
  bodyCode : String
deriving DecidableEq

def Function.outline (f : Function) : Function.Outline :=
  ⟨f.name, f.parameters.map Parameter.outline, f.optional, f.isVariadic, f.isGenerator,
    f.returnsReference, f.bodyCode⟩

/-- The return type of a function, and what the types of its parameters tell. -/
def Function.typing (f : Function) : Option String × List Parameter.Typing :=
  (f.returnType?, f.parameters.map Parameter.typing)

/-! ## Guarantees and conditions -/

/-- At the node and beneath it, comments occupy no field, atomic nodes have no children, and the
names of parameters are atomic. -/
structure Grammatical (n : Node) : Prop where
  orderly : n.Orderly
  names : ∀ m ∈ n.preorder, m.kind ∈ parameterKinds →
    ∀ name ∈ m.childByField? "name", name.kind ∈ atomicKinds

instance (n : Node) : Decidable (Grammatical n) :=
  decidable_of_iff (n.Orderly ∧ ∀ m ∈ n.preorder, m.kind ∈ parameterKinds →
    ∀ name ∈ m.childByField? "name", name.kind ∈ atomicKinds)
    ⟨fun h => ⟨h.1, h.2⟩, fun h => ⟨h.1, h.2⟩⟩

theorem Grammatical.child {n c : Node} (h : Grammatical n) (member : c ∈ n.children) :
    Grammatical c where
  orderly := h.orderly.child member
  names := (Node.forall_mem_preorder.1 h.names).2 c member

/-- The types of a function and the default values of its parameters hold no comments. -/
structure QuietTypes (n : Node) : Prop where
  returned : ∀ t ∈ n.childByField? "return_type", t.CommentFree
  hints : ∀ p ∈ parameterNodes n, ∀ t ∈ p.childByField? "type", t.CommentFree
  defaults : ∀ p ∈ parameterNodes n, ∀ d ∈ p.childByField? "default_value", d.CommentFree

instance (n : Node) : Decidable (QuietTypes n) :=
  decidable_of_iff ((∀ t ∈ n.childByField? "return_type", t.CommentFree) ∧
    (∀ p ∈ parameterNodes n, ∀ t ∈ p.childByField? "type", t.CommentFree) ∧
    ∀ p ∈ parameterNodes n, ∀ d ∈ p.childByField? "default_value", d.CommentFree)
    ⟨fun h => ⟨h.1, h.2.1, h.2.2⟩, fun h => ⟨h.1, h.2, h.3⟩⟩

/-! ## Parameters -/

theorem Parameter.outline_withoutComments {p : Node} (h : Grammatical p)
    (isParameter : p.kind ∈ parameterKinds) (owner : ParameterOwner) (position : Nat)
    (optional : Bool) :
    (ofNode owner p.withoutComments position optional).outline =
      (ofNode owner p position optional).outline := by
  -- The name is one leaf, and the default value is printed without its comments.
  have name : (p.childByField? "name").map Node.withoutComments = p.childByField? "name" := by
    cases found : p.childByField? "name" with
    | none => rfl
    | some name =>
      have atomic := (Node.forall_mem_preorder.1 h.names).1 isParameter name found
      have orderly := h.orderly.child (Node.mem_of_childByField? found).1
      rw [Option.map_some, orderly.withoutComments_of_atomic atomic]
  have reference := Node.hasChildOfKind_withoutComments p
    (by decide : "reference_modifier" ≠ "comment")
  have default : ((p.childByField? "default_value").map Node.withoutComments).map
      (fun n => Layout.printStatements [n]) =
        (p.childByField? "default_value").map fun n => Layout.printStatements [n] := by
    rw [Option.map_map]
    congr 1
    funext n
    exact Layout.printStatements_map_withoutComments [n]
  simp only [outline, ofNode, defaultCode, Node.childByField?_withoutComments h.orderly, name,
    reference, default, Node.kind_withoutComments]

theorem Parameter.typing_withoutComments {p : Node} (h : p.Orderly)
    (hint : ∀ t ∈ p.childByField? "type", t.CommentFree)
    (default : ∀ d ∈ p.childByField? "default_value", d.CommentFree)
    (owner : ParameterOwner) (position : Nat) (optional : Bool) :
    (ofNode owner p.withoutComments position optional).typing =
      (ofNode owner p position optional).typing := by
  have kept {name : String} (free : ∀ t ∈ p.childByField? name, t.CommentFree) :
      p.withoutComments.childByField? name = p.childByField? name := by
    rw [Node.childByField?_withoutComments h]
    cases found : p.childByField? name with
    | none => rfl
    | some t => rw [Option.map_some, Node.withoutComments_of_commentFree (free t found)]
  have sameHint : (ofNode owner p.withoutComments position optional).typeHint =
      (ofNode owner p position optional).typeHint := by
    simp only [ofNode, kept hint]
  have sameDefault : (ofNode owner p.withoutComments position optional).default =
      (ofNode owner p position optional).default := by
    simp only [ofNode, kept default]
  have sameOwner : (ofNode owner p.withoutComments position optional).owner =
      (ofNode owner p position optional).owner := rfl
  simp only [typing, className?, isArray, isCallable, allowsNull, singleType?, defaultsToNull,
    sameHint, sameDefault, sameOwner]

theorem parameterNodes_withoutComments {n : Node} (h : n.Orderly) :
    parameterNodes n.withoutComments = (parameterNodes n).map Node.withoutComments := by
  unfold parameterNodes
  rw [Node.childByField?_withoutComments h]
  cases n.childByField? "parameters" with
  | none => rfl
  | some list =>
    simp only [Option.map_some, Node.children_withoutComments]
    exact Node.filter_kind_dropComments (by decide) list.children

theorem grammatical_of_mem_parameterNodes {n p : Node} (h : Grammatical n)
    (member : p ∈ parameterNodes n) : Grammatical p ∧ p.kind ∈ parameterKinds := by
  unfold parameterNodes at member
  split at member
  · rename_i list found
    obtain ⟨child, isParameter⟩ := List.mem_filter.1 member
    exact ⟨(h.child (Node.mem_of_childByField? found).1).child child, by simpa using isParameter⟩
  · contradiction

/-! ## Functions -/

namespace Function

/-- The function around the same declaration without comments. -/
def withoutComments (f : Function) : Function := { f with node := f.node.withoutComments }

/-- Which parameters may be left out does not depend on comments. -/
theorem ofNode?_withoutComments {n : Node} (h : Grammatical n) (source : Source)
    (scope : Namespace) (doc : Option String) (owner : Option MethodOwner) :
    ofNode? n.withoutComments source scope doc owner =
      (ofNode? n source scope doc owner).map withoutComments := by
  have flags : ((parameterNodes n.withoutComments).map fun p =>
      (p.childByField? "default_value").isSome) =
        (parameterNodes n).map fun p => (p.childByField? "default_value").isSome := by
    rw [parameterNodes_withoutComments h.orderly, List.map_map]
    apply List.map_congr_left
    intro p member
    have orderly := (grammatical_of_mem_parameterNodes h member).1.orderly
    rw [Function.comp_apply, Node.childByField?_withoutComments orderly, Option.isSome_map]
  unfold ofNode?
  rw [Node.kind_withoutComments, flags]
  split <;> rfl

theorem node_of_ofNode? {n : Node} {source : Source} {scope : Namespace} {doc : Option String}
    {owner : Option MethodOwner} {f : Function} (found : ofNode? n source scope doc owner = some f) :
    f.node = n := by
  rw [(eq_of_ofNode? found).2]

variable {f : Function}

theorem name_withoutComments (h : f.node.Orderly) : f.withoutComments.name = f.name := by
  have short : f.withoutComments.shortName = f.shortName := by
    simp only [shortName, withoutComments, Node.childByField?_withoutComments h]
    cases f.node.childByField? "name" with
    | none => rfl
    | some name => simp
  simp only [name, short]
  rfl

/-- What is the same for every parameter is the same for their list. -/
theorem map_parameters_withoutComments {α : Type} (h : Grammatical f.node)
    (answer : Parameter → α)
    (same : ∀ p ∈ parameterNodes f.node, ∀ owner position optional,
      answer (.ofNode owner p.withoutComments position optional) =
        answer (.ofNode owner p position optional)) :
    f.withoutComments.parameters.map answer = f.parameters.map answer := by
  have nodes : parameterNodes f.withoutComments.node =
      (parameterNodes f.node).map Node.withoutComments :=
    parameterNodes_withoutComments h.orderly
  simp only [parameters, name_withoutComments h.orderly]
  rw [nodes, List.zip_map_left, List.zipIdx_map, List.map_map, List.map_map, List.map_map]
  apply List.map_congr_left
  rintro ⟨⟨p, optional⟩, position⟩ member
  exact same p (List.of_mem_zip (List.fst_mem_of_mem_zipIdx member)).1 _ position optional

theorem bodyStatements_withoutComments (h : f.node.Orderly) :
    f.withoutComments.bodyStatements = f.bodyStatements.map Node.withoutComments := by
  simp only [bodyStatements, withoutComments, Node.body?, Node.childByField?_withoutComments h]
  cases f.node.childByField? "body" with
  | none => rfl
  | some body => exact Node.statements_withoutComments body

/-- Types apart, a function tells the same with and without comments. -/
theorem outline_withoutComments (h : Grammatical f.node) : f.withoutComments.outline = f.outline := by
  have parameters : f.withoutComments.parameters.map Parameter.outline =
      f.parameters.map Parameter.outline := by
    apply map_parameters_withoutComments h
    intro p member
    obtain ⟨grammatical, isParameter⟩ := grammatical_of_mem_parameterNodes h member
    exact Parameter.outline_withoutComments grammatical isParameter
  have variadic : f.withoutComments.isVariadic = f.isVariadic := by
    simp only [isVariadic, withoutComments, parameterNodes_withoutComments h.orderly, List.any_map,
      Function.comp_def, Node.kind_withoutComments]
    rfl
  have generator : f.withoutComments.isGenerator = f.isGenerator := by
    simp only [isGenerator, withoutComments, Node.any_withoutComments
      (by decide : "yield_expression" ≠ "comment") h.orderly]
    rfl
  have reference : f.withoutComments.returnsReference = f.returnsReference :=
    Node.hasChildOfKind_withoutComments f.node (by decide)
  have body : f.withoutComments.bodyCode = f.bodyCode := by
    rw [bodyCode, bodyWith, bodyStatements_withoutComments h.orderly]
    exact Layout.printStatements_map_withoutComments _
  rw [outline, name_withoutComments h.orderly, parameters, variadic, generator, reference, body]
  rfl

/-- Types without comments in them are told alike. -/
theorem typing_withoutComments (h : Grammatical f.node) (quiet : QuietTypes f.node) :
    f.withoutComments.typing = f.typing := by
  have returned : f.withoutComments.returnType? = f.returnType? := by
    simp only [returnType?, withoutComments, Node.childByField?_withoutComments h.orderly]
    cases found : f.node.childByField? "return_type" with
    | none => rfl
    | some t =>
      rw [Option.map_some, Node.withoutComments_of_commentFree (quiet.returned t found)]
  have parameters : f.withoutComments.parameters.map Parameter.typing =
      f.parameters.map Parameter.typing := by
    apply map_parameters_withoutComments h
    intro p member
    exact Parameter.typing_withoutComments (grammatical_of_mem_parameterNodes h member).1.orderly
      (quiet.hints p member) (quiet.defaults p member)
  rw [typing, returned, parameters]
  rfl

end Function

end Introspect
