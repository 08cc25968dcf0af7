import Mathlib.Data.List.Find
import Mathlib.Data.List.Forall2
import Introspect.Reflection.Class
import Introspect.Proofs.Syntax.Documentation

/-! # Methods by their nodes

A class finds its methods through an index of positions.  Here they are read off the members of its
body:

* `memberNodes`, `methodNodes` — the children of the body, and the methods among them;
* `methodPlaces`, `documentation` — the methods with their positions, and what documents a position;
* `indexFrom_eq` — the index holds the methods, in order, with their documentation and folded names;
* `Class.methods_eq`, `Class.method?_eq` — methods and lookups by name;
* `Class.methods_by_place` — a class has one method for each member that declares one, and a name
  leads to the first of them that has it.
-/

namespace Introspect

open Introspect.Syntax

/-! ## The index -/

/-- The children of the body. -/
def memberNodes (n : Node) : List Node :=
  match n.body? with
  | some body => body.children
  | none => []

/-- Is the member a method?  It must be named, and its own name must be a leaf. -/
def isMethodNode (m : Node) : Bool :=
  m.named && (m.kind == "method_declaration" && (declaredName? m).isSome)

/-- The methods among members. -/
def methodNodes (members : List Node) : List Node := members.filter isMethodNode

def methodKey (m : Node) : String := Text.foldCase ((declaredName? m).getD "")

/-- The methods among members, each with its position. -/
def methodPlaces (members : List Node) : List (Node × Nat) :=
  members.zipIdx.filter fun place => isMethodNode place.1

/-- Kinds and texts of the named members, as a tracker observes them. -/
def observed (members : List Node) : List (String × String) :=
  (members.filter Node.named).map fun m => (m.kind, m.text)

/-- What documents the member at a position: the last documentation comment in the run of comments
that ends the named members before it. -/
def documentation (members : List Node) (position : Nat) : Option String :=
  docBehind (observed (members.take position))

def entryFor (members : List Node) (place : Node × Nat) : MethodEntry :=
  ⟨documentation members place.2, place.2, methodKey place.1⟩

theorem observed_append_named (before : List Node) {m : Node} (named : m.named = true) :
    observed (before ++ [m]) = observed before ++ [(m.kind, m.text)] := by
  simp [observed, named]

theorem observed_append_token (before : List Node) {m : Node} (token : m.named = false) :
    observed (before ++ [m]) = observed before := by
  simp [observed, token]

theorem isMethodNode_iff {m : Node} :
    isMethodNode m = true ↔
      m.named = true ∧ m.kind = "method_declaration" ∧ ∃ name, declaredName? m = some name := by
  simp [isMethodNode, Option.isSome_iff_exists]

/-- A method is entered at its position, with the documentation behind the members before it, and
any other member is passed over. -/
theorem indexFrom_cons (before : List Node) (m : Node) (rest : List Node) :
    indexFrom ⟨docBehind (observed before)⟩ before.length (m :: rest) =
      (if isMethodNode m then [⟨docBehind (observed before), before.length, methodKey m⟩] else []) ++
        indexFrom ⟨docBehind (observed (before ++ [m]))⟩ (before ++ [m]).length rest := by
  rw [indexFrom, List.length_append, List.length_singleton]
  cases named : m.named with
  | false => simp [isMethodNode, named, observed_append_token before named]
  | true =>
    simp only [observe_docBehind, observed_append_named before named]
    by_cases method : m.kind = "method_declaration"
    · cases name : declaredName? m with
      | none => simp [isMethodNode, method, name]
      | some name => simp [isMethodNode, methodKey, method, name, named]
    · simp [isMethodNode, method]

theorem indexFrom_eq (before members : List Node) :
    indexFrom ⟨docBehind (observed before)⟩ before.length members =
      ((members.zipIdx before.length).filter fun place => isMethodNode place.1).map
        (entryFor (before ++ members)) := by
  -- What was passed moves to `before`, so that positions count from the first member throughout.
  induction members generalizing before with
  | nil => rfl
  | cons m rest ih =>
    have later := ih (before ++ [m])
    rw [List.append_assoc, List.singleton_append] at later
    rw [indexFrom_cons, later, List.length_append, List.length_singleton, List.zipIdx_cons,
      List.filter_cons]
    cases isMethodNode m with
    | false => rfl
    | true => simp [entryFor, documentation]

theorem indexMethods_eq (n : Node) :
    indexMethods n = (methodPlaces (memberNodes n)).map (entryFor (memberNodes n)) := by
  unfold indexMethods memberNodes
  cases n.body? with
  | none => rfl
  | some body => exact indexFrom_eq [] body.children

theorem getElem?_of_mem_methodPlaces {members : List Node} {place : Node × Nat}
    (member : place ∈ methodPlaces members) :
    members[place.2]? = some place.1 ∧ isMethodNode place.1 = true := by
  obtain ⟨listed, method⟩ := List.mem_filter.1 member
  exact ⟨List.mem_zipIdx_iff_getElem?.1 listed, method⟩

theorem map_fst_methodPlaces (members : List Node) :
    (methodPlaces members).map Prod.fst = methodNodes members := by
  have paired : (members.zipIdx.map Prod.fst).filter isMethodNode =
      (methodPlaces members).map Prod.fst := List.filter_map
  rw [← paired, List.zipIdx_map_fst, methodNodes]

/-! ## Methods -/

theorem forall₂_filterMap {α β : Type} {f : α → Option β} {R : α → β → Prop} {as : List α}
    (told : ∀ a ∈ as, ∃ b, f a = some b ∧ R a b) : List.Forall₂ R as (as.filterMap f) := by
  induction as with
  | nil => exact .nil
  | cons a rest ih =>
    obtain ⟨first, others⟩ := List.forall_mem_cons.1 told
    obtain ⟨b, answered, related⟩ := first
    rw [List.filterMap_cons, answered]
    exact .cons related (ih others)

namespace Function

def undocumented (f : Function) : Function := { f with doc := none }

theorem undocumented_ofNode? (n : Node) (source : Source) (scope : Namespace)
    (doc : Option String) (owner : Option MethodOwner) :
    (ofNode? n source scope doc owner).map undocumented = ofNode? n source scope none owner := by
  unfold ofNode?
  split <;> rfl

end Function

namespace Class

theorem node_of_ofNode? {n : Node} {source : Source} {scope : Namespace} {doc : Option String}
    {c : Class} (found : ofNode? n source scope doc = some c) :
    c.node = n ∧ c.index = indexMethods c.node := by
  obtain ⟨kind, -, rfl⟩ := Option.map_eq_some_iff.1 found
  exact ⟨rfl, rfl⟩

theorem members_eq (c : Class) : c.members = (memberNodes c.node).filter Node.named := by
  unfold members memberNodes
  cases c.node.body? <;> rfl

/-- The method that a node declares, without its documentation. -/
def methodOf? (c : Class) (m : Node) : Option Function :=
  Function.ofNode? m c.source c.scope none (some ⟨c.kind, c.name⟩)

/-- The method that the member at a position declares. -/
def methodFor? (c : Class) (place : Node × Nat) : Option Function :=
  Function.ofNode? place.1 c.source c.scope (documentation (memberNodes c.node) place.2)
    (some ⟨c.kind, c.name⟩)

theorem methodAt?_entryFor {c : Class} {place : Node × Nat}
    (member : place ∈ methodPlaces (memberNodes c.node)) :
    c.methodAt? (entryFor (memberNodes c.node) place) = c.methodFor? place := by
  have found := (getElem?_of_mem_methodPlaces member).1
  unfold methodAt? methodFor? entryFor
  unfold memberNodes at found ⊢
  cases hasBody : c.node.body? with
  | none => simp [hasBody] at found
  | some body =>
    rw [hasBody] at found
    simp [found]

section

variable {c : Class} (indexed : c.index = indexMethods c.node)
include indexed

theorem methods_eq : c.methods = (methodPlaces (memberNodes c.node)).filterMap c.methodFor? := by
  rw [methods, indexed, indexMethods_eq, List.filterMap_map]
  exact List.filterMap_congr fun place member => methodAt?_entryFor member

theorem method?_eq (name : String) :
    c.method? name =
      ((methodPlaces (memberNodes c.node)).find? fun place =>
        methodKey place.1 == Text.foldCase name).bind c.methodFor? := by
  rw [method?, indexed, indexMethods_eq, List.find?_map, Option.bind_map]
  change ((methodPlaces (memberNodes c.node)).find? fun place =>
    methodKey place.1 == Text.foldCase name).bind _ = _
  cases found : (methodPlaces (memberNodes c.node)).find? fun place =>
      methodKey place.1 == Text.foldCase name with
  | none => rfl
  | some place => exact methodAt?_entryFor (List.mem_of_find?_eq_some found)

theorem hasMethod_eq (name : String) :
    c.hasMethod name =
      (methodPlaces (memberNodes c.node)).any fun place =>
        methodKey place.1 == Text.foldCase name := by
  rw [hasMethod, indexed, indexMethods_eq, List.any_map]
  rfl

theorem methods_undocumented :
    c.methods.map Function.undocumented =
      (methodNodes (memberNodes c.node)).filterMap c.methodOf? := by
  rw [methods_eq indexed, List.map_filterMap, ← map_fst_methodPlaces, List.filterMap_map]
  simp only [methodFor?, Function.undocumented_ofNode?]
  rfl

theorem method?_undocumented (name : String) :
    (c.method? name).map Function.undocumented =
      ((methodNodes (memberNodes c.node)).find? fun m => methodKey m == Text.foldCase name).bind
        c.methodOf? := by
  rw [method?_eq indexed, Option.map_bind, ← map_fst_methodPlaces, List.find?_map, Option.bind_map]
  simp only [methodFor?, Function.undocumented_ofNode?, Function.comp_def]
  rfl

end

/-! ## Methods and members -/

/-- The method describes the member at a position of the body. -/
structure Describes (c : Class) (place : Node × Nat) (f : Function) : Prop where
  node : f.node = place.1
  doc : f.doc = documentation (memberNodes c.node) place.2
  owner : f.owner = some ⟨c.kind, c.name⟩
  source : f.source = c.source
  scope : f.scope = c.scope

theorem exists_describes (c : Class) {place : Node × Nat} (method : isMethodNode place.1 = true) :
    ∃ f, c.methodFor? place = some f ∧ c.Describes place f := by
  have isFunction : functionKinds.contains place.1.kind = true := by
    rw [(isMethodNode_iff.1 method).2.1]
    decide
  exact ⟨_, if_pos isFunction, rfl, rfl, rfl, rfl, rfl⟩

theorem Describes.shortName_eq {c : Class} {place : Node × Nat} {f : Function}
    (h : c.Describes place f) : f.shortName = (declaredName? place.1).getD "" := by
  rw [Function.shortName, h.node, declaredName?]

theorem methodNames_eq (c : Class) :
    c.methodNames = (methodNodes (memberNodes c.node)).map fun m => (declaredName? m).getD "" := by
  rw [methodNames, members_eq, methodNodes]
  induction memberNodes c.node with
  | nil => rfl
  | cons m rest ih =>
    by_cases method : isMethodNode m = true
    · obtain ⟨named, isKind, name, written⟩ := isMethodNode_iff.1 method
      simpa [method, named, isKind, written] using ih
    · -- A member that is no method falls out at one of the three tests.
      rw [List.filter_cons_of_neg method, ← ih]
      cases named : m.named with
      | false => simp [named]
      | true =>
        by_cases isKind : m.kind = "method_declaration"
        · cases written : declaredName? m with
          | none => simp [named, isKind, written]
          | some name => exact absurd (isMethodNode_iff.2 ⟨named, isKind, name, written⟩) method
        · simp [named, isKind]

section

variable {c : Class} (indexed : c.index = indexMethods c.node)
include indexed

theorem forall₂_describes :
    List.Forall₂ c.Describes (methodPlaces (memberNodes c.node)) c.methods := by
  rw [methods_eq indexed]
  exact forall₂_filterMap fun place member =>
    c.exists_describes (getElem?_of_mem_methodPlaces member).2

theorem map_shortName_methods : c.methods.map Function.shortName = c.methodNames := by
  rw [methodNames_eq, ← map_fst_methodPlaces, List.map_map]
  have described := forall₂_describes indexed
  generalize methodPlaces (memberNodes c.node) = places, c.methods = methods at described ⊢
  induction described with
  | nil => rfl
  | cons first _ ih => exact congrArg₂ List.cons first.shortName_eq ih

theorem hasMethod_iff (name : String) :
    c.hasMethod name = true ↔ ∃ written ∈ c.methodNames, Text.sameFolded written name = true := by
  rw [hasMethod_eq indexed, methodNames_eq, ← map_fst_methodPlaces, List.map_map]
  simp only [List.any_eq_true, List.mem_map, exists_exists_and_eq_and]
  rfl

theorem method?_eq_find? (name : String) :
    c.method? name = c.methods.find? fun f => Text.sameFolded f.shortName name := by
  rw [method?_eq indexed, methods_eq indexed, List.find?_filterMap]
  congr 1
  refine List.find?_congr fun place member => ?_
  obtain ⟨f, made, described⟩ := c.exists_describes (getElem?_of_mem_methodPlaces member).2
  rw [made, Option.any_some, described.shortName_eq]
  rfl

end

end Class

/-- A class has one method for each named member that declares one under a name, in order: it is made
from that member, and documented by the last documentation comment in the run of comments before it.
Its methods have the names that the class tells, and a name in any letter case leads to the first
method that has it, if there is one. -/
theorem Class.methods_by_place {node : Node} {source : Source} {scope : Namespace}
    {doc : Option String} {c : Class} (built : Class.ofNode? node source scope doc = some c) :
    List.Forall₂ c.Describes (methodPlaces (memberNodes node)) c.methods ∧
    c.methods.map Function.shortName = c.methodNames ∧
    ∀ name,
      (c.hasMethod name = true ↔ (c.method? name).isSome = true) ∧
      (c.hasMethod name = true ↔
        ∃ written ∈ c.methodNames, Text.sameFolded written name = true) ∧
      c.method? name = c.methods.find? fun f => Text.sameFolded f.shortName name := by
  obtain ⟨rfl, indexed⟩ := Class.node_of_ofNode? built
  refine ⟨forall₂_describes indexed, map_shortName_methods indexed, fun name => ?_⟩
  refine ⟨?_, hasMethod_iff indexed name, method?_eq_find? indexed name⟩
  rw [hasMethod_iff indexed, method?_eq_find? indexed, List.find?_isSome,
    ← map_shortName_methods indexed]
  simp

/-- A class with a token, comments and two methods whose names differ in letter case only. -/
def twins : Node :=
  let token (text : String) : Node := .mk text false none none (some text) []
  let comment (text : String) : Node := .mk "comment" true none none (some text) []
  let method (name : String) : Node :=
    .mk "method_declaration" true none none none
      [token "function", .mk "name" true (some "name") none (some name) []]
  .mk "class_declaration" true none none none
    [.mk "declaration_list" true (some "body") none none
      [token "\x7b", comment "/** a */", comment "/** b */", comment "// c", method "run",
        comment "// d", method "Run", comment "/** e */", token "\x7d"]]

theorem Class.methods_by_place_twins :
    ∃ c, Class.ofNode? twins (.evaluated "") .global none = some c ∧
      List.Forall₂ c.Describes (methodPlaces (memberNodes twins)) c.methods ∧
      c.methods.map (·.doc) = [some "/** b */", none] ∧
      c.methods.map Function.shortName = ["run", "Run"] ∧
      (c.method? "RUN").map Function.shortName = some "run" := by
  obtain ⟨c, built⟩ : ∃ c, Class.ofNode? twins (.evaluated "") .global none = some c := ⟨_, rfl⟩
  obtain ⟨described, names, lookups⟩ := Class.methods_by_place built
  have docs : c.methods.map (·.doc) = [some "/** b */", none] := by
    cases built
    decide +kernel
  have written : c.methodNames = ["run", "Run"] := by
    cases built
    decide +kernel
  have first : (c.methods.find? fun f => Text.sameFolded f.shortName "RUN").map
      Function.shortName = some "run" := by
    cases built
    decide +kernel
  obtain ⟨-, -, leads⟩ := lookups "RUN"
  exact ⟨c, built, described, docs, names.trans written, leads ▸ first⟩

end Introspect
