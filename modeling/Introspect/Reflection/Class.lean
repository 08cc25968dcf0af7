import Introspect.Reflection.Function

/-! # Classes

* `Class` — a class, interface, trait or enumeration around the node that declares it;
* `indexMethods` — where its methods stand in its body, with their documentation;
* `Class.methods`, `Class.method?`, `Class.constants`, `Class.propertyNames` — its members;
* `Class.parentName?`, `Class.interfaceNames` — what it builds on.
-/

namespace Introspect

open Introspect.Syntax

/-! ## Index of methods -/

/-- Where a method stands among the children of the body, and the folded name it is found by. -/
structure MethodEntry where
  doc : Option String
  index : Nat
  key : String
deriving DecidableEq, Repr

/-- The written name of a declaration. -/
def declaredName? (n : Node) : Option String :=
  (n.childByField? "name").bind Node.leafText

/-- The methods among members that are numbered from `index` on. -/
def indexFrom (tracker : DocTracker) (index : Nat) : List Node → List MethodEntry
  | [] => []
  | m :: rest =>
    if !m.named then indexFrom tracker (index + 1) rest
    else
      let (doc, tracker) := tracker.observe m.kind m.text
      let more := indexFrom tracker (index + 1) rest
      match if m.kind == "method_declaration" then declaredName? m else none with
      | some name => ⟨doc, index, Text.foldCase name⟩ :: more
      | none => more

def indexMethods (node : Node) : List MethodEntry :=
  match node.body? with
  | some body => indexFrom {} 0 body.children
  | none => []

/-! ## Classes -/

structure Class where
  doc : Option String
  kind : ClassKind
  source : Source
  index : List MethodEntry
  scope : Namespace
  node : Node

/-- Name and value of a constant or of a case.  A value that is a plain name does not show. -/
def nameAndValue? (n : Node) : Option (String × String) := do
  let name ← n.childOfKind? "name"
  let value := (n.namedChildren.filter fun c => c.kind != "name").getLast?
  return (name.compactText, (value.map fun v => Layout.printStatements [v]).getD "")

/-- The constants that a member declares. -/
def memberConstants (m : Node) : List (String × String) :=
  match m.kind with
  | "const_declaration" =>
    (m.namedChildren.filter fun c => c.kind == "const_element").filterMap nameAndValue?
  | "enum_case" => (nameAndValue? m).toList
  | _ => []

/-- The properties that a member declares, without their dollar signs. -/
def memberProperties (m : Node) : List String :=
  if m.kind == "property_declaration" then
    (m.namedChildren.filter fun c => c.kind == "property_element").filterMap fun e =>
      (e.childOfKind? "variable_name").map fun v => Text.dropLeading '$' v.compactText
  else []

namespace Class

/-- Takes up a node that declares a class. -/
def ofNode? (node : Node) (source : Source) (scope : Namespace) (doc : Option String) :
    Option Class :=
  (ClassKind.ofNodeKind? node.kind).map fun kind =>
    { doc, kind, source, index := indexMethods node, scope, node }

/-! ### Names and flags -/

def shortName (c : Class) : String := (declaredName? c.node).getD ""

def name (c : Class) : String := c.scope.qualify c.shortName

def inNamespace (c : Class) : Bool := !c.scope.isGlobal

def isInterface (c : Class) : Bool := c.kind == .interface

/-- Interfaces are abstract too. -/
def isAbstract (c : Class) : Bool := c.isInterface || c.node.hasChildOfKind "abstract_modifier"

def isFinal (c : Class) : Bool := c.node.hasChildOfKind "final_modifier"

def isInternal (c : Class) : Bool := c.source.internal

/-! ### What a class builds on -/

/-- The full names in the clause of a kind. -/
def clauseNames (c : Class) (clauseKind : String) : List String :=
  match c.node.childOfKind? clauseKind with
  | some clause => clause.namedChildren.map fun n => c.scope.resolve n.compactText
  | none => []

/-- The class that a class extends.  An interface has none: what it extends are interfaces. -/
def parentName? (c : Class) : Option String :=
  if c.isInterface then none else (c.clauseNames "base_clause").head?

def interfaceNames (c : Class) : List String :=
  c.clauseNames (if c.isInterface then "base_clause" else "class_interface_clause")

/-! ### Members -/

/-- The named children of the body, comments included. -/
def members (c : Class) : List Node :=
  match c.node.body? with
  | some body => body.namedChildren
  | none => []

/-- The method of an index entry. -/
def methodAt? (c : Class) (e : MethodEntry) : Option Function := do
  let body ← c.node.body?
  let node ← body.children[e.index]?
  Function.ofNode? node c.source c.scope e.doc (some ⟨c.kind, c.name⟩)

/-- The methods in order. -/
def methods (c : Class) : List Function := c.index.filterMap c.methodAt?

/-- The first method of a name, in any letter case. -/
def method? (c : Class) (name : String) : Option Function :=
  (c.index.find? fun e => e.key == Text.foldCase name).bind c.methodAt?

def hasMethod (c : Class) (name : String) : Bool :=
  c.index.any fun e => e.key == Text.foldCase name

/-- The names of the methods as they are written. -/
def methodNames (c : Class) : List String :=
  (c.members.filter fun m => m.kind == "method_declaration").filterMap declaredName?

/-- Constants and cases with their values as code. -/
def constants (c : Class) : List (String × String) := c.members.flatMap memberConstants

/-- Declared properties, and those that the constructor declares with its parameters. -/
def propertyNames (c : Class) : List String :=
  c.members.flatMap memberProperties ++
    match c.method? "__construct" with
    | some constructor => (constructor.parameters.filter (·.isPromoted)).map (·.name)
    | none => []

/-! ### Place in the source -/

def docComment (c : Class) : String := (c.doc.map reindentDoc).getD ""

def startLine (c : Class) : Int := Function.lineOf Span.startLine c.node

def endLine (c : Class) : Int := Function.lineOf Span.endLine c.node

end Class

end Introspect
