import Introspect.Source
import Introspect.Syntax.Doc
import Introspect.Grammar.Source
import Introspect.Reflection.Parameter

/-! # Functions and methods

* `Function` — a function or method around the node that declares it;
* `optionalFlags` — which parameters a caller may leave out;
* `Function.parameters`, `Function.isGenerator`, `Function.visibility?`, … — questions about it;
* `Replacement`, `Function.overwriteBody` — another body in place of its own.

All but the optional parameters is read off the node when asked for, so that a replaced body
shows in every later answer.
-/

namespace Introspect

open Introspect.Syntax

/-! ## Kinds -/

/-- Kinds of nodes that declare a function or method. -/
def functionKinds : List String := ["function_definition", "method_declaration"]

/-- Kinds of nodes that are functions without a name. -/
def closureKinds : List String := ["anonymous_function", "anonymous_function_creation_expression"]

/-- Kinds of nodes that declare a parameter. -/
def parameterKinds : List String := [
  "property_promotion_parameter", "simple_parameter", "variadic_parameter"]

/-- Who may call a method: its own class, its subclasses too, or everyone. -/
inductive Visibility where
  | ownClass
  | subclasses
  | everyone
deriving DecidableEq, Repr

/-- The word for a visibility. -/
def Visibility.word : Visibility → String
  | ownClass => "private"
  | subclasses => "protected"
  | everyone => "public"

/-- The kinds of classes. -/
inductive ClassKind where
  | plain
  | enumeration
  | interface
  | trait
deriving DecidableEq, Repr

namespace ClassKind

def ofNodeKind? : String → Option ClassKind
  | "class_declaration" => some plain
  | "enum_declaration" => some enumeration
  | "interface_declaration" => some interface
  | "trait_declaration" => some trait
  | _ => none

/-- The word that opens the declaration. -/
def word : ClassKind → String
  | plain => "class"
  | enumeration => "enum"
  | interface => "interface"
  | trait => "trait"

end ClassKind

/-- What a method knows of its class. -/
structure MethodOwner where
  kind : ClassKind
  name : String
deriving DecidableEq, Repr

/-! ## Parameters that may be left out -/

/-- Which parameters a caller may leave out, given which have a default value.  From the last one
on, a parameter may be left out if it has a default value and the next one may be left out. -/
def optionalFlags (hasDefault : List Bool) : List Bool :=
  hasDefault.foldr (fun d later => (d && later.headD true) :: later) []

/-- The declarations of the parameters in order. -/
def parameterNodes (node : Node) : List Node :=
  match node.childByField? "parameters" with
  | some list => list.children.filter fun c => parameterKinds.contains c.kind
  | none => []

/-! ## Functions -/

/-- A function, or a method if it has an owner. -/
structure Function where
  doc : Option String
  source : Source
  owner : Option MethodOwner
  scope : Namespace
  node : Node
  optional : List Bool

namespace Function

/-- Takes up a node that declares a function or method. -/
def ofNode? (node : Node) (source : Source) (scope : Namespace) (doc : Option String)
    (owner : Option MethodOwner) : Option Function :=
  if functionKinds.contains node.kind then
    some { doc, source, owner, scope, node
           optional := optionalFlags
             ((parameterNodes node).map fun p => (p.childByField? "default_value").isSome) }
  else none

theorem eq_of_ofNode? {node : Node} {source : Source} {scope : Namespace} {doc : Option String}
    {owner : Option MethodOwner} {f : Function}
    (found : ofNode? node source scope doc owner = some f) :
    functionKinds.contains node.kind = true ∧
      f = { doc, source, owner, scope, node
            optional := optionalFlags
              ((parameterNodes node).map fun p => (p.childByField? "default_value").isSome) } := by
  unfold ofNode? at found
  split at found
  · rename_i isFunction
    exact ⟨isFunction, (Option.some.inj found).symm⟩
  · contradiction

/-! ### Names -/

def isMethod (f : Function) : Bool := f.owner.isSome

def inNamespace (f : Function) : Bool := !f.scope.isGlobal

def shortName (f : Function) : String :=
  ((f.node.childByField? "name").bind Node.leafText).getD ""

/-- The full name of a function; a method has its short name only. -/
def name (f : Function) : String :=
  if f.isMethod || !f.inNamespace then f.shortName else f.scope.qualify f.shortName

def declaringClassName? (f : Function) : Option String := f.owner.map (·.name)

/-! ### Parameters -/

def parameters (f : Function) : List Parameter :=
  let owner := ⟨f.name, f.declaringClassName?, f.scope⟩
  ((parameterNodes f.node).zip f.optional).zipIdx.map fun ((node, optional), position) =>
    Parameter.ofNode owner node position optional

/-- The parameter of a name, which may have its dollar sign. -/
def parameter? (f : Function) (name : String) : Option Parameter :=
  f.parameters.find? fun p => p.name == Text.dropLeading '$' name

def parameterCount (f : Function) : Nat := f.optional.length

def requiredCount (f : Function) : Nat := (f.optional.filter (!·)).length

/-! ### Flags -/

def isInternal (f : Function) : Bool := f.source.internal

def isVariadic (f : Function) : Bool :=
  !f.isInternal && (parameterNodes f.node).any fun p => p.kind == "variadic_parameter"

/-- Does the function hand values out one by one?  Nested functions count; built-in code
never does. -/
def isGenerator (f : Function) : Bool :=
  !f.isInternal && f.node.any fun n => n.kind == "yield_expression"

def returnsReference (f : Function) : Bool := f.node.hasChildOfKind "reference_modifier"

def returnType? (f : Function) : Option String :=
  (f.node.childByField? "return_type").map Node.compactText

def isClosure (f : Function) : Bool := closureKinds.contains f.node.kind

def isDeprecated (f : Function) : Bool :=
  !f.isInternal && f.doc.any fun d => Text.contains d "@deprecated"

/-! ### Place in the source -/

/-- The documentation comment at the left margin; empty if there is none. -/
def docComment (f : Function) : String := (f.doc.map reindentDoc).getD ""

/-- The line of a node; minus one if it is unknown. -/
def lineOf (line : Span → Nat) (node : Node) : Int :=
  match node.span with
  | some s => line s
  | none => -1

def startLine (f : Function) : Int := lineOf Span.startLine f.node

def endLine (f : Function) : Int := lineOf Span.endLine f.node

/-! ### Methods -/

/-- The visibility of a method: public unless declared otherwise. -/
def visibility? (f : Function) : Option Visibility :=
  f.owner.map fun _ =>
    let word := Text.foldCase (((f.node.childOfKind? "visibility_modifier").map Node.text).getD "")
    if word == "private" then .ownClass
    else if word == "protected" then .subclasses
    else .everyone

def isStatic (f : Function) : Bool := f.isMethod && f.node.hasChildOfKind "static_modifier"

/-- Methods of interfaces are abstract too. -/
def isAbstract (f : Function) : Bool :=
  f.owner.any fun o => o.kind == .interface || f.node.hasChildOfKind "abstract_modifier"

def isFinal (f : Function) : Bool := f.isMethod && f.node.hasChildOfKind "final_modifier"

def isConstructor (f : Function) : Bool :=
  f.isMethod && Text.sameFolded f.shortName "__construct"

/-! ### Bodies -/

/-- The statements of the body; none if there is no body. -/
def bodyStatements (f : Function) : List Node :=
  match f.node.body? with
  | some body => body.statements
  | none => []

/-- The body as code, by the given printer. -/
def bodyWith (print : List Node → String) (f : Function) : String := print f.bodyStatements

/-- The body as code. -/
def bodyCode (f : Function) : String := f.bodyWith Layout.printStatements

end Function

/-! ## Replacing a body -/

/-- A body to be put in place of another: statements as text, or the body of a closure. -/
inductive Replacement where
  | code (text : String)
  | closure (node : Node)

namespace Replacement

/-- Reads a closure from text.  A text without one is kept whole, and refused when it is used. -/
def ofClosureText (text : String) : Except ParseFailure Replacement := do
  let program ← Grammar.parseNode (s!"<?php {text};") "<closure>"
  return .closure ((program.preorder.find? fun n => closureKinds.contains n.kind).getD program)

/-- The statements of a replacement. -/
def statements : Replacement → Except BodyFailure (List Node)
  | code text =>
    match Grammar.parseNode (s!"<?php {text}") "<replacement>" with
    | .ok program => .ok program.statements
    | .error failure => .error (.unparsable failure)
  | closure node =>
    if closureKinds.contains node.kind then
      match node.body? with
      | some body => .ok body.statements
      | none => .error .bodilessClosure
    else .error (.noClosure node.kind)

end Replacement

/-- Puts the body of a replacement, which must have statements, in place of that of the function:
how the call ends, and the function behind it.  Its lines and its documentation stay what they
were. -/
def Function.overwriteBody (f : Function) (r : Replacement) : Except Error Unit × Function :=
  match r.statements with
  | .error reason => (.error (.bodyReplacement f.name reason), f)
  | .ok statements =>
    if statements.isEmpty then (.error (.bodyReplacement f.name .noStatements), f)
    else
      let (found, node) := f.node.overwriteBody statements
      let behind := { f with node }
      (if found then .ok () else .error (.bodyReplacement behind.name .noBody), behind)

end Introspect
