import Introspect.Namespace
import Introspect.Layout.Basic

/-! # Parameters

* `Parameter` — one parameter of a function or method, taken from its declaration;
* `Parameter.ofNode` — reads the declaration;
* `Parameter.allowsNull`, `Parameter.isArray`, `Parameter.className?` — what its type says.

The declared type is kept as text without white space, and all questions about it are
questions about that text.
-/

namespace Introspect

open Introspect.Syntax

/-- Types that are no classes. -/
def builtinTypes : List String := [
  "array", "bool", "callable", "false", "float", "int", "iterable", "mixed", "never", "null",
  "object", "string", "true", "void"]

/-- How a parameter is declared: on its own, as a property too, or for all remaining arguments. -/
inductive ParameterForm where
  | plain
  | promoted
  | variadic
deriving DecidableEq, Repr

def ParameterForm.ofKind : String → ParameterForm
  | "property_promotion_parameter" => promoted
  | "variadic_parameter" => variadic
  | _ => plain

/-- What a parameter knows of the function that declares it. -/
structure ParameterOwner where
  function : String
  declaringClass : Option String
  scope : Namespace
deriving DecidableEq, Repr

/-- A parameter.  Positions count from zero. -/
structure Parameter where
  name : String
  position : Nat
  optional : Bool
  byReference : Bool
  default : Option Node
  form : ParameterForm
  typeHint : Option String
  owner : ParameterOwner

namespace Parameter

/-- Reads the declaration of a parameter.  One that is a property too may have the mark of a
reference inside its name. -/
def ofNode (owner : ParameterOwner) (node : Node) (position : Nat) (optional : Bool) : Parameter :=
  let nameNode := node.childByField? "name"
  let written := (nameNode.map Node.compactText).getD ""
  { name := String.ofList (written.toList.dropWhile fun c => c == '&' || c == '$')
    position
    optional
    byReference := node.hasChildOfKind "reference_modifier" ||
      nameNode.any fun n => n.kind == "by_ref"
    default := node.childByField? "default_value"
    form := .ofKind node.kind
    typeHint := (node.childByField? "type").map Node.compactText
    owner }

def isVariadic (p : Parameter) : Bool := p.form == .variadic

def isPromoted (p : Parameter) : Bool := p.form == .promoted

/-- The default value as code. -/
def defaultCode (p : Parameter) : Option String :=
  p.default.map fun n => Layout.printStatements [n]

/-- Is the declared type nullable by itself? -/
def hintAllowsNull (hint : String) : Bool :=
  Text.startsWith hint "?" ||
    (Text.split '|' hint).any fun t => Text.sameFolded t "null" || Text.sameFolded t "mixed"

/-- Is the default value null? -/
def defaultsToNull (p : Parameter) : Bool :=
  p.default.any fun n => Text.sameFolded n.compactText "null"

/-- Without a type, with a nullable one, or with null as default value, a parameter takes null. -/
def allowsNull (p : Parameter) : Bool :=
  match p.typeHint with
  | none => true
  | some hint => hintAllowsNull hint || p.defaultsToNull

/-- The type without the marks of a nullable one, unless it is put together from several. -/
def singleType? (p : Parameter) : Option String := do
  let hint := Text.dropLeading '?' (← p.typeHint)
  if hint.toList.any fun c => c == '|' || c == '&' || c == '(' then none else some hint

def isArray (p : Parameter) : Bool :=
  p.singleType?.any fun t => Text.sameFolded t "array"

def isCallable (p : Parameter) : Bool :=
  p.singleType?.any fun t => Text.sameFolded t "callable"

/-- The full name of the class that the type names.  The words for the class at hand stand for the
class that declares the parameter. -/
def className? (p : Parameter) : Option String := do
  let written ← p.singleType?
  if builtinTypes.any fun b => Text.sameFolded b written then none
  else if Text.sameFolded written "self" || Text.sameFolded written "static" then
    p.owner.declaringClass
  else some (p.owner.scope.resolve written)

end Parameter

end Introspect
