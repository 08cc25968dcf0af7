import Introspect.Reflector
import Introspect.Text.Quoted

/-! # Short forms

One line per value, for looking at a running session: the name of the type with its most telling
fields, and two points for the rest.

* `Node.inspect`, `Parameter.inspect`, `Function.inspect`, `Class.inspect`, `Reflector.inspect`.
-/

namespace Introspect

open Introspect.Syntax

/-- A name with fields in braces; two points stand for further ones. -/
def shortForm (name : String) (fields : List (String × String)) (complete : Bool) : String :=
  let shown := fields.map fun f => f.1 ++ ": " ++ f.2
  let all := if complete then shown else shown ++ [".."]
  name ++ " \x7b " ++ Text.joinWith ", " all ++ " \x7d"

/-- The form of something that may be missing. -/
def optionForm (form : α → String) : Option α → String
  | some a => "Some(" ++ form a ++ ")"
  | none => "None"

def boolForm (b : Bool) : String := if b then "true" else "false"

def Syntax.Span.inspect (s : Span) : String :=
  shortForm "Span" [
    ("end_byte", toString s.endByte), ("end_line", toString s.endLine),
    ("start_byte", toString s.startByte), ("start_line", toString s.startLine)] true

def Syntax.Node.inspect (n : Node) : String :=
  shortForm "SyntaxNode" [
    ("kind", Text.quote n.kind), ("span", optionForm Span.inspect n.span),
    ("text", optionForm Text.quote n.leafText), ("children", toString n.children.length)] false

def Parameter.inspect (p : Parameter) : String :=
  shortForm "ReflectionParameter" [
    ("name", Text.quote p.name), ("position", toString p.position),
    ("optional", boolForm p.optional), ("type_hint", optionForm Text.quote p.typeHint)] false

def Function.inspect (f : Function) : String :=
  shortForm "ReflectionFunction" [
    ("name", Text.quote f.name), ("declaring_class", optionForm Text.quote f.declaringClassName?),
    ("origin", Text.quote f.source.label), ("start_line", toString f.startLine)] false

/-- The kind of a class as a name of its own. -/
def ClassKind.inspect : ClassKind → String
  | plain => "Class"
  | enumeration => "Enum"
  | interface => "Interface"
  | trait => "Trait"

def Class.inspect (c : Class) : String :=
  shortForm "ReflectionClass" [
    ("name", Text.quote c.name), ("kind", c.kind.inspect), ("origin", Text.quote c.source.label),
    ("methods", toString c.index.length)] false

def Reflector.inspect (r : Reflector) : String :=
  shortForm "Reflector" [
    ("resolver", shortForm "Resolver" [("max_source_bytes", toString r.limit)] true)] false

end Introspect
