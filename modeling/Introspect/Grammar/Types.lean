import Introspect.Grammar.Names

/-! # Types

* `Parser.typeExpr` — a type: simple, nullable, a union, an intersection, or a union with
  intersections in brackets;
* `Parser.returnType` — a colon and a type, or nothing.
-/

namespace Introspect.Grammar

open Introspect.Syntax

/-- Types written in lower case only. -/
def exactTypes : List String := ["array", "bool", "float", "int", "null", "object", "string"]

/-- Types written in any letter case. -/
def foldedTypes : List String := ["callable", "false", "iterable", "mixed", "true", "void"]

namespace Parser

/-- Does the name of a built-in type come next? -/
def nextIsPrimitive : Parser Bool := do
  let input := (← read).input
  let i ← next
  return exactTypes.contains (input.between i (input.nameEnd i)) ||
    foldedTypes.contains (input.wordAt i)

/-- A built-in type or the name of a class. -/
def plainType : Parser ParseTree := do
  settle
  if ← nextIsPrimitive then
    takeTo "primitive_type" true ((← read).input.nameEnd (← get).pos)
  else build "named_type" (child symbolName)

/-- A plain type, or a nullable one. -/
def simpleType : Parser ParseTree := do
  settle
  if ← nextIs "?" then
    build "optional_type" (do mark "?"; child plainType)
  else plainType

/-- Does an ampersand come next that joins two types?  One before a variable marks a
reference instead. -/
def nextJoinsTypes : Parser Bool := do
  if ← nextIs "&" then
    let m ← markAfter 1
    return m != "$" && m != "..." && m != "&"
  else return false

/-- Adds further types joined by ampersands. -/
def moreIntersection : Parser Unit :=
  repeatWhile nextJoinsTypes (do mark "&"; child simpleType)

/-- Adds an intersection in brackets. -/
def bracketedIntersection : Parser Unit :=
  bracketed "(" ")" (child (build "intersection_type" (do child simpleType; moreIntersection)))

/-- Adds a member of a union; the answer is whether it is in brackets. -/
def unionMember : Parser Bool := do
  if ← nextIs "(" then
    bracketedIntersection
    return true
  else
    child simpleType
    return false

/-- Adds further members of a union; the answer is whether one of them is in brackets. -/
def moreUnion (bracketed : Bool) : Parser Bool :=
  iterate (fun b => do
    if ← nextIs "|" then
      mark "|"
      return some ((← unionMember) || b)
    else return none) bracketed

def typeExpr : Parser ParseTree := do
  settle
  if ← nextIs "(" then
    build "disjunctive_normal_form_type" (do
      bracketedIntersection
      let _ ← moreUnion true)
  else
    let first ← simpleType
    if ← nextJoinsTypes then
      extend first (do moreIntersection; return "intersection_type")
    else if ← nextIs "|" then
      extend first (do
        if ← moreUnion false then return "disjunctive_normal_form_type" else return "union_type")
    else return first

/-- Adds the declared return type, if there is one. -/
def returnType : Parser Unit := do
  if ← nextIs ":" then
    mark ":"
    if ← nextWordIs "never" then
      field "return_type" (do
        settle
        takeTo "bottom_type" true ((← read).input.nameEnd (← get).pos))
    else field "return_type" typeExpr

end Parser

end Introspect.Grammar
