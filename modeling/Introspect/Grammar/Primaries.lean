import Introspect.Grammar.Arrays
import Introspect.Grammar.Strings
import Introspect.Grammar.Members

/-! # Primary expressions

* `Parser.literal?` — numbers, strings, truth values and the null value;
* `Parser.creation` — new objects, of a named or of an unnamed class;
* `Parser.suffixes` — members, indices and calls behind an expression;
* `Parser.primary` — an expression that no operator stands before or behind.
-/

namespace Introspect.Grammar

open Introspect.Syntax

/-- Words that start a primary expression other than a name. -/
def primaryWords : List String := [
  "array", "false", "fn", "function", "namespace", "new", "null", "parent", "print", "self",
  "static", "throw", "true"]

namespace Parser

/-! ## Literals -/

/-- A number, string, truth value or null, if one comes next.  A word that reads as a number with
an exponent is one. -/
def literal? (rules : Rules) : Parser (Option ParseTree) := do
  settle
  let input := (← read).input
  let i ← here
  let word := input.wordAt i
  let quote := fun c => 0 < quoteWidth input i c
  if input.atEnd i then return none
  else if quote '\'' then some <$> quotedString
  else if quote '"' then some <$> encapsedString rules
  else if input.spells i ['<', '<', '<'] then some <$> hereDocument rules
  else if word == "true" || word == "false" then
    some <$> takeTo "boolean" true (input.nameEnd i)
  else if word == "null" then some <$> takeTo "null" true (input.nameEnd i)
  else match input.number? i with
    | some (kind, stop) =>
      if input.nameEnd i ≤ stop then
        some <$> numberLiteral kind stop
      else return none
    | none => return none

/-! ## Parts -/

/-- An expression in brackets. -/
def parenthesized (rules : Rules) : Parser ParseTree :=
  build "parenthesized_expression" (bracketed "(" ")" (child (rules (.expression 0))))

/-- Adds the name of a member: written, held by a variable, or computed in braces. -/
def memberName (rules : Rules) : Parser Unit := do
  withAuto false settle
  if ← nextIs "$" then field "name" (simpleVariable rules)
  else if ← nextIs "\x7b" then
    bracketed "\x7b" "\x7d" (field "name" (rules (.expression 0)))
  else field "name" (name [])

/-! ## New objects -/

/-- Adds the members and indices behind a variable that names a class. -/
def classVariable (rules : Rules) (start : ParseTree) : Parser ParseTree :=
  iterate (fun t => do
    let m ← nextMark
    if m == "[" then
      some <$> extend t (do
        bracketed "[" "]" (do if ← nextIs "]" then return () else child (rules (.expression 0)))
        return "subscript_expression")
    else if m == "->" || m == "?->" then
      some <$> extend (t.withField "object") (do
        mark m
        memberName rules
        return if m == "->" then "member_access_expression"
          else "nullsafe_member_access_expression")
    else if m == "::" then
      some <$> extend (t.withField "scope") (do
        mark "::"
        field "name" (simpleVariable rules)
        return "scoped_property_access_expression")
    else return none) start

/-- What names a class: a name, a variable, or an expression in brackets. -/
def classReference (rules : Rules) : Parser ParseTree := do
  withAuto false settle
  if ← nextIs "(" then parenthesized rules
  else if ← nextIs "$" then classVariable rules (← simpleVariable rules)
  else
    let t ← className
    if ← nextIs "::" then classVariable rules t else return t

/-- A class without a name. -/
def anonymousClass (rules : Rules) : Parser ParseTree :=
  build "anonymous_class" do
    attributes rules
    modifiers
    keyword "class"
    if ← nextIs "(" then child (arguments rules)
    classBases
    field "body" (classBody rules)

/-- Does an unnamed class come next? -/
def nextIsAnonymousClass : Parser Bool := do
  let w ← nextWord
  if ← nextIs "#[" then return true
  else if w == "static" then
    let v ← wordAfterWord
    return v == "class" || modifierWords.contains v
  else return w == "class" || modifierWords.contains w

/-- A new object. -/
def creation (rules : Rules) : Parser ParseTree :=
  build "object_creation_expression" do
    keyword "new"
    if ← withAuto false nextIsAnonymousClass then child (anonymousClass rules)
    else
      child (classReference rules)
      if ← nextIs "(" then child (arguments rules)

/-! ## Members, indices and calls -/

/-- Kinds that a call may follow, besides new objects. -/
def callableKinds : List String := [
  "variable_name", "dynamic_variable_name", "subscript_expression", "member_call_expression",
  "nullsafe_member_call_expression", "function_call_expression", "scoped_call_expression",
  "parenthesized_expression", "array_creation_expression", "string", "encapsed_string", "heredoc",
  "nowdoc", "name", "qualified_name", "relative_name"]

/-- Kinds that a member may follow, besides those that a call may follow. -/
def ownerKinds : List String := [
  "member_access_expression", "nullsafe_member_access_expression",
  "scoped_property_access_expression", "class_constant_access_expression"]

/-- A new object stands for itself only if its class has arguments or a body. -/
def isCallable (t : ParseTree) : Bool :=
  callableKinds.contains t.kind ||
    (t.kind == "object_creation_expression" &&
      t.children.any fun c => c.kind == "arguments" || c.kind == "anonymous_class")

def isOwner (t : ParseTree) : Bool :=
  isCallable t || ownerKinds.contains t.kind

/-- A member of the object `t`, called or not. -/
def objectMember (rules : Rules) (m : String) (t : ParseTree) : Parser ParseTree :=
  extend (t.withField "object") do
    mark m
    memberName rules
    let safe := if m == "->" then "" else "nullsafe_"
    if ← nextIs "(" then
      field "arguments" (arguments rules)
      return safe ++ "member_call_expression"
    else return safe ++ "member_access_expression"

/-- A computed name of a class constant.  The whole expression stands for the name. -/
def computedConstant (rules : Rules) : Parser Unit :=
  bracketed "\x7b" "\x7d" (do
    let t ← rules (.expression 0)
    push (.node "name" true none t.extent [t]))

/-- A member of the class `t`: a property, a constant, or a call. -/
def classMember (rules : Rules) (t : ParseTree) : Parser ParseTree :=
  extend t do
    mark "::"
    withAuto false settle
    if ← nextIs "$" then
      field "name" (simpleVariable rules)
      if ← nextIs "(" then
        field "arguments" (arguments rules)
        return "scoped_call_expression"
      else return "scoped_property_access_expression"
    else
      if ← nextIs "\x7b" then computedConstant rules else child (name [])
      if ← nextIs "(" then
        field "arguments" (arguments rules)
        return "scoped_call_expression"
      else return "class_constant_access_expression"

/-- One member, index or call behind `t`. -/
def suffix? (rules : Rules) (t : ParseTree) : Parser (Option ParseTree) := do
  let m ← nextMark
  if t.kind == "relative_scope" then
    if m == "::" then some <$> classMember rules t else failure
  else if m == "(" && isCallable t then
    some <$> extend (t.withField "function") (do
      field "arguments" (arguments rules)
      return "function_call_expression")
  else if !isOwner t then return none
  else if m == "->" || m == "?->" then some <$> objectMember rules m t
  else if m == "::" then some <$> classMember rules t
  else if m == "[" then
    some <$> extend t (do
      bracketed "[" "]" (do if ← nextIs "]" then return () else child (rules (.expression 0)))
      return "subscript_expression")
  else return none

/-- All members, indices and calls behind `t`, and one step up or down behind a place. -/
def suffixes (rules : Rules) (t : ParseTree) : Parser ParseTree := do
  let t ← iterate (suffix? rules) t
  let m ← nextMark
  if (m == "++" || m == "--") && isPlace t then
    extend (t.withField "argument") (do
      mark m
      return "update_expression")
  else return t

/-! ## Primary expressions -/

/-- The word for the class at hand, which must own a member, or a name in its place. -/
def scopeWord : Parser ParseTree := do
  let w ← nextWord
  let m ← markAfterWord
  if m == "::" then build "relative_scope" (keyword w)
  else
    guard (w == "static" && ["(", "[", "->", "?->"].contains m)
    name []

/-- Word and operand: output, or an exception. -/
def wordOperand (rules : Rules) (w kind : String) : Parser ParseTree :=
  build kind do
    keyword w
    child (rules (.expression 0))

/-- The step up or down of a place. -/
def stepBefore (rules : Rules) (m : String) : Parser ParseTree :=
  build "update_expression" do
    mark m
    field "argument" (place rules)

/-- What the word at hand starts. -/
def primaryWord (rules : Rules) (w : String) : Parser ParseTree := do
  match w with
  | "array" => wordArray rules
  | "fn" | "function" => closure rules
  | "new" => creation rules
  | "print" => wordOperand rules "print" "print_intrinsic"
  | "throw" => wordOperand rules "throw" "throw_expression"
  | "self" | "parent" => scopeWord
  | "static" =>
    let v ← wordAfterWord
    if v == "fn" || v == "function" then closure rules else scopeWord
  | _ =>
    guard (w == "namespace" || !primaryWords.contains w)
    symbolName

/-- The start of a primary expression. -/
def primaryStart (rules : Rules) : Parser ParseTree := do
  withAuto false settle
  match ← literal? rules with
  | some t => return t
  | none =>
    let m ← nextMark
    let input := (← read).input
    if m == "$" then simpleVariable rules
    else if m == "(" then parenthesized rules
    else if m == "[" then
      let t ← bracketArray rules
      guard (t.kind != "list_literal")
      return t
    else if m == "++" || m == "--" then stepBefore rules m
    else if m == "#[" then closure rules
    else if m == "\\" then symbolName
    else if input.charAt (← here) == '`' then shellCommand rules
    else primaryWord rules (← nextWord)

/-- A primary expression. -/
def primary (rules : Rules) : Parser ParseTree := do
  suffixes rules (← primaryStart rules)

end Parser

end Introspect.Grammar
