import Introspect.Grammar.Functions

/-! # Classes and their members

* `Parser.constants` — constants with their values;
* `Parser.method`, `Parser.properties`, `Parser.traitUse`, `Parser.enumCase` — members;
* `Parser.classBody`, `Parser.enumBody` — the members in braces;
* `Parser.bases` — the classes that a class builds on.
-/

namespace Introspect.Grammar

open Introspect.Syntax

namespace Parser

/-! ## Members -/

/-- A constant with its value. -/
def constant (rules : Rules) (reserved : List String) : Parser ParseTree :=
  build "const_element" do
    child (name reserved)
    mark "="
    child (rules (.expression 0))

/-- Adds the type of constants, if there is one; the answer is whether there is. -/
def constantType : Parser Bool := do
  if (← nextIsPrimitive) || (← nextIs "?") || (← nextIs "(") || (← nextWordIs "namespace") then
    field "type" typeExpr
    return true
  else
    (do
      field "type" typeExpr
      guard (← nextIsName)
      return true) <|> return false

/-- Adds the word for constants, their type, and the constants.  Outside classes the words in
`reserved` name none, save where a type may stand as well. -/
def constants (rules : Rules) (reserved : List String) : Parser Unit := do
  keyword "const"
  let typed ← constantType
  withAuto true do
    child (constant rules (if typed then reserved else []))
    repeatWhile (nextIs ",") (do mark ","; child (constant rules reserved))
  semicolon

/-- Adds the rest of a property declaration behind its modifiers. -/
def properties (rules : Rules) : Parser Unit := do
  parameterType
  withAuto true (separated "," (child (build "property_element" do
    field "name" variableName
    defaultValue rules)))
  if ← withAuto true (nextIs "\x7b") then child (hooks rules) else semicolon

/-- Adds the rest of a method declaration behind its modifiers. -/
def method (rules : Rules) : Parser Unit := do
  keyword "function"
  if ← nextIs "&" then child referenceModifier
  field "name" (name [])
  field "parameters" (parameters rules)
  returnType
  if ← withAuto true (nextIs "\x7b") then field "body" (rules .block) else semicolon

/-- Words that start an expression for a class. -/
def scopeStarts : List String := ["array", "new", "parent", "self", "static"]

/-- A method of a trait: its name, with or without its class. -/
def traitMethod (rules : Rules) : Parser ParseTree := do
  let w ← nextWord
  if scopeStarts.contains w || (w == "" && !(← nextIs "\\")) then
    let t ← rules .primary
    guard (t.kind == "class_constant_access_expression")
    return t
  else
    let first ← symbolName
    if ← nextIs "::" then
      extend first (do
        mark "::"
        child (name [])
        return "class_constant_access_expression")
    else
      guard (first.kind == "name")
      return first

/-- A method of a trait under another name or visibility, or in place of another method. -/
def traitRule (rules : Rules) : Parser ParseTree :=
  buildWith do
    let target ← traitMethod rules
    push target
    if ← nextWordIs "insteadof" then
      guard (target.kind != "name")
      keyword "insteadof"
      child (name reservedWords)
      return "use_instead_of_clause"
    else
      keyword "as"
      if visibilityWords.contains (← nextWord) then
        child visibility
        if ← withAuto true nextIsName then child (name reservedWords)
      else child (name reservedWords)
      return "use_as_clause"

/-- Traits that a class takes in. -/
def traitUse (rules : Rules) : Parser ParseTree :=
  build "use_declaration" do
    keyword "use"
    withAuto true (separated "," (child className))
    if ← withAuto true (nextIs "\x7b") then
      child (build "use_list" (bracketed "\x7b" "\x7d" (itemsUntil "\x7d" do
        child (traitRule rules)
        semicolon)))
    else semicolon

/-- Adds the rest of an enumeration case. -/
def enumCase (rules : Rules) : Parser Unit := do
  keyword "case"
  withAuto true do
    field "name" (name [])
    if ← nextIs "=" then
      mark "="
      field "value" (rules (.expression 0))
  semicolon

/-- A member of a class, or of an enumeration, which has cases and no properties. -/
def member (rules : Rules) (enumeration : Bool) : Parser ParseTree := do
  settle
  if ← nextWordIs "use" then traitUse rules
  else buildWith do
    attributes rules
    let w ← nextWord
    if enumeration && w == "case" then
      enumCase rules
      return "enum_case"
    else
      modifiers
      let v ← nextWord
      if v == "const" then
        constants rules []
        return "const_declaration"
      else if v == "function" then
        method rules
        return "method_declaration"
      else
        guard (!enumeration && modifierWords.contains w)
        properties rules
        return "property_declaration"

/-! ## Bodies and bases -/

/-- The members of a class in braces. -/
def classBody (rules : Rules) : Parser ParseTree :=
  build "declaration_list"
    (bracketed "\x7b" "\x7d" (itemsUntil "\x7d" (child (member rules false))))

/-- The members of an enumeration in braces. -/
def enumBody (rules : Rules) : Parser ParseTree :=
  build "enum_declaration_list"
    (bracketed "\x7b" "\x7d" (itemsUntil "\x7d" (child (member rules true))))

/-- Adds the names behind the keyword `w` as one clause, if the keyword comes next. -/
def bases (w kind : String) : Parser Unit := do
  if ← nextWordIs w then
    child (build kind (do keyword w; separated "," (child className)))

/-- Adds the classes and interfaces that a class builds on. -/
def classBases : Parser Unit := do
  bases "extends" "base_clause"
  bases "implements" "class_interface_clause"

end Parser

end Introspect.Grammar
