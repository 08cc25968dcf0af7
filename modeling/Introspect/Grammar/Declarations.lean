import Introspect.Grammar.Members

/-! # Declarations

* `Parser.declaration` — functions, classes, interfaces, traits, enumerations and constants,
  with their attributes and modifiers;
* `Parser.namespaceStatement`, `Parser.useStatement` — namespaces and imported names;
* `Parser.staticStatement`, `Parser.globalStatement` — variables that outlive a call.
-/

namespace Introspect.Grammar

open Introspect.Syntax

namespace Parser

/-! ## Functions and classes -/

/-- Adds the rest of a function behind its word. -/
def functionRest (rules : Rules) : Parser Unit := do
  if ← nextIs "&" then child referenceModifier
  field "name" (name reservedWords)
  field "parameters" (parameters rules)
  returnType
  field "body" (rules .block)

/-- Adds the type of the values of an enumeration, if there is one. -/
def backingType : Parser Unit := do
  if ← nextIs ":" then
    mark ":"
    gather
    let input := (← read).input
    let i := (← get).pos
    let stop := input.nameEnd i
    guard (["string", "int"].contains (input.between i stop))
    child (takeTo "primitive_type" true stop)

/-- A declaration with its attributes and modifiers. -/
def declaration (rules : Rules) : Parser ParseTree :=
  buildWith do
    attributes rules
    match ← nextWord with
    | "function" =>
      keyword "function"
      functionRest rules
      return "function_definition"
    | "interface" =>
      keyword "interface"
      field "name" (name reservedForClasses)
      bases "extends" "base_clause"
      field "body" (classBody rules)
      return "interface_declaration"
    | "trait" =>
      keyword "trait"
      field "name" (name reservedForClasses)
      field "body" (classBody rules)
      return "trait_declaration"
    | "enum" =>
      keyword "enum"
      field "name" (name reservedForClasses)
      backingType
      bases "implements" "class_interface_clause"
      field "body" (enumBody rules)
      return "enum_declaration"
    | _ =>
      modifiers
      if ← nextWordIs "const" then
        constants rules reservedWords
        return "const_declaration"
      else
        keyword "class"
        field "name" (name reservedForClasses)
        classBases
        field "body" (classBody rules)
        return "class_declaration"

/-! ## Namespaces and imports -/

/-- A namespace with its body, or for the statements that follow. -/
def namespaceStatement (rules : Rules) : Parser ParseTree :=
  build "namespace_definition" do
    keyword "namespace"
    if ← nextIs "\x7b" then field "body" (rules .block)
    else
      withAuto true (field "name" namespaceName)
      if ← withAuto true (nextIs "\x7b") then field "body" (rules .block) else semicolon

/-- Adds the word for the kind of what is imported, if there is one. -/
def importKind : Parser Unit := do
  let w ← nextWord
  if w == "function" || w == "const" then keyword w

/-- An imported name, perhaps under another name. -/
def useClause : Parser ParseTree :=
  build "namespace_use_clause" do
    importKind
    child importedName
    if ← nextWordIs "as" then
      keyword "as"
      field "alias" (name reservedWords)

/-- Names to import. -/
def useStatement : Parser ParseTree :=
  build "namespace_use_declaration" do
    keyword "use"
    let grouped ← lookahead (do
      importKind
      child namespaceName
      mark "\\"
      nextIs "\x7b")
    if grouped then
      importKind
      child namespaceName
      mark "\\"
      field "body" (build "namespace_use_group"
        (bracketed "\x7b" "\x7d" (separated "," (child useClause))))
    else withAuto true (separated "," (child useClause))
    semicolon

/-! ## Variables -/

/-- Variables of a function that keep their values between calls. -/
def staticStatement (rules : Rules) : Parser ParseTree :=
  build "function_static_declaration" do
    keyword "static"
    withAuto true (separated "," (child (build "static_variable_declaration" do
      field "name" variableName
      if ← nextIs "=" then
        mark "="
        field "value" (rules (.expression 0)))))
    semicolon

/-- Variables of the program that a function shares. -/
def globalStatement (rules : Rules) : Parser ParseTree :=
  build "global_declaration" do
    keyword "global"
    withAuto true (separated "," (child (simpleVariable rules)))
    semicolon

end Parser

end Introspect.Grammar
