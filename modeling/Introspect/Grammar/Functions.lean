import Introspect.Grammar.Types
import Introspect.Grammar.Arguments

/-! # Functions

* `Parser.parameters` — the parameters of a function;
* `Parser.closure` — functions without a name, with a body or with one expression;
* `Parser.visibility`, `Parser.modifier` — the words before a member;
* `Parser.hooks` — the accessors of a property.
-/

namespace Introspect.Grammar

open Introspect.Syntax

namespace Parser

/-! ## Modifiers -/

def visibilityWords : List String := ["public", "protected", "private"]

def modifierWords : List String :=
  visibilityWords ++ ["var", "static", "final", "abstract", "readonly"]

/-- A visibility, which may name the operation it is for in brackets that follow at once. -/
def visibility : Parser ParseTree :=
  build "visibility_modifier" do
    let w ← nextWord
    guard (visibilityWords.contains w)
    keyword w
    let input := (← read).input
    if input.charAt (← get).pos == '(' then
      child (takeTo "(" false ((← get).pos + 1))
      settle
      let i := (← get).pos
      guard (i < input.nameEnd i && !reservedWords.contains (input.wordAt i))
      child (takeTo "operation" true (input.nameEnd i))
      let j := (← get).pos
      guard (input.charAt j == ')')
      child (takeTo ")" false (j + 1))

/-- One of the words before a member. -/
def modifier : Parser ParseTree := do
  settle
  let w ← nextWord
  if visibilityWords.contains w then visibility
  else if w == "var" then takeTo "var_modifier" true ((← read).input.nameEnd (← get).pos)
  else
    guard (modifierWords.contains w)
    build (w ++ "_modifier") (keyword w)

def nextIsModifier : Parser Bool := do
  return modifierWords.contains (← nextWord)

/-- Adds the words before a member. -/
def modifiers : Parser Unit :=
  repeatWhile nextIsModifier (child modifier)

/-! ## Property accessors -/

/-- Adds a default value, if there is one. -/
def defaultValue (rules : Rules) : Parser Unit := do
  if ← nextIs "=" then
    mark "="
    field "default_value" (rules (.expression 0))

/-- A parameter list, given the parser for one parameter. -/
def parameterList (parameter : Parser ParseTree) : Parser ParseTree :=
  build "formal_parameters" (bracketed "(" ")" (looseListUntil ")" (child parameter)))

/-- One accessor of a property. -/
def hook (rules : Rules) (parameter : Parser ParseTree) : Parser ParseTree :=
  build "property_hook" do
    attributes rules
    if ← nextWordIs "final" then field "final" modifier
    if ← nextIs "&" then field "reference_modifier" referenceModifier
    child (name reservedWords)
    if ← nextIs "(" then field "parameters" (parameterList parameter)
    if ← nextIs "=>" then
      mark "=>"
      withAuto true (field "body" (rules (.expression 0)))
      semicolon
    else if ← nextIs "\x7b" then field "body" (rules .block)
    else semicolon

/-- The accessors of a property in braces. -/
def hookList (rules : Rules) (parameter : Parser ParseTree) : Parser ParseTree :=
  build "property_hook_list"
    (bracketed "\x7b" "\x7d" (itemsUntil "\x7d" (child (hook rules parameter))))

/-! ## Parameters -/

/-- Adds a type, unless the variable comes next. -/
def parameterType : Parser Unit := do
  let m ← nextMark
  if m == "$" || m == "&" || m == "..." then return () else field "type" typeExpr

/-- Adds what follows the visibility of a parameter that declares a property too. -/
def promotedRest (rules : Rules) (accessors : Parser ParseTree) : Parser Unit := do
  if ← nextWordIs "readonly" then field "readonly" modifier
  parameterType
  if ← nextIs "&" then field "name" (reference rules) else field "name" variableName
  defaultValue rules
  if ← nextIs "\x7b" then child accessors

/-- A parameter.  Accessors nest, which `fuel` bounds. -/
def parameterFor (rules : Rules) : Nat → Parser ParseTree
  | 0 => failure
  | fuel + 1 =>
    buildWith do
      attributes rules
      if visibilityWords.contains (← nextWord) then
        field "visibility" visibility
        promotedRest rules (hookList rules (parameterFor rules fuel))
        return "property_promotion_parameter"
      else
        parameterType
        if ← nextIs "&" then field "reference_modifier" referenceModifier
        if ← nextIs "..." then
          mark "..."
          field "name" variableName
          return "variadic_parameter"
        else
          field "name" variableName
          defaultValue rules
          return "simple_parameter"

def parameter (rules : Rules) : Parser ParseTree := do
  parameterFor rules (← rounds)

/-- The parameters of a function in brackets. -/
def parameters (rules : Rules) : Parser ParseTree :=
  parameterList (parameter rules)

/-- The accessors of a property in braces. -/
def hooks (rules : Rules) : Parser ParseTree :=
  hookList rules (parameter rules)

/-! ## Closures -/

/-- The variables that a closure takes along. -/
def closureUses (rules : Rules) : Parser ParseTree :=
  build "anonymous_function_use_clause" do
    keyword "use"
    bracketed "(" ")" (nonemptyListUntil ")" do
      if ← nextIs "&" then child (reference rules) else child variableName)

/-- A function without a name. -/
def closure (rules : Rules) : Parser ParseTree :=
  buildWith do
    attributes rules
    if ← nextWordIs "static" then field "static_modifier" modifier
    let arrow ← nextWordIs "fn"
    keyword (if arrow then "fn" else "function")
    if ← nextIs "&" then field "reference_modifier" referenceModifier
    field "parameters" (parameters rules)
    if arrow then
      returnType
      mark "=>"
      field "body" (rules (.expression 0))
      return "arrow_function"
    else
      if ← nextWordIs "use" then child (closureUses rules)
      returnType
      field "body" (rules .block)
      return "anonymous_function"

end Parser

end Introspect.Grammar
