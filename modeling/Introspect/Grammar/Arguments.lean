import Introspect.Grammar.Names

/-! # Arguments and attributes

* `Parser.arguments` — the arguments of a call, by position, by name or spread;
* `Parser.attributes` — attributes before a declaration, if there are any.
-/

namespace Introspect.Grammar

open Introspect.Syntax

namespace Parser

/-- Words that start an expression and never name an argument. -/
def nonArgumentWords : List String := [
  "list", "print", "new", "clone", "include", "include_once", "require", "require_once", "yield"]

/-- Words for the class at hand, its parent, and the class called. -/
def scopeWords : List String := ["self", "parent", "static"]

/-- Does a name with a colon come next? -/
def nextIsArgumentName : Parser Bool := do
  if ← nextIsName then
    return (← markAfterWord) == ":" && !nonArgumentWords.contains (← nextWord)
  else return false

/-- A spread value. -/
def unpacking (rules : Rules) : Parser ParseTree :=
  build "variadic_unpacking" do
    mark "..."
    child (rules (.expression 0))

def argument (rules : Rules) : Parser ParseTree :=
  build "argument" do
    if ← nextIsArgumentName then
      field "name" (name [])
      mark ":"
    if ← nextIs "&" then field "reference_modifier" referenceModifier
    if ← nextIs "..." then child (unpacking rules)
    else
      let alone ← (do
        let m ← markAfterWord
        return scopeWords.contains (← nextWord) && (m == "," || m == ")"))
      if alone then child (name []) else child (rules (.expression 0))

/-- The arguments of a call in brackets. -/
def arguments (rules : Rules) : Parser ParseTree :=
  build "arguments" (bracketed "(" ")" do
    if (← nextIs "...") && (← markAfter 3) == ")" then
      child (build "variadic_placeholder" (mark "..."))
    else listUntil ")" (child (argument rules)))

def attributeItem (rules : Rules) : Parser ParseTree :=
  build "attribute" do
    child className
    if ← nextIs "(" then field "parameters" (arguments rules)

def attributeGroup (rules : Rules) : Parser ParseTree :=
  build "attribute_group" (bracketed "#[" "]" (nonemptyListUntil "]" (child (attributeItem rules))))

def attributeList (rules : Rules) : Parser ParseTree :=
  build "attribute_list" do
    child (attributeGroup rules)
    repeatWhile (nextIs "#[") (child (attributeGroup rules))

/-- Adds the attributes before a declaration, if there are any. -/
def attributes (rules : Rules) : Parser Unit := do
  if ← nextIs "#[" then field "attributes" (attributeList rules)

end Parser

end Introspect.Grammar
