import Introspect.Grammar.Arguments

/-! # Arrays and patterns

* `Parser.wordArray`, `Parser.bracketArray` — arrays with their elements;
* `Parser.element` — an element with its key, a reference, or a spread value;
* `Parser.pattern?` — an array in brackets read as the left side of an assignment;
* `Parser.listPattern` — the left side of an assignment behind the word for lists.

Only behind its closing bracket does an array turn out to be a pattern.  So it is read once,
gaps between commas allowed, and `pattern?` turns it into a pattern afterwards.
-/

namespace Introspect.Grammar

open Introspect.Syntax

namespace Parser

/-! ## Patterns -/

/-- What a pattern may assign to by itself. -/
def isTarget (t : ParseTree) : Bool :=
  isPlace t || t.kind == "by_ref" || t.kind == "list_literal"

mutual

/-- The array as a pattern: its elements are places, references or patterns, with or
without a key. -/
def pattern? : ParseTree → Option ParseTree
  | .node kind named f extent children =>
    if kind == "list_literal" then some (.node kind named f extent children)
    else if kind == "array_creation_expression" &&
        (children.head?.map ParseTree.kind) == some "[" then
      (patternChildren? children).map fun cs => .node "list_literal" named f extent cs
    else none

/-- The children of an array, every element replaced by its parts. -/
def patternChildren? : List ParseTree → Option (List ParseTree)
  | [] => some []
  | .node kind named f extent children :: rest =>
    if kind == "array_element_initializer" then do
      let parts ← patternParts? children
      let more ← patternChildren? rest
      return parts ++ more
    else (patternChildren? rest).map (.node kind named f extent children :: ·)

/-- The parts of an element, of which the last is what is assigned to. -/
def patternParts? : List ParseTree → Option (List ParseTree)
  | [] => some []
  | [t] => if isTarget t then some [t] else (pattern? t).map ([·])
  | t :: u :: rest => (patternParts? (u :: rest)).map (t :: ·)

end

/-! ## Elements -/

/-- Adds a value: a reference or an item. -/
def elementValue (rules : Rules) : Parser Unit := do
  if ← nextIs "&" then child (reference rules) else child (rules .item)

/-- An element of an array. -/
def element (rules : Rules) : Parser ParseTree :=
  build "array_element_initializer" do
    if ← nextIs "..." then child (unpacking rules)
    else if ← nextIs "&" then child (reference rules)
    else
      child (rules .item)
      if ← nextIs "=>" then
        mark "=>"
        elementValue rules

/-- Does the element hold a pattern with gaps? -/
def isGapped (t : ParseTree) : Bool :=
  t.children.any fun c => c.kind == "list_literal"

/-- An array behind its word. -/
def wordArray (rules : Rules) : Parser ParseTree :=
  build "array_creation_expression" do
    keyword "array"
    bracketed "(" ")" (looseListUntil ")" do
      let t ← element rules
      guard !isGapped t
      push t)

/-- Adds the elements of an array up to its closing bracket.  The answer is, last slot first,
whether an element stands in each slot between commas; and whether an element is a pattern with
gaps. -/
def bracketElements (rules : Rules) : Parser (List Bool × Bool) := do
  let slot : Parser (Bool × Bool) := do
    if (← nextIs ",") || (← nextIs "]") then return (false, false)
    else
      let t ← element rules
      push t
      return (true, isGapped t)
  let (filled, gapped) ← slot
  iterate (fun (slots, gapped) => do
    if ← nextIs "," then
      mark ","
      let (filled, more) ← slot
      return some (filled :: slots, gapped || more)
    else return none) ([filled], gapped)

/-- Is there a gap that an array must not have?  A comma may follow the last element, and may
stand alone. -/
def hasGap (slots : List Bool) : Bool :=
  slots.tail.any (!·) && slots != [false, false]

/-- The array as a pattern, which it must be. -/
def asPattern (t : ParseTree) : Parser ParseTree :=
  match pattern? t with
  | some p => return p
  | none => failure

/-- An array in brackets; with gaps it is a pattern already. -/
def bracketArray (rules : Rules) : Parser ParseTree := do
  let (t, gapped) ← buildKeeping (fun _ => "array_creation_expression") do
    mark "["
    withAuto false do
      let (slots, gapped) ← bracketElements rules
      mark "]"
      return gapped || hasGap slots
  if gapped then asPattern t else return t

/-! ## Lists -/

def listPatternFor (rules : Rules) : Nat → Parser ParseTree
  | 0 => failure
  | fuel + 1 =>
    let nested : Parser Unit := do
      guard (← nextWordIs "list")
      child (listPatternFor rules fuel)
    let target : Parser Unit := do
      if ← nextIs "&" then child (reference rules)
      else if ← nextWordIs "list" then child (listPatternFor rules fuel)
      else child (place rules)
    let item : Parser Unit := do
      if ← nextIs "&" then child (reference rules)
      else if ← lookahead (nested *> return !(← nextIs "=")) then nested
      else
        let t ← rules (.expression 0)
        push t
        if ← nextIs "=>" then
          mark "=>"
          target
        else guard (isPlace t)
    let slot : Parser Unit := do
      if (← nextIs ",") || (← nextIs ")") then return () else item
    build "list_literal" do
      keyword "list"
      bracketed "(" ")" (separated "," slot)

/-- A pattern behind the word for lists. -/
def listPattern (rules : Rules) : Parser ParseTree := do
  listPatternFor rules (← rounds)

end Parser

end Introspect.Grammar
