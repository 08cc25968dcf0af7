import Introspect.Grammar.Statements

/-! # Programs

* `grammar` — all rules, tied together;
* `parse? : Dialect → String → Option ParseTree` — the tree of a text, if it is in the grammar.

The rules refer to each other through a bound on their nesting.  Every nested rule reads at least
a part of the text, so a multiple of its length is bound enough.
-/

namespace Introspect.Grammar

open Introspect.Syntax

/-- The rules, with at most the given number of them inside each other. -/
def grammar : Nat → Rules
  | 0 => fun _ => failure
  | depth + 1 => fun rule =>
    let rules := grammar depth
    match rule with
    | .expression level => Parser.expression rules level
    | .item => Parser.item rules
    | .unary => Parser.unary rules
    | .primary => Parser.primary rules
    | .statement => Parser.statement rules
    | .block => Parser.block rules

namespace Parser

/-- Adds the token from the next token on, if it has an end. -/
def tag? (kind : String) (stop : Input → Nat → Option Nat) : Parser Bool := do
  let a ← ahead
  match stop (← read).input a.pos with
  | some e =>
    gather
    token kind true e
    return true
  | none => return false

/-- Does the text end here, but for what may stand between tokens? -/
def nextIsTextEnd : Parser Bool := do
  return (← read).input.atEnd (← next)

/-- Adds statements up to the end of the text or up to a closing tag. -/
def statementsToEnd (rules : Rules) : Parser Unit :=
  repeatWhile (do return !(← nextIsTextEnd) && !(← nextIs "?>")) (child (rules .statement))

/-- Adds a page of text with code in it. -/
def page (rules : Rules) : Parser Unit := do
  let input := (← read).input
  let i := input.pageStart
  let stop := input.textEnd (input.size + 1) i i
  modify fun s => { s with pos := i }
  if i < stop then token "text" true stop
  let j := input.skipSpace stop
  match input.tagEnd? j with
  | some e =>
    modify fun s => { s with pos := j }
    token "php_tag" true e
    statementsToEnd rules
  | none => modify fun s => { s with pos := j }

/-- Adds code on its own, perhaps between tags. -/
def code (rules : Rules) : Parser Unit := do
  gather
  let _ ← tag? "php_tag" Input.tagEnd?
  statementsToEnd rules
  let _ ← tag? "php_end_tag" fun input i => if input.spells i ['?', '>'] then some (i + 2) else none

/-- A whole text. -/
def program (rules : Rules) : Parser ParseTree := do
  let input := (← read).input
  match input.dialect with
  | .template => page rules
  | .bare => code rules
  -- Comments at the end belong to the program, and nothing else may be left.
  gather
  guard (← nextIsTextEnd)
  let s ← get
  let children := s.done.reverse
  let first := (children.head?.map ParseTree.extent).getD (extentOf input s.pos s.pos)
  return .node "program" true none
    ⟨first.startByte, input.byteAt input.size, first.startRow, input.rowAt input.size⟩ children

end Parser

/-- The tree of a text; nothing if the text is not in the grammar. -/
def parse? (dialect : Dialect) (text : String) : Option ParseTree :=
  let input := Input.ofString dialect text
  let rules := grammar (4 * (input.size + 4))
  ((Parser.program rules).run { input, auto := false } |>.run ⟨0, []⟩).map (·.1)

end Introspect.Grammar
