import Introspect.Grammar.Primaries

/-! # Expressions

* `Operator`, `operator?` — the binary operators with their binding strengths;
* `Parser.unary` — a primary expression with the operators before it;
* `Parser.expression` — an expression whose operators bind at least as strongly as a given level;
* `Parser.sequence` — expressions with commas between them.

An assignment may stand wherever an operand may: its left side is a place, so no operator
competes for it.
-/

namespace Introspect.Grammar

open Introspect.Syntax

/-! ## Binding strengths -/

/-- A binary operator: its binding strength, and the strength from which on operators belong to its
right operand. -/
structure Operator where
  level : Nat
  right : Nat
deriving DecidableEq, Repr

/-- An operator of which equals group to the left. -/
def Operator.leftward (level : Nat) : Operator := ⟨level, level + 1⟩

/-- An operator of which equals group to the right. -/
def Operator.rightward (level : Nat) : Operator := ⟨level, level⟩

def operator? : String → Option Operator
  | "or" => some (.leftward 1)
  | "xor" => some (.leftward 2)
  | "and" => some (.leftward 3)
  | "??" => some (.rightward 6)
  | "||" => some (.leftward 7)
  | "&&" => some (.leftward 8)
  | "|" => some (.leftward 9)
  | "^" => some (.leftward 10)
  | "&" => some (.leftward 11)
  | "==" | "!=" | "<>" | "===" | "!==" | "<=>" => some (.leftward 12)
  | "<" | ">" | "<=" | ">=" => some (.leftward 13)
  | "|>" => some (.leftward 14)
  | "." => some (.leftward 15)
  | "<<" | ">>" => some (.leftward 16)
  | "+" | "-" => some (.leftward 17)
  | "*" | "/" | "%" => some (.leftward 18)
  | "**" => some (.rightward 19)
  | _ => none

/-- The right side of an assignment takes the operators from here on. -/
def assignmentLevel : Nat := 5

/-- A choice between two values binds as strongly as this. -/
def choiceLevel : Nat := 5

/-- What stands behind an operator with one operand takes the operators from here on, which leaves
the test for a class. -/
def unaryLevel : Nat := 20

/-- The test for a class binds as strongly as this. -/
def instanceLevel : Nat := 21

/-- Assignments that combine the value of a place with another one. -/
def combiningMarks : List String := [
  "**=", "*=", "/=", "%=", "+=", "-=", ".=", "<<=", ">>=", "&=", "^=", "|=", "??="]

/-- Words in brackets that convert the value behind them. -/
def castWords : List String := [
  "array", "binary", "bool", "boolean", "double", "float", "int", "integer", "object", "real",
  "string", "unset"]

/-- Kinds that the test for a class does not apply to. -/
def compoundKinds : List String := [
  "binary_expression", "conditional_expression", "match_expression", "assignment_expression",
  "reference_assignment_expression", "augmented_assignment_expression", "yield_expression",
  "error_suppression_expression", "include_expression", "include_once_expression",
  "require_expression", "require_once_expression"]

namespace Parser

/-! ## Operators before an operand -/

/-- Does a conversion come next?  Behind the bracket its words are no names, save the word for
arrays before another bracket. -/
def nextIsCast : Parser Bool := do
  if ← nextIs "(" then
    let input := (← read).input
    let i ← tokenFrom ((← next) + 1)
    let after := input.operatorAt (← tokenFrom (input.nameEnd i))
    return castWords.contains (input.wordAt i) && !(input.wordAt i == "array" && after == "(")
  else return false

/-- An operand behind the mark that hides errors. -/
def suppression (rules : Rules) : Parser ParseTree :=
  build "error_suppression_expression" do
    mark "@"
    child (rules (.expression unaryLevel))

/-- A file to be read as code. -/
def inclusion (rules : Rules) (w : String) : Parser ParseTree :=
  wordOperand rules w (w ++ "_expression")

/-- A conversion and what it converts. -/
def cast (rules : Rules) : Parser ParseTree :=
  build "cast_expression" do
    bracketed "(" ")" (do
      gather
      field "type" (takeTo "cast_type" true ((← read).input.nameEnd (← here))))
    withAuto false settle
    let w ← nextWord
    if ← nextIs "@" then field "value" (suppression rules)
    else if w == "include" || w == "include_once" then field "value" (inclusion rules w)
    else field "value" (rules .unary)

/-- A primary expression with the operators before it. -/
def unary (rules : Rules) : Parser ParseTree := do
  withAuto false settle
  let m ← nextMark
  if (["+", "-", "~", "!"].contains m) then
    build "unary_op_expression" (do
      mark m
      field "argument" (rules (.expression unaryLevel)))
  else if ← nextIsCast then cast rules
  else if ← nextWordIs "clone" then
    build "clone_expression" (do
      keyword "clone"
      child (rules .primary))
  else rules .primary

/-! ## Words with operands -/

/-- Marks that start a value behind the word that hands values out. -/
def yieldedMarks : List String := [
  "", "(", "[", "$", "&", "+", "-", "~", "!", "@", "++", "--", "...", "#[", "\\", "<<<"]

/-- Does a value follow the word that hands values out? -/
def nextIsYielded : Parser Bool := do
  let input := (← read).input
  let i ← next
  let m := input.operatorAt i
  let isNumber := match input.float? i with
    | some stop => i + 1 < stop
    | none => false
  return !input.atEnd i &&
    (yieldedMarks.contains m || (m == "." && isNumber)) &&
    !(["and", "or", "xor", "as", "instanceof"].contains (input.wordAt i))

/-- A value handed out, or all values of another source. -/
def yielding (rules : Rules) : Parser ParseTree :=
  build "yield_expression" do
    let input := (← read).input
    let i ← here
    if input.spellsFolded i "yield from".toList then
      token "yield from" false (i + 10)
      child (rules (.expression 0))
    else
      keyword "yield"
      if ← nextIsYielded then
        let t ← element rules
        guard !isGapped t
        push t

/-- One line of a selection: conditions and a value. -/
def matchArm (rules : Rules) : Parser ParseTree :=
  buildWith do
    let value : Parser Unit := do
      mark "=>"
      field "return_expression" (rules (.expression 0))
    if ← nextWordIs "default" then
      keyword "default"
      value
      return "match_default_expression"
    else
      field "conditional_expressions" (build "match_condition_list"
        (nonemptyListUntil "=>" (child (rules (.expression 0)))))
      value
      return "match_conditional_expression"

/-- A selection by value. -/
def matching (rules : Rules) : Parser ParseTree :=
  build "match_expression" do
    keyword "match"
    field "condition" (parenthesized rules)
    field "body" (build "match_block"
      (bracketed "\x7b" "\x7d" (looseListUntil "\x7d" (child (matchArm rules)))))

/-! ## Assignments -/

/-- The assignment to `left`, if one comes next. -/
def assignment (rules : Rules) (left : ParseTree) : Parser ParseTree := do
  let m ← nextMark
  if m == "=" then
    extend (left.withField "left") do
      mark "="
      withAuto false settle
      if ← nextIs "&" then
        mark "&"
        field "right" (rules (.expression assignmentLevel))
        return "reference_assignment_expression"
      else
        field "right" (rules (.expression assignmentLevel))
        return "assignment_expression"
  else if combiningMarks.contains m && left.kind != "list_literal" then
    extend (left.withField "left") do
      mark m
      field "right" (rules (.expression assignmentLevel))
      return "augmented_assignment_expression"
  else return left

/-- What follows the array `t`: an assignment to its pattern, or members, indices and calls. -/
def afterArray (rules : Rules) (t : ParseTree) : Parser ParseTree := do
  if ← nextIs "=" then assignment rules (← asPattern t)
  else
    guard (t.kind != "list_literal")
    let t ← suffixes rules t
    if isPlace t then assignment rules t else return t

/-- The first operand of an expression. -/
def operand (rules : Rules) : Parser ParseTree := do
  withAuto false settle
  let w ← nextWord
  -- Only behind its closing bracket does an array turn out to be assigned to.
  if ← nextIs "[" then afterArray rules (← bracketArray rules)
  else if ← nextIs "@" then suppression rules
  else match w with
    | "match" => matching rules
    | "yield" => yielding rules
    | "include" | "include_once" | "require" | "require_once" => inclusion rules w
    | "list" =>
      -- The word for lists opens a pattern and nothing else.
      let t ← listPattern rules
      guard (← nextIs "=")
      assignment rules t
    | _ =>
      let t ← rules .unary
      if isPlace t then assignment rules t else return t

/-! ## Operators between operands -/

/-- The choice between two values under the condition `left`. -/
def choice (rules : Rules) (left : ParseTree) : Parser ParseTree :=
  extend (left.withField "condition") do
    mark "?"
    withAuto false (do
      if !(← nextIs ":") then field "body" (rules (.expression 0))
      mark ":")
    field "alternative" (rules (.expression (choiceLevel + 1)))
    return "conditional_expression"

/-- The mark between two operands with which the mark `m` starts.  Behind an operand that is no
place, the marks of steps are two signs, and that of a spread is a point with more behind it. -/
def betweenOperands (m : String) : String :=
  match m with
  | "++" => "+"
  | "--" => "-"
  | "..." => "."
  | _ => m

/-- The operator behind `left` with its other operands, if it binds at least as strongly
as `level`. -/
def operation? (rules : Rules) (level : Nat) (left : ParseTree) : Parser (Option ParseTree) := do
  let m := betweenOperands (← nextMark)
  let w ← nextWord
  -- The test for a class takes no compound expression, however weakly that one binds.
  if w == "instanceof" && level ≤ instanceLevel && !compoundKinds.contains left.kind then
    some <$> extend (left.withField "left") (do
      keyword w
      field "right" (classReference rules)
      return "binary_expression")
  else if m == "?" && level ≤ choiceLevel then some <$> choice rules left
  else match operator? (if m == "" then w else m) with
    | none => return none
    | some o =>
      if level ≤ o.level then
        some <$> extend (left.withField "left") (do
          if m == "" then keyword w else partialMark m
          field "right" (rules (.expression o.right))
          return "binary_expression")
      else return none

/-- The expression that starts with the operand `left`. -/
def continued (rules : Rules) (level : Nat) (left : ParseTree) : Parser ParseTree :=
  iterate (operation? rules level) left

/-- An expression whose operators bind at least as strongly as `level`. -/
def expression (rules : Rules) (level : Nat) : Parser ParseTree := do
  continued rules level (← operand rules)

/-- An expression, or a pattern with gaps. -/
def item (rules : Rules) : Parser ParseTree := do
  withAuto false settle
  if ← nextIs "[" then
    let t ← bracketArray rules
    if t.kind == "list_literal" && !(← nextIs "=") then return t
    else continued rules 0 (← afterArray rules t)
  else expression rules 0

def sequenceFor (rules : Rules) : Nat → Parser ParseTree
  | 0 => failure
  | fuel + 1 => do
    let t ← rules (.expression 0)
    if ← nextIs "," then
      extend t (do
        mark ","
        child (sequenceFor rules fuel)
        return "sequence_expression")
    else return t

/-- Expressions with commas between them. -/
def sequence (rules : Rules) : Parser ParseTree := do
  sequenceFor rules (← rounds)

end Parser

end Introspect.Grammar
