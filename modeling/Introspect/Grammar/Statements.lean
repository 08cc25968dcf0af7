import Introspect.Grammar.Expressions
import Introspect.Grammar.Declarations

/-! # Statements

* `Parser.statementsUntil` — statements up to a word or a mark;
* `Parser.block` — statements in braces;
* `Parser.ifStatement`, `Parser.forStatement`, … — one parser per kind of statement;
* `Parser.statement` — a statement, told by the word it starts with.

A statement word is no name where a statement may start, and elsewhere it is.  The words that
end a block written with a colon count only inside such a block.
-/

namespace Introspect.Grammar

open Introspect.Syntax

/-- Words that start an expression, and so are no labels. -/
def expressionWords : List String := primaryWords ++ [
  "clone", "include", "include_once", "list", "match", "require", "require_once", "yield"]

namespace Parser

/-! ## Blocks -/

/-- Adds statements up to one of the words, or up to the mark `close`; neither is read. -/
def statementsUntil (rules : Rules) (words : List String) (close : String) : Parser Unit :=
  repeatWhile (do return !words.contains (← nextWord) && !(← nextIs close))
    (child (rules .statement))

/-- Statements in braces. -/
def block (rules : Rules) : Parser ParseTree :=
  build "compound_statement" (withColonBranch false
    (bracketed "\x7b" "\x7d" (itemsUntil "\x7d" (child (rules .statement)))))

/-- Adds a colon and statements up to one of the words. -/
def colonStatements (rules : Rules) (words : List String) : Parser Unit := do
  mark ":"
  withAuto false (withColonBranch (words.contains "else") (statementsUntil rules words "\x7d"))

/-- A colon, and statements up to one of the words. -/
def colonBlock (rules : Rules) (words : List String) : Parser ParseTree :=
  build "colon_block" (colonStatements rules words)

/-- Adds the word that ends a block, and the end of the statement. -/
def blockEnd (w : String) : Parser Unit := do
  keyword w
  semicolon

/-- Does the statement end here? -/
def nextIsEnd : Parser Bool := withAuto true do
  let a ← ahead
  return a.implied || (← nextIs ";")

/-! ## Conditions -/

/-- Does a branch of a condition further out come next, with a colon? -/
def nextIsColonBranch (rules : Rules) : Parser Bool :=
  lookahead do
    guard (← read).colonBranch
    match ← nextWord with
    | "else" => return (← markAfterWord) == ":"
    | "elseif" =>
      keyword "elseif"
      child (parenthesized rules)
      nextIs ":"
    | _ => return false

/-- Adds the branches of a condition whose blocks are statements.  A branch with a colon belongs
to a condition further out. -/
def plainBranches (rules : Rules) : Parser Unit := do
  field "body" (rules .statement)
  repeatWhile (do return (← nextWordIs "elseif") && !(← nextIsColonBranch rules))
    (field "alternative" (build "else_if_clause" do
      keyword "elseif"
      field "condition" (parenthesized rules)
      field "body" (rules .statement)))
  if (← nextWordIs "else") && !(← nextIsColonBranch rules) then
    field "alternative" (build "else_clause" do
      keyword "else"
      field "body" (rules .statement))

/-- Adds the branches of a condition whose blocks are written with a colon. -/
def colonBranches (rules : Rules) : Parser Unit := do
  let words := ["elseif", "else", "endif"]
  field "body" (colonBlock rules words)
  repeatWhile (nextWordIs "elseif")
    (field "alternative" (build "else_if_clause" do
      keyword "elseif"
      field "condition" (parenthesized rules)
      field "body" (colonBlock rules words)))
  if ← nextWordIs "else" then
    field "alternative" (build "else_clause" do
      keyword "else"
      field "body" (colonBlock rules ["endif"]))
  blockEnd "endif"

def ifStatement (rules : Rules) : Parser ParseTree :=
  build "if_statement" do
    keyword "if"
    field "condition" (parenthesized rules)
    if ← nextIs ":" then colonBranches rules else plainBranches rules

/-- One case of a distinction. -/
def switchCase (rules : Rules) (words : List String) : Parser ParseTree :=
  buildWith do
    let kind ← (do
      if ← nextWordIs "default" then
        keyword "default"
        return "default_statement"
      else
        keyword "case"
        field "value" (rules (.expression 0))
        return "case_statement")
    if ← nextIs ";" then mark ";" else mark ":"
    statementsUntil rules words "\x7d"
    return kind

def switchStatement (rules : Rules) : Parser ParseTree :=
  build "switch_statement" do
    keyword "switch"
    field "condition" (parenthesized rules)
    field "body" (build "switch_block" (withColonBranch false do
      if ← nextIs ":" then
        mark ":"
        withAuto false (repeatWhile (do return !(← nextWordIs "endswitch"))
          (child (switchCase rules ["case", "default", "endswitch"])))
        blockEnd "endswitch"
      else
        bracketed "\x7b" "\x7d" (itemsUntil "\x7d" (child (switchCase rules ["case", "default"])))))

/-! ## Loops -/

/-- Adds what a loop repeats: nothing, the statements between a colon and the word `w`, or
one statement. -/
def loopBody (rules : Rules) (w : String) (colon : Parser Unit) : Parser Unit := do
  if ← nextIsEnd then semicolon
  else if ← nextIs ":" then
    colon
    blockEnd w
  else field "body" (rules .statement)

def whileStatement (rules : Rules) : Parser ParseTree :=
  build "while_statement" do
    keyword "while"
    field "condition" (parenthesized rules)
    if ← nextIs ":" then
      field "body" (colonBlock rules ["endwhile"])
      blockEnd "endwhile"
    else field "body" (rules .statement)

def doStatement (rules : Rules) : Parser ParseTree :=
  build "do_statement" do
    keyword "do"
    field "body" (rules .statement)
    keyword "while"
    field "condition" (parenthesized rules)
    semicolon

/-- Adds the expressions of a part of a counted loop, if there are any. -/
def loopPart (rules : Rules) (name close : String) : Parser Unit := do
  if ← nextIs close then return () else field name (sequence rules)

def forStatement (rules : Rules) : Parser ParseTree :=
  build "for_statement" do
    keyword "for"
    bracketed "(" ")" do
      loopPart rules "initialize" ";"
      mark ";"
      loopPart rules "condition" ";"
      mark ";"
      loopPart rules "update" ")"
    loopBody rules "endfor" (colonStatements rules ["endfor"])

/-- What a loop over a collection assigns to. -/
def loopTarget (rules : Rules) : Parser ParseTree := do
  settle
  if ← nextIs "&" then reference rules
  else if ← nextWordIs "list" then
    let t ← listPattern rules
    if ← nextIs "=" then continued rules 0 (← assignment rules t) else return t
  else rules .item

def foreachStatement (rules : Rules) : Parser ParseTree :=
  build "foreach_statement" do
    keyword "foreach"
    bracketed "(" ")" do
      child (rules (.expression 0))
      keyword "as"
      let first ← loopTarget rules
      if ← nextIs "=>" then
        guard (first.kind != "by_ref" && first.kind != "list_literal")
        child (extend first do
          mark "=>"
          child (loopTarget rules)
          return "pair")
      else push first
    loopBody rules "endforeach" (field "body" (colonBlock rules ["endforeach"]))

/-! ## Exceptions -/

def catchClause (rules : Rules) : Parser ParseTree :=
  build "catch_clause" do
    keyword "catch"
    bracketed "(" ")" do
      field "type" (build "type_list"
        (separated "|" (child (build "named_type" (child symbolName)))))
      if ← nextIs "$" then field "name" variableName
    field "body" (rules .block)

def finallyClause (rules : Rules) : Parser ParseTree :=
  build "finally_clause" do
    keyword "finally"
    field "body" (rules .block)

def tryStatement (rules : Rules) : Parser ParseTree :=
  build "try_statement" do
    keyword "try"
    field "body" (rules .block)
    let clause : Parser Unit := do
      if ← nextWordIs "catch" then child (catchClause rules) else child (finallyClause rules)
    clause
    repeatWhile (do return ["catch", "finally"].contains (← nextWord)) clause

/-! ## Simple statements -/

/-- A word with an expression behind it or none. -/
def jumpStatement (rules : Rules) (w : String) : Parser ParseTree :=
  build (w ++ "_statement") do
    keyword w
    if ← nextIsEnd then semicolon
    else
      withAuto true (child (rules (.expression 0)))
      semicolon

def gotoStatement : Parser ParseTree :=
  build "goto_statement" do
    keyword "goto"
    child (name reservedWords)
    semicolon

def echoStatement (rules : Rules) : Parser ParseTree :=
  build "echo_statement" do
    keyword "echo"
    withAuto true (child (sequence rules))
    semicolon

def exitStatement (rules : Rules) : Parser ParseTree :=
  build "exit_statement" do
    keyword "exit"
    if ← withAuto true (nextIs "(") then
      bracketed "(" ")" (do
        if ← nextIs ")" then return () else child (rules (.expression 0)))
    semicolon

def unsetStatement (rules : Rules) : Parser ParseTree :=
  build "unset_statement" do
    keyword "unset"
    bracketed "(" ")" (nonemptyListUntil ")" (child (place rules)))
    semicolon

/-- A setting of the compiler with its value. -/
def directive (rules : Rules) : Parser ParseTree :=
  build "declare_directive" do
    let input := (← read).input
    let i ← here
    let stop := input.nameEnd i
    let w := input.between i stop
    guard (["ticks", "encoding", "strict_types"].contains w)
    token w false stop
    mark "="
    match ← literal? rules with
    | some t => push t
    | none => failure

def declareStatement (rules : Rules) : Parser ParseTree :=
  build "declare_statement" do
    keyword "declare"
    bracketed "(" ")" (child (directive rules))
    if ← nextIsEnd then semicolon
    else if ← nextIs ":" then
      colonStatements rules ["enddeclare"]
      blockEnd "enddeclare"
    else child (rules .statement)

def labelStatement : Parser ParseTree :=
  build "named_label_statement" do
    child (name [])
    mark ":"

def expressionStatement (rules : Rules) : Parser ParseTree :=
  build "expression_statement" do
    withAuto true (child (rules (.expression 0)))
    semicolon

/-! ## All statements -/

/-- Does a function with a name come next? -/
def nextIsNamedFunction : Parser Bool :=
  lookahead do
    keyword "function"
    if ← nextIs "&" then mark "&"
    nextIsName

/-- What starts with the word for static things: variables, a declaration, or an expression. -/
def staticStart (rules : Rules) : Parser ParseTree := do
  let v ← wordAfterWord
  if (← markAfterWord) == "$" then staticStatement rules
  else if v == "class" || v == "const" || modifierWords.contains v then declaration rules
  else expressionStatement rules

/-- Is the next word spelled exactly `w`? -/
def nextSpells (w : String) : Parser Bool := do
  let input := (← read).input
  let i ← next
  return input.between i (input.nameEnd i) == w

/-- A statement that starts with a word. -/
def wordStatement (rules : Rules) (w : String) : Parser ParseTree := do
  match w with
  | "if" => ifStatement rules
  | "switch" => switchStatement rules
  | "while" => whileStatement rules
  | "do" => doStatement rules
  | "for" => forStatement rules
  | "foreach" => foreachStatement rules
  | "goto" => gotoStatement
  | "break" | "continue" | "return" => jumpStatement rules w
  | "try" => tryStatement rules
  | "declare" => declareStatement rules
  | "echo" => echoStatement rules
  | "exit" => exitStatement rules
  | "namespace" =>
    if (← markAfterWord) == "\\" then expressionStatement rules else namespaceStatement rules
  | "use" => useStatement
  | "global" => globalStatement rules
  | "static" => staticStart rules
  | "function" =>
    if ← nextIsNamedFunction then declaration rules else expressionStatement rules
  | "interface" | "trait" | "enum" | "class" | "const" | "abstract" | "final" | "readonly"
  | "public" | "protected" | "private" | "var" => declaration rules
  | _ =>
    if ← nextSpells "unset" then unsetStatement rules
    else if !w.isEmpty && !expressionWords.contains w && (← markAfterWord) == ":" then
      labelStatement
    else expressionStatement rules

def statement (rules : Rules) : Parser ParseTree := do
  withAuto false settle
  let m ← nextMark
  if m == ";" then build "empty_statement" (mark ";")
  else if m == "\x7b" then rules .block
  else if m == "#[" then declaration rules <|> expressionStatement rules
  else withAuto false (wordStatement rules (← nextWord))

end Parser

end Introspect.Grammar
