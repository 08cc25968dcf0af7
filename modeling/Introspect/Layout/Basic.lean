import Introspect.Text.Alphanumeric
import Introspect.Layout.Token

/-! # Layout

Statements are laid out anew from their tokens, one statement a line, four spaces for each level,
braces on the opening line:

* `Gap` — what separates a token from the one before it;
* `State` — what the layout remembers of the tokens so far;
* `State.place` — the gap before a token, and the state behind it;
* `placed`, `render` — all tokens with their gaps, and their text;
* `printStatements : List Node → String` — statements as text.
-/

namespace Introspect.Layout

open Introspect.Syntax

/-! ## Words and kinds -/

/-- Words that keep a space before an opening bracket. -/
def spacedWords : List String := [
  "and", "as", "case", "catch", "clone", "echo", "elseif", "fn", "for", "foreach", "function",
  "if", "include", "include_once", "match", "or", "print", "require", "require_once", "return",
  "switch", "throw", "use", "while", "xor", "yield"]

/-- Words that go on with the statement that a closing brace interrupted. -/
def continuationWords : List String := ["catch", "else", "elseif", "finally"]

/-- Kinds whose return type follows the closing bracket without a space. -/
def returnTypeOwners : List String := [
  "anonymous_function", "anonymous_function_creation_expression", "arrow_function",
  "function_definition", "method_declaration"]

/-- Is the token part of the label of a case? -/
def Token.inLabel (t : Token) : Bool :=
  t.parent == "case_statement" || t.parent == "default_statement"

/-- Does the token open the label of a case? -/
def Token.opensLabel (t : Token) : Bool :=
  t.inLabel && (Text.sameFolded t.text "case" || Text.sameFolded t.text "default")

/-- Does the token end the label of a case? -/
def Token.endsLabel (t : Token) : Bool :=
  t.inLabel && t.text == ":"

/-- Does the text end with something that a call or an index can follow? -/
def isWordEnd (text : String) : Bool :=
  match text.toList.getLast? with
  | some c => Text.isWordChar c || ['_', ')', ']', '"', '\''].contains c
  | none => false

/-! ## Gaps -/

/-- What separates a token from the one before it.  A line break carries the level of the
line that it opens. -/
inductive Gap where
  | touch
  | space
  | line (depth : Nat)
deriving DecidableEq, Repr

/-- The blanks of one level. -/
def indentation : List Char := [' ', ' ', ' ', ' ']

def Gap.chars : Gap → List Char
  | touch => []
  | space => [' ']
  | line depth => '\n' :: (List.replicate depth indentation).flatten

def Gap.text (g : Gap) : String := String.ofList g.chars

/-- Tokens that the next token touches. -/
def openers : List String := ["(", "[", "->", "?->", "::", "\\", "...", "@", "!", "$"]

/-- Tokens that touch the one before them. -/
def closers : List String := [")", "]", ",", ";", "->", "?->", "::"]

/-- Does `t` touch `prev` on one line?  A sign keeps its distance from a sign with which it would
merge into a step. -/
def touches (prev t : Token) : Bool :=
  if openers.contains prev.text then true
  else if closers.contains t.text then true
  else if t.text == ":" &&
      ((prev.text == ")" && returnTypeOwners.contains t.parent) || t.inLabel) then true
  else if t.text == "(" || t.text == "[" then
    isWordEnd prev.text && !spacedWords.contains (Text.foldCase prev.text)
  else if prev.parent == "unary_op_expression" && ["-", "+", "~"].contains prev.text then
    prev.text == "~" || !Text.startsWith t.text prev.text
  else if t.text == "++" || t.text == "--" then isWordEnd prev.text
  else if prev.text == "++" || prev.text == "--" then Text.startsWith t.text "$"
  else false

/-! ## State -/

/-- What the layout remembers: for every open brace, innermost first, whether a label inside it
has indented what follows; the current level; how many brackets are open; whether the last
token ended a line; and the last token. -/
structure State where
  blocks : List Bool := []
  depth : Nat := 0
  brackets : Nat := 0
  lineEnded : Bool := false
  last : Option Token := none
deriving DecidableEq, Repr

namespace State

/-- Closes the innermost block, and the case body in it if there is one. -/
def closeBlock (s : State) : State :=
  match s.blocks with
  | [] => { s with depth := s.depth - 1 }
  | indented :: rest =>
    { s with blocks := rest, depth := (if indented then s.depth - 1 else s.depth) - 1 }

/-- Closes the case body in the innermost block, if there is one. -/
def closeCase (s : State) : State :=
  match s.blocks with
  | true :: rest => { s with blocks := false :: rest, depth := s.depth - 1 }
  | _ => s

/-- Opens a case body in the innermost block. -/
def openCase (s : State) : State :=
  { s with
    blocks := match s.blocks with
      | [] => []
      | _ :: rest => true :: rest
    depth := s.depth + 1
    lineEnded := true }

/-- What the token ends before it is placed. -/
def closeFor (s : State) (t : Token) : State :=
  if s.last.isNone then s
  else if t.text == "\x7d" then s.closeBlock
  else if t.opensLabel then s.closeCase
  else s

/-- The gap before `t`, once what it ends is closed. -/
def gapBefore (s : State) (t : Token) : Gap :=
  match s.last with
  | none => .touch
  | some prev =>
    if t.text == "\x7d" then
      if prev.text == "\x7b" then .touch else .line s.depth
    else if s.lineEnded then
      -- A closing brace ends a line, unless what follows belongs to the same statement.
      if prev.text == "\x7d" && [";", ",", ")", "]"].contains t.text then .touch
      else if prev.text == "\x7d" && (continuationWords.contains (Text.foldCase t.text) ||
          (Text.sameFolded t.text "while" && t.parent == "do_statement")) then .space
      else .line s.depth
    else if touches prev t then .touch
    else .space

/-- What the token opens or ends once it is placed. -/
def advance (s : State) (t : Token) : State :=
  let s := { s with lineEnded := false, last := some t }
  match t.text with
  | "(" | "[" => { s with brackets := s.brackets + 1 }
  | ")" | "]" => { s with brackets := s.brackets - 1 }
  | "\x7b" => { s with blocks := false :: s.blocks, depth := s.depth + 1, lineEnded := true }
  | "\x7d" => { s with lineEnded := true }
  | ";" => { s with lineEnded := s.brackets == 0 }
  | ":" => if t.inLabel then s.openCase else s
  | _ => s

/-- The gap before a token, and the state behind it. -/
def place (s : State) (t : Token) : Gap × State :=
  let closed := s.closeFor t
  (closed.gapBefore t, closed.advance t)

/-- The state behind several tokens. -/
def run (s : State) (ts : List Token) : State :=
  ts.foldl (fun s t => (s.place t).2) s

end State

/-! ## Printing -/

/-- The tokens with their gaps. -/
def placed (s : State) : List Token → List (Gap × Token)
  | [] => []
  | t :: ts => ((s.place t).1, t) :: placed (s.place t).2 ts

/-- The text of tokens with their gaps. -/
def render (ts : List (Gap × Token)) : String :=
  String.join (ts.map fun (g, t) => g.text ++ t.text)

/-- The tokens as text. -/
def printTokens (ts : List Token) : String :=
  render (placed {} ts)

/-- Statements as text. -/
def printStatements (statements : List Node) : String :=
  printTokens (statements.flatMap tokensOf)

end Introspect.Layout
