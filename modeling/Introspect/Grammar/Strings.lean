import Introspect.Grammar.Names

/-! # Strings

* `Parser.quotedString` — a string in single quotes;
* `Parser.encapsedString`, `Parser.shellCommand` — strings that may hold variables and expressions;
* `Parser.hereDocument` — multi-line strings between two equal tags, interpolated or not;
* `Parser.numberLiteral` — numbers.

A string with variables is a sequence of parts.  `contentEnd?` finds how far plain text reaches:
up to the closing quote, an escape, a variable, or an expression in braces.
-/

namespace Introspect.Grammar

open Introspect.Syntax

/-! ## Plain text inside strings -/

/-- What surrounds the text of a string with variables. -/
inductive Quoting where
  | double
  | backtick
  | document (tag : List Char)
deriving DecidableEq, Repr

namespace Quoting

def isDocument : Quoting → Bool
  | document _ => true
  | _ => false

end Quoting

namespace Input

/-- Does the character at `i` make an escape together with a backslash before it? -/
def escapes (input : Input) (i : Nat) : Bool :=
  match input.charAt i with
  | 'n' | 'r' | 't' | 'v' | 'e' | 'f' | '\\' | '$' | '"' | 'u' => true
  | 'x' => isHexDigit (input.charAt (i + 1))
  | c => isOctalDigit c

/-- Skips the longest part of `tag` that stands at `i`; the answer is also whether it was all
of it. -/
def skipTag (input : Input) : List Char → Nat → Nat × Bool
  | [], i => (i, true)
  | c :: cs, i =>
    if input.charAt i == c && !input.atEnd i then input.skipTag cs (i + 1) else (i, false)

/-- Does the character behind a tag let the tag end a document? -/
def endsDocument (c : Char) : Bool :=
  c == ';' || c == ',' || c == ')' || isLineEnd c

/-- Looks for the closing tag from `i` on, behind blanks that satisfy `blank`.  The answer is
nothing at a closing tag, else the position up to which the characters have been taken as text. -/
def pastTag? (input : Input) (blank : Char → Bool) (tag : List Char) (i : Nat) : Option Nat :=
  let start := input.skipWhile blank i
  let (stop, whole) := input.skipTag tag start
  let c := input.charAt stop
  if whole && !tag.isEmpty && !input.atEnd stop && (isSpace c || endsDocument c) then
    let stop := input.skipWhile isInlineSpace stop
    if !input.atEnd stop && endsDocument (input.charAt stop) then none else some stop
  else some stop

/-- Scans plain text from `i` on.  `nonempty` tells whether there is text before `i` already, and
`afterVariable` whether a variable ends at `i`, so that a bracket or an arrow belongs to it. -/
def scanContent (input : Input) (q : Quoting) : Nat → Nat → Bool → Bool → Option Nat
  | 0, _, _, _ => none
  | fuel + 1, i, nonempty, afterVariable =>
    let stop := if nonempty then some i else none
    let go := fun j => input.scanContent q fuel j true false
    let d := input.charAt (i + 1)
    if input.atEnd i then none
    else match input.charAt i with
      | '"' => if q == .double then stop else go (i + 1)
      | '`' => if q == .backtick then stop else go (i + 1)
      | '\n' | '\r' => if q.isDocument then stop else go (i + 1)
      | '\\' =>
        if d == '\x7b' then go (i + 2)
        else if q == .backtick && d == '`' then stop
        else if q.isDocument && d == '\\' then go (i + 2)
        else if input.escapes (i + 1) then stop
        else go (if d == 'x' then i + 2 else i + 1)
      | '$' => if (isTagChar d && !d.isDigit) || d == '\x7b' then stop else go (i + 1)
      | '-' =>
        if afterVariable && d == '>' then
          if isTagChar (input.charAt (i + 2)) then stop else go (i + 2)
        else go (i + 1)
      | '[' => if afterVariable then stop else go (i + 1)
      | '\x7b' => if d == '$' then stop else go (i + 1)
      | _ => go (i + 1)

/-- End of the plain text that starts at `i`; nothing if there is none, or if it never ends. -/
def contentEnd? (input : Input) (q : Quoting) (afterVariable : Bool) (i : Nat) : Option Nat :=
  let start := match q with
    | .document tag => input.pastTag? isInlineSpace tag i
    | _ => some i
  match start with
  | none => none
  | some j => input.scanContent q (input.size + 2 - j) j (i < j) afterVariable

/-- End of the escape whose backslash stands at `i`. -/
def escapeEnd (input : Input) (i : Nat) : Nat :=
  let c := input.charAt (i + 1)
  if c == 'x' then Nat.min (i + 4) (input.skipWhile isHexDigit (i + 2))
  else if isOctalDigit c then Nat.min (i + 4) (input.skipWhile isOctalDigit (i + 1))
  else if c == 'u' && input.charAt (i + 2) == '\x7b' then
    let j := input.skipWhile isHexDigit (i + 3)
    if i + 3 < j && input.charAt j == '\x7d' then j + 1 else i + 2
  else i + 2

/-- The word at `i` that may be the tag of a document. -/
def tagWord (input : Input) (i : Nat) : List Char :=
  (input.chars.extract i (input.skipWhile isTagChar i)).toList

/-- End of the string in single quotes whose first character stands at `i`. -/
def quotedEnd? (input : Input) (i : Nat) : Option Nat :=
  if h : i < input.chars.size then
    let c := input.chars[i]
    if c == '\'' then some i
    else if c == '\\' then input.quotedEnd? (i + 2)
    else input.quotedEnd? (i + 1)
  else none
termination_by input.chars.size - i

/-- End of the line of a document without variables that starts at `i`; nothing at the closing
tag. -/
def nowdocLine? (input : Input) (tag : List Char) (i : Nat) : Option Nat :=
  match input.pastTag? isSpace tag i with
  | none => none
  | some j =>
    let k := input.skipWhile (fun c => !isLineEnd c) j
    if input.atEnd k || k == i then none else some k

/-- Words that may follow a string as operators. -/
def operatorWords : List String := ["and", "or", "xor", "instanceof", "as"]

/-- Position of the closing tag of a document, searched behind any white space from `i` on, if the
code can go on behind it. -/
def closingTag? (input : Input) (tag : List Char) (i : Nat) : Option Nat :=
  let j := input.skipWhile isSpace i
  if input.tagWord j == tag then
    let k := input.skipWhile isInlineSpace (j + tag.length)
    let c := input.charAt k
    let startsOperand := c == '$' || c == '"' || c == '\'' ||
      (isNameChar c && !operatorWords.contains (input.wordAt k))
    if startsOperand then none else some j
  else none

end Input

namespace Parser

/-! ## Parts with variables -/

/-- Adds the token from the current position to `stop`, without looking past blanks. -/
def token (kind : String) (named : Bool) (stop : Nat) : Parser Unit :=
  child (takeTo kind named stop)

def here : Parser Nat := do
  return (← get).pos

/-- Adds the name at the current position. -/
def nameHere : Parser Unit := do
  let i ← here
  let stop := (← read).input.nameEnd i
  guard (i < stop)
  token "name" true stop

/-- The index in brackets behind a variable: a whole number, a name or a variable. -/
def simpleIndex : Parser Unit := do
  settle
  let input := (← read).input
  let i ← here
  if ← nextIs "$" then child variableName
  else if ← nextIs "-" then
    child (build "unary_op_expression" do
      mark "-"
      settle
      match input.integer? (← here) with
      | some stop => token "integer" true stop
      | none => failure)
  else match input.integer? i with
    | some stop => token "integer" true stop
    | none => child (name [])

/-- A variable in a string, with the bracket or the arrow that follows it.  The answer is also
whether neither follows. -/
def embeddedVariable (q : Quoting) : Parser (ParseTree × Bool) := do
  let input := (← read).input
  let base ← build "variable_name" do
    token "$" false ((← here) + 1)
    nameHere
  let i ← here
  if (input.contentEnd? q true i).isSome then return (base, true)
  else if input.charAt i == '[' then
    let t ← extend base (do
      bracketed "[" "]" simpleIndex
      return "subscript_expression")
    return (t, false)
  else if input.spells i ['-', '>'] then
    let t ← extend (base.withField "object") (do
      mark "->"
      field "name" (name [])
      return "member_access_expression")
    return (t, false)
  else return (base, true)

/-- Adds one part of a string at the current position that is not plain text.  The answer is whether
a variable ends there. -/
def embeddedPart (rules : Rules) (q : Quoting) : Parser Bool := do
  let input := (← read).input
  let i ← here
  match input.charAt i with
  | '\\' =>
    let stop := input.escapeEnd i
    let plain := input.charAt (i + 1) == 'u' && stop == i + 2
    token (if plain then "string_content" else "escape_sequence") true stop
    return false
  | '$' =>
    if input.charAt (i + 1) == '\x7b' then
      child (build "dynamic_variable_name" do
        token "$" false (i + 1)
        bracketed "\x7b" "\x7d" (child (rules (.expression 0))))
      return false
    else
      let (t, bare) ← embeddedVariable q
      push t
      return bare
  | '\x7b' =>
    bracketed "\x7b" "\x7d" (child (rules (.expression 0)))
    return false
  | _ => failure

/-- Adds plain text or another part of a string. -/
def stringPart (rules : Rules) (q : Quoting) (afterVariable : Bool) : Parser Bool := do
  match (← read).input.contentEnd? q afterVariable (← here) with
  | some stop =>
    token "string_content" true stop
    return false
  | none => embeddedPart rules q

/-- Adds the parts of a string up to its closing character, and that character. -/
def stringParts (rules : Rules) (q : Quoting) (closing : Char) : Parser Unit := do
  let _ ← iterate (fun afterVariable => do
    let input := (← read).input
    let i ← here
    if (input.contentEnd? q afterVariable i).isNone && input.charAt i == closing then return none
    else return some (← stringPart rules q afterVariable)) false
  token (String.singleton closing) false ((← here) + 1)

/-! ## Quoted strings -/

/-- Width of an opening quote, with the letter that may stand before it. -/
def quoteWidth (input : Input) (i : Nat) (quote : Char) : Nat :=
  if input.charAt i == quote then 1
  else if (input.charAt i == 'b' || input.charAt i == 'B') && input.charAt (i + 1) == quote then 2
  else 0

/-- A string in single quotes. -/
def quotedString : Parser ParseTree := do
  settle
  let input := (← read).input
  let i ← here
  let width := quoteWidth input i '\''
  guard (0 < width)
  match input.quotedEnd? (i + width) with
  | none => failure
  | some stop => build "string" do
      token "'" false (i + width)
      if i + width < stop then token "string_content" true stop
      token "'" false (stop + 1)

/-- A string in double quotes. -/
def encapsedString (rules : Rules) : Parser ParseTree := do
  settle
  let i ← here
  let width := quoteWidth (← read).input i '"'
  guard (0 < width)
  build "encapsed_string" do
    token "\"" false (i + width)
    stringParts rules .double '"'

/-- A command in backticks. -/
def shellCommand (rules : Rules) : Parser ParseTree := do
  settle
  build "shell_command_expression" do
    token "`" false ((← here) + 1)
    stringParts rules .backtick '`'

/-! ## Documents -/

/-- Adds the closing tag at position `i`. -/
def documentEnd (tag : List Char) (i : Nat) : Parser Unit := do
  modify fun s => { s with pos := i }
  token "heredoc_end" true (i + tag.length)

/-- Moves over a run of line ends. -/
def lineEnds : Parser Unit := do
  let input := (← read).input
  let i ← here
  let stop := input.skipWhile isLineEnd i
  guard (i < stop)
  modify fun s => { s with pos := stop }

/-- Moves over blanks and comments to the line end behind the opening tag. -/
def openingLineEnd : Parser Unit := do
  let input := (← read).input
  let i ← here
  modify fun s => { s with pos := input.skipWhile isInlineSpace i }
  if let some stop := input.comment? (← here) then
    modify fun s => { s with pos := stop }
  lineEnds

/-- Adds the body of a document with variables and its closing tag. -/
def heredocBody (rules : Rules) (tag : List Char) : Parser Unit := do
  let stop ← iterate (fun (state : Bool × Option Nat) => do
    let input := (← read).input
    let i ← here
    let (afterVariable, found) := state
    if found.isSome then return none
    else if (input.contentEnd? (.document tag) afterVariable i).isNone && isLineEnd (input.charAt i)
    then
      lineEnds
      return some (false, input.closingTag? tag (← here))
    else return some (← stringPart rules (.document tag) afterVariable, none)) (false, none)
  match stop.2 with
  | some i => documentEnd tag i
  | none => failure

/-- Adds the body of a document without variables and its closing tag. -/
def nowdocBody (tag : List Char) : Parser Unit := do
  let line : Parser (Option Unit) := do
    match (← read).input.nowdocLine? tag (← here) with
    | some stop =>
      token "nowdoc_string" true stop
      return some ()
    | none => return none
  match ← line with
  | none => failure
  | some _ =>
    iterate (fun _ => line) ()
    lineEnds
    let input := (← read).input
    let i := input.skipWhile isSpace (← here)
    guard (input.tagWord i == tag)
    documentEnd tag i

/-- A multi-line string.  Its tag may be quoted; in single quotes it has no variables. -/
def hereDocument (rules : Rules) : Parser ParseTree := do
  settle
  let input := (← read).input
  let start ← here
  let quote ← tokenFrom (start + 3)
  let c := input.charAt quote
  let quoted := c == '"' || c == '\''
  let word := if quoted then input.skipWhile isSpace (quote + 1) else quote
  let tag := input.tagWord word
  guard !tag.isEmpty
  let literal := c == '\''
  let kind := if literal then "nowdoc" else "heredoc"
  build kind do
    token "<<<" false (start + 3)
    if quoted then
      modify fun s => { s with pos := quote }
      token (String.singleton c) false (quote + 1)
    modify fun s => { s with pos := word }
    field "identifier" (takeTo "heredoc_start" true (word + tag.length))
    if literal || (quoted && input.charAt (← here) == c) then
      guard (input.charAt (← here) == c)
      token (String.singleton c) false ((← here) + 1)
    let i := input.skipWhile isSpace (← here)
    if input.tagWord i == tag then documentEnd tag i
    else
      openingLineEnd
      if literal then nowdocBody tag else heredocBody rules tag

/-! ## Numbers -/

/-- A number at the current position, of the kind and up to the end that are given. -/
def numberLiteral (kind : String) (stop : Nat) : Parser ParseTree :=
  takeTo kind true stop

end Parser

end Introspect.Grammar
