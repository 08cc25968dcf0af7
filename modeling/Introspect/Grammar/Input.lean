/-! # The text under the parser

The parser reads a text by position.  This module gives the text with the byte offset and
row of every position, and the recognisers for the shapes that tokens can have:

* `Dialect` — code inside a page of text, or bare code;
* `Input` — the characters of a text with their offsets;
* `Input.skipBlank`, `Input.comment?`, `Input.automaticSemicolon` — what may stand between tokens;
* `Input.nameEnd`, `Input.wordAt`, `Input.operatorAt`, `Input.number?` — tokens;
* `Input.textEnd`, `Input.tagEnd?` — the page around the code.

A recogniser takes the position where a token may start and returns the position behind it.
-/

namespace Introspect.Grammar

/-- How code is embedded: inside a page of text that opening tags interrupt, or on its own. -/
inductive Dialect where
  | template
  | bare
deriving DecidableEq, Repr

/-! ## Texts with offsets -/

/-- A text to parse.  `bytes` and `rows` have one entry per position, the end included. -/
structure Input where
  dialect : Dialect
  chars : Array Char
  bytes : Array Nat
  rows : Array Nat

namespace Input

/-- Appends the offsets of every position behind the given ones. -/
def offsets : List Char → Nat → Nat → Array Nat → Array Nat → Array Nat × Array Nat
  | [], byte, row, bytes, rows => (bytes.push byte, rows.push row)
  | c :: cs, byte, row, bytes, rows =>
    offsets cs (byte + c.utf8Size) (if c == '\n' then row + 1 else row)
      (bytes.push byte) (rows.push row)

def ofString (dialect : Dialect) (text : String) : Input :=
  let chars := text.toList
  let (bytes, rows) := offsets chars 0 0 #[] #[]
  ⟨dialect, chars.toArray, bytes, rows⟩

/-- The number of characters, which is also the position at the end. -/
def size (input : Input) : Nat := input.chars.size

/-- The character at a position; behind the end there is the null character. -/
def charAt (input : Input) (i : Nat) : Char :=
  input.chars.getD i '\x00'

def byteAt (input : Input) (i : Nat) : Nat := input.bytes.getD i 0

def rowAt (input : Input) (i : Nat) : Nat := input.rows.getD i 0

def atEnd (input : Input) (i : Nat) : Bool := input.size ≤ i

/-- The first position from `i` on whose character does not satisfy `p`. -/
def skipWhile (input : Input) (p : Char → Bool) (i : Nat) : Nat :=
  if h : i < input.chars.size then
    if p input.chars[i] then input.skipWhile p (i + 1) else i
  else i
termination_by input.chars.size - i

/-- Do the characters from `i` on spell `word`? -/
def spells (input : Input) (i : Nat) : List Char → Bool
  | [] => true
  | c :: cs => input.charAt i == c && !input.atEnd i && input.spells (i + 1) cs

/-- Do the characters from `i` on spell `word`, up to letter case? -/
def spellsFolded (input : Input) (i : Nat) : List Char → Bool
  | [] => true
  | c :: cs => (input.charAt i).toLower == c && !input.atEnd i && input.spellsFolded (i + 1) cs

/-- The text between two positions. -/
def between (input : Input) (start stop : Nat) : String :=
  String.ofList (input.chars.extract start stop).toList

end Input

/-! ## Character classes -/

/-- White space of the basic block. -/
def isSpace (c : Char) : Bool :=
  c == ' ' || (0x9 ≤ c.toNat && c.toNat ≤ 0xd)

/-- White space of the basic block that does not end a line. -/
def isInlineSpace (c : Char) : Bool :=
  isSpace c && c != '\n' && c != '\r'

def isLineEnd (c : Char) : Bool :=
  c == '\n' || c == '\r'

/-- Blanks outside the basic block that separate tokens. -/
def isWideBlank (c : Char) : Bool :=
  c.toNat == 0xa0 || c.toNat == 0x200b || c.toNat == 0x2060 || c.toNat == 0xfeff

/-- What separates tokens. -/
def isBlank (c : Char) : Bool :=
  isSpace c || isWideBlank c

/-- What a name may start with. -/
def isNameStart (c : Char) : Bool :=
  c == '_' || c.isAlpha || (0x80 ≤ c.toNat && c.toNat ≤ 0xffff && !isWideBlank c)

/-- What a name may go on with. -/
def isNameChar (c : Char) : Bool :=
  isNameStart c || c.isDigit

/-- What the tag of a here-document consists of, and what makes a dollar sign in a string
the start of a variable. -/
def isTagChar (c : Char) : Bool :=
  c == '_' || c.isAlphanum || 0x80 ≤ c.toNat

def isHexDigit (c : Char) : Bool :=
  c.isDigit || ('a' ≤ c && c ≤ 'f') || ('A' ≤ c && c ≤ 'F')

def isOctalDigit (c : Char) : Bool := '0' ≤ c && c ≤ '7'

def isBinaryDigit (c : Char) : Bool := c == '0' || c == '1'

namespace Input

/-! ## Between tokens -/

def skipBlank (input : Input) (i : Nat) : Nat := input.skipWhile isBlank i

/-- End of a comment that runs to the end of its line, from a position inside it.  A closing tag
ends it too, and a question mark before the line end takes the line end along. -/
def lineCommentEnd (input : Input) (i : Nat) : Nat :=
  if h : i < input.chars.size then
    let c := input.chars[i]
    if isLineEnd c then i
    else if c == '?' then
      let d := input.charAt (i + 1)
      if d == '\n' then i + 2
      else if d == '\r' && input.charAt (i + 2) == '\n' then i + 3
      else if d == '>' || d == '\r' || input.atEnd (i + 1) then i
      else input.lineCommentEnd (i + 2)
    else input.lineCommentEnd (i + 1)
  else i
termination_by input.chars.size - i

/-- End of a comment closed by a star and a slash, from a position inside it. -/
def blockCommentEnd? (input : Input) (i : Nat) : Option Nat :=
  if h : i < input.chars.size then
    if input.chars[i] == '*' && input.charAt (i + 1) == '/' then some (i + 2)
    else input.blockCommentEnd? (i + 1)
  else none
termination_by input.chars.size - i

/-- End of the comment that starts at `i`.  A hash sign before a bracket opens an
attribute instead. -/
def comment? (input : Input) (i : Nat) : Option Nat :=
  match input.charAt i with
  | '/' =>
    match input.charAt (i + 1) with
    | '/' => some (input.lineCommentEnd (i + 2))
    | '*' => input.blockCommentEnd? (i + 2)
    | _ => none
  | '#' =>
    let d := input.charAt (i + 1)
    if d == '[' then none
    else if d == '?' || isLineEnd d || input.atEnd (i + 1) then some (i + 1)
    else some (input.lineCommentEnd (i + 2))
  | _ => none

/-- Skips white space and comments to the end of the line; nothing if another slash follows.
`fuel` bounds the number of comments. -/
def skipSpaceAndLines (input : Input) : Nat → Nat → Option Nat
  | 0, _ => none
  | fuel + 1, i =>
    let j := input.skipWhile isSpace i
    if input.charAt j == '/' then
      if input.charAt (j + 1) == '/' then
        input.skipSpaceAndLines fuel (input.skipWhile (· != '\n') (j + 2))
      else none
    else some j

/-- Behind white space and line comments there is a closing tag, which ends a statement. -/
def automaticSemicolon (input : Input) (i : Nat) : Bool :=
  match input.skipSpaceAndLines (input.size + 1) i with
  | some j => input.charAt j == '?' && input.charAt (j + 1) == '>'
  | none => false

/-- Behind white space and line comments the text ends. -/
def endAhead (input : Input) (i : Nat) : Bool :=
  match input.skipSpaceAndLines (input.size + 1) i with
  | some j => input.atEnd j
  | none => false

/-! ## The page around the code -/

/-- End of the opening tag that starts at `i`. -/
def tagEnd? (input : Input) (i : Nat) : Option Nat :=
  if input.spells i ['<', '?'] then
    if input.spellsFolded (i + 2) ['p', 'h', 'p'] then some (i + 5)
    else if input.charAt (i + 2) == '=' then some (i + 3)
    else some (i + 2)
  else none

/-- Skips the white space before page text.  Wide blanks belong to the text. -/
def skipSpace (input : Input) (i : Nat) : Nat := input.skipWhile isSpace i

/-- Where a page starts: behind white space and a byte order mark. -/
def pageStart (input : Input) : Nat :=
  input.skipSpace (if (input.charAt 0).toNat == 0xfeff then 1 else 0)

/-- End of the page text that starts at `i`, up to an opening tag or the end.  `last` is the end
of what has been read, which white space alone does not extend. -/
def textEnd (input : Input) : Nat → Nat → Nat → Nat
  | 0, _, last => last
  | fuel + 1, i, last =>
    let j := input.skipSpace i
    if input.atEnd j then last
    else if input.charAt j == '<' then
      if input.charAt (j + 1) == '?' then last
      else if input.endAhead (j + 1) then j + 1
      else input.textEnd fuel (j + 1) (j + 1)
    else
      let k := input.skipWhile (· != '<') (j + 1)
      input.textEnd fuel k k

/-! ## Words, operators and numbers -/

/-- End of the name that starts at `i`, or `i` if there is none. -/
def nameEnd (input : Input) (i : Nat) : Nat :=
  if !input.atEnd i && isNameStart (input.charAt i) then input.skipWhile isNameChar (i + 1) else i

/-- The name at `i` in lower case; empty if there is none. -/
def wordAt (input : Input) (i : Nat) : String :=
  String.ofList ((input.chars.extract i (input.nameEnd i)).toList.map Char.toLower)

/-- The marks of three, two and one characters; the longest that fits is the token. -/
def operators : List (List (List Char)) := [
  ["<<<", "**=", "<<=", ">>=", "??=", "===", "!==", "<=>", "...", "?->"].map String.toList,
  ["==", "!=", "<>", "<=", ">=", "&&", "||", "??", "|>", "++", "--", "+=", "-=", "*=", "/=",
    ".=", "%=", "&=", "^=", "|=", "<<", ">>", "**", "->", "=>", "::", "#[", "?>"].map
      String.toList,
  ["(", ")", "[", "]", "\x7b", "\x7d", ";", ",", ".", "+", "-", "*", "/", "%", "&", "|", "^",
    "~", "!", "@", "=", "<", ">", "?", ":", "$", "\\"].map String.toList]

/-- The mark at `i`; empty if there is none. -/
def operatorAt (input : Input) (i : Nat) : String :=
  match operators.findSome? fun group => group.find? (input.spells i) with
  | some mark => String.ofList mark
  | none => ""

/-- Skips groups of digits, each behind an underscore. -/
def skipGroups (input : Input) (p : Char → Bool) (i : Nat) : Nat :=
  if _h : i < input.chars.size then
    if input.charAt i == '_' && p (input.charAt (i + 1)) then
      let j := input.skipWhile p (i + 1)
      if i < j then input.skipGroups p j else i
    else i
  else i
termination_by input.chars.size - i

/-- Skips digits, then groups of digits behind underscores. -/
def skipDigits (input : Input) (p : Char → Bool) (i : Nat) : Nat :=
  input.skipGroups p (input.skipWhile p i)

/-- End of the exponent that starts at `i`. -/
def exponent? (input : Input) (i : Nat) : Option Nat :=
  if input.charAt i == 'e' || input.charAt i == 'E' then
    let j := if input.charAt (i + 1) == '+' || input.charAt (i + 1) == '-' then i + 2 else i + 1
    if (input.charAt j).isDigit then some (input.skipDigits Char.isDigit j) else none
  else none

/-- End of the number with a point or an exponent that starts at `i`. -/
def float? (input : Input) (i : Nat) : Option Nat :=
  let whole := input.skipDigits Char.isDigit i
  if input.charAt whole == '.' then
    let point := input.skipDigits Char.isDigit (whole + 1)
    some ((input.exponent? point).getD point)
  else input.exponent? whole

/-- End of the whole number that starts at `i`. -/
def integer? (input : Input) (i : Nat) : Option Nat :=
  let c := input.charAt i
  let d := input.charAt (i + 1)
  if c == '0' then
    if (d == 'x' || d == 'X') && isHexDigit (input.charAt (i + 2)) then
      some (input.skipDigits isHexDigit (i + 2))
    else if (d == 'b' || d == 'B') && isBinaryDigit (input.charAt (i + 2)) then
      some (input.skipDigits isBinaryDigit (i + 2))
    else
      some (input.skipDigits isOctalDigit (if d == 'o' || d == 'O' then i + 2 else i + 1))
  else if c.isDigit then some (input.skipDigits Char.isDigit i)
  else none

/-- Kind and end of the number that starts at `i`; the longer reading wins. -/
def number? (input : Input) (i : Nat) : Option (String × Nat) :=
  match input.float? i, input.integer? i with
  | some f, some n => some (if n < f then ("float", f) else ("integer", n))
  | some f, none => some ("float", f)
  | none, some n => some ("integer", n)
  | none, none => none

end Input

end Introspect.Grammar
