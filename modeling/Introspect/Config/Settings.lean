import Introspect.Text.Basic

/-! # Settings files

The syntax of settings: lines that assign a value to a key, and headings that name the table which
the following lines belong to.

* `Value` — texts, whole numbers, truth values, arrays and tables;
* `Line`, `Settings.lines?` — the lines of a settings file;
* `Item`, `Settings.readItems?` — the keys of the file with what they hold.

No setting holds a table inside a table, a date or a number with a point, so a file with
one of those has no meaning, and reading it fails like reading a malformed one.
-/

namespace Introspect.Settings

/-- A value behind an equals sign. -/
inductive Value where
  | text (s : String)
  | integer (n : Int)
  | boolean (b : Bool)
  | array (items : List Value)
  | table (entries : List (String × Value))

/-- A reader takes characters from the front and leaves the rest. -/
abbrev Reader (α : Type) := List Char → Option (α × List Char)

/-! ## Blanks and comments -/

def isInlineBlank (c : Char) : Bool := c == ' ' || c == '\t'

def skipInline (cs : List Char) : List Char := cs.dropWhile isInlineBlank

/-- What may stand in a comment or in a text: everything that is no control character, and the
tab. -/
def isVisible (c : Char) : Bool :=
  c == '\t' || (0x20 ≤ c.toNat && c.toNat != 0x7f)

/-- Skips a comment, if there is one. -/
def skipComment : List Char → List Char
  | '#' :: cs => cs.dropWhile isVisible
  | cs => cs

/-- Skips the end of a line. -/
def newLine? : List Char → Option (List Char)
  | '\n' :: cs => some cs
  | '\r' :: '\n' :: cs => some cs
  | _ => none

/-- Skips blanks and a comment up to the end of the line or of the file. -/
def lineEnd? (cs : List Char) : Option (List Char) :=
  match skipComment (skipInline cs) with
  | [] => some []
  | rest => newLine? rest

/-- Skips blanks, comments and line ends between the items of an array. -/
def skipGaps : Nat → List Char → List Char
  | 0, cs => cs
  | fuel + 1, cs =>
    match newLine? (skipComment (skipInline cs)) with
    | some rest => skipGaps fuel rest
    | none => skipInline cs

/-! ## Texts -/

def hexDigit? (c : Char) : Option Nat :=
  if c.isDigit then some (c.toNat - '0'.toNat)
  else if 'a' ≤ c && c ≤ 'f' then some (c.toNat - 'a'.toNat + 10)
  else if 'A' ≤ c && c ≤ 'F' then some (c.toNat - 'A'.toNat + 10)
  else none

/-- The character with the number that the digits spell. -/
def numbered? (digits : List Char) : Option Char := do
  let values ← digits.mapM hexDigit?
  let n := values.foldl (fun n d => 16 * n + d) 0
  if n.isValidChar then some (Char.ofNat n) else none

/-- The character of an escape, from behind its backslash on. -/
def escape? : Reader Char
  | 'b' :: cs => some ('\x08', cs)
  | 't' :: cs => some ('\t', cs)
  | 'n' :: cs => some ('\n', cs)
  | 'f' :: cs => some ('\x0c', cs)
  | 'r' :: cs => some ('\r', cs)
  | '"' :: cs => some ('"', cs)
  | '\\' :: cs => some ('\\', cs)
  | 'u' :: cs => (numbered? (cs.take 4)).bind fun c =>
      if (cs.take 4).length == 4 then some (c, cs.drop 4) else none
  | 'U' :: cs => (numbered? (cs.take 8)).bind fun c =>
      if (cs.take 8).length == 8 then some (c, cs.drop 8) else none
  | _ => none

/-- The rest of a text in double quotes; `seen` holds its characters so far, last first. -/
def basicText? : Nat → List Char → Reader String
  | 0, _, _ => none
  | fuel + 1, seen, cs =>
    match cs with
    | '"' :: rest => some (String.ofList seen.reverse, rest)
    | '\\' :: rest => do
      let (c, rest) ← escape? rest
      basicText? fuel (c :: seen) rest
    | c :: rest => if isVisible c then basicText? fuel (c :: seen) rest else none
    | [] => none

/-- Skips a line break behind a backslash, with the blanks and line breaks around it. -/
def continuation? (cs : List Char) : Option (List Char) := do
  let rest ← newLine? (skipInline cs)
  return rest.dropWhile fun c => isInlineBlank c || c == '\n' || c == '\r'

/-- The rest of a text of several lines in three double quotes.  One or two quotes may stand before
the closing ones. -/
def basicLines? : Nat → List Char → Reader String
  | 0, _, _ => none
  | fuel + 1, seen, cs =>
    let stop := fun (extra : List Char) (rest : List Char) =>
      some (String.ofList (extra ++ seen).reverse, rest)
    match cs with
    | '"' :: '"' :: '"' :: '"' :: '"' :: rest => stop ['"', '"'] rest
    | '"' :: '"' :: '"' :: '"' :: rest => stop ['"'] rest
    | '"' :: '"' :: '"' :: rest => stop [] rest
    | '\\' :: rest =>
      match continuation? rest with
      | some rest => basicLines? fuel seen rest
      | none => do
        let (c, rest) ← escape? rest
        basicLines? fuel (c :: seen) rest
    | '\r' :: '\n' :: rest => basicLines? fuel ('\n' :: seen) rest
    | c :: rest => if isVisible c || c == '\n' then basicLines? fuel (c :: seen) rest else none
    | [] => none

/-- The rest of a text in single quotes, which has no escapes. -/
def literalText? (seen : List Char) : Reader String
  | '\'' :: rest => some (String.ofList seen.reverse, rest)
  | c :: rest => if isVisible c then literalText? (c :: seen) rest else none
  | [] => none

/-- The rest of a text of several lines in three single quotes. -/
def literalLines? (seen : List Char) : Reader String
  | '\'' :: '\'' :: '\'' :: '\'' :: '\'' :: rest =>
    some (String.ofList ('\'' :: '\'' :: seen).reverse, rest)
  | '\'' :: '\'' :: '\'' :: '\'' :: rest => some (String.ofList ('\'' :: seen).reverse, rest)
  | '\'' :: '\'' :: '\'' :: rest => some (String.ofList seen.reverse, rest)
  | '\r' :: '\n' :: rest => literalLines? ('\n' :: seen) rest
  | c :: rest =>
    if isVisible c || c == '\n' then literalLines? (c :: seen) rest else none
  | [] => none

/-- Drops one line break right behind the opening quotes. -/
def dropFirstBreak (cs : List Char) : List Char := (newLine? cs).getD cs

/-- A text of one line. -/
def shortText? : Reader String
  | '"' :: cs => basicText? (cs.length + 1) [] cs
  | '\'' :: cs => literalText? [] cs
  | _ => none

/-- A text of one or of several lines. -/
def text? : Reader String
  | '"' :: '"' :: '"' :: cs => basicLines? (cs.length + 1) [] (dropFirstBreak cs)
  | '\'' :: '\'' :: '\'' :: cs => literalLines? [] (dropFirstBreak cs)
  | cs => shortText? cs

/-! ## Numbers -/

/-- The digits of a number: an underscore may stand between two of them. -/
def plainDigits? (p : Char → Bool) : List Char → Option (List Char)
  | [] => none
  | [c] => if p c then some [c] else none
  | c :: '_' :: rest => if p c then (plainDigits? p rest).map (c :: ·) else none
  | c :: rest => if p c then (plainDigits? p rest).map (c :: ·) else none

/-- The number that digits spell in a base. -/
def numberIn? (base : Nat) (digits : List Char) : Option Nat := do
  let plain ← plainDigits? (fun c => (hexDigit? c).any (· < base)) digits
  let values ← plain.mapM hexDigit?
  return values.foldl (fun n d => base * n + d) 0

/-- A number in base ten, without zeros in front. -/
def decimal? (digits : List Char) : Option Nat :=
  match digits with
  | '0' :: _ :: _ => none
  | _ => numberIn? 10 digits

/-- A whole number in 64 bits, of base ten with a sign or not, or of another base. -/
def integer? (cs : List Char) : Option Int := do
  let n : Int ← match cs with
    | '0' :: 'x' :: rest => (numberIn? 16 rest).map Int.ofNat
    | '0' :: 'o' :: rest => (numberIn? 8 rest).map Int.ofNat
    | '0' :: 'b' :: rest => (numberIn? 2 rest).map Int.ofNat
    | '+' :: rest => (decimal? rest).map Int.ofNat
    | '-' :: rest => (decimal? rest).map fun n => -Int.ofNat n
    | _ => (decimal? cs).map Int.ofNat
  if -9223372036854775808 ≤ n && n ≤ 9223372036854775807 then some n else none

/-! ## Keys -/

def isBareKeyChar (c : Char) : Bool := c.isAlphanum || c == '_' || c == '-'

/-- A key, quoted or not. -/
def key? (cs : List Char) : Option (String × List Char) :=
  match cs.takeWhile isBareKeyChar with
  | [] => shortText? cs
  | name => some (String.ofList name, cs.dropWhile isBareKeyChar)

/-- Keys with points between them. -/
def keys? : Nat → Reader (List String)
  | 0, _ => none
  | fuel + 1, cs => do
    let (k, rest) ← key? (skipInline cs)
    match skipInline rest with
    | '.' :: rest => do
      let (ks, rest) ← keys? fuel rest
      return (k :: ks, rest)
    | rest => return ([k], rest)

/-! ## Values -/

/-- A truth value or a number. -/
def scalar? (cs : List Char) : Option (Value × List Char) :=
  let isPart := fun (c : Char) => c.isAlphanum || ['_', '+', '-', '.', ':'].contains c
  let rest := cs.dropWhile isPart
  match String.ofList (cs.takeWhile isPart) with
  | "true" => some (.boolean true, rest)
  | "false" => some (.boolean false, rest)
  | word => (integer? word.toList).map fun n => (.integer n, rest)

mutual

/-- A value; `fuel` bounds how many readers stand inside each other. -/
def value? : Nat → Reader Value
  | 0, _ => none
  | fuel + 1, cs =>
    match cs with
    | '[' :: rest => do
      let (items, rest) ← items? fuel (skipGaps rest.length rest)
      return (.array items, rest)
    | '\x7b' :: rest =>
      match skipInline rest with
      | '\x7d' :: rest => some (.table [], rest)
      | rest => do
        let (entries, rest) ← entries? fuel [] rest
        return (.table entries, rest)
    | '"' :: _ | '\'' :: _ => (text? cs).map fun r => (.text r.1, r.2)
    | _ => scalar? cs

/-- The items of an array up to its closing bracket.  A comma may follow the last one. -/
def items? : Nat → Reader (List Value)
  | 0, _ => none
  | fuel + 1, cs =>
    match cs with
    | ']' :: rest => some ([], rest)
    | _ => do
      let (v, rest) ← value? fuel cs
      match skipGaps rest.length rest with
      | ',' :: rest => do
        let (vs, rest) ← items? fuel (skipGaps rest.length rest)
        return (v :: vs, rest)
      | ']' :: rest => return ([v], rest)
      | _ => none

/-- The entries of a table on one line, up to its closing brace.  No key may occur twice. -/
def entries? : Nat → List String → Reader (List (String × Value))
  | 0, _, _ => none
  | fuel + 1, used, cs => do
    let (k, rest) ← key? (skipInline cs)
    match skipInline rest with
    | '=' :: rest => do
      if used.contains k then none
      let (v, rest) ← value? fuel (skipInline rest)
      match skipInline rest with
      | ',' :: rest => do
        let (es, rest) ← entries? fuel (k :: used) rest
        return ((k, v) :: es, rest)
      | '\x7d' :: rest => return ([(k, v)], rest)
      | _ => none
    | _ => none

end

/-! ## Lines -/

/-- A line that says something. -/
inductive Line where
  | heading (name : String)
  | assign (keys : List String) (value : Value)

/-- The line at the front, if it says something. -/
def line? (cs : List Char) : Option (Option Line × List Char) :=
  match skipInline cs with
  | [] => some (none, [])
  | '#' :: rest => (lineEnd? ('#' :: rest)).map fun rest => (none, rest)
  | '\n' :: rest => some (none, rest)
  | '\r' :: '\n' :: rest => some (none, rest)
  | '[' :: rest => do
    let (k, rest) ← key? (skipInline rest)
    match skipInline rest with
    | ']' :: rest => return (some (.heading k), ← lineEnd? rest)
    | _ => none
  | cs => do
    let (ks, rest) ← keys? (cs.length + 1) cs
    match rest with
    | '=' :: rest => do
      let rest := skipInline rest
      let (v, rest) ← value? (rest.length + 1) rest
      return (some (.assign ks v), ← lineEnd? rest)
    | _ => none

/-- All lines that say something. -/
def linesFrom? : Nat → List Char → Option (List Line)
  | 0, _ => none
  | _ + 1, [] => some []
  | fuel + 1, cs => do
    let (line, rest) ← line? cs
    let more ← linesFrom? fuel rest
    return line.toList ++ more

/-- The lines of a file, which may start with a mark of its byte order. -/
def lines? (text : String) : Option (List Line) :=
  let cs := match text.toList with
    | '\ufeff' :: cs => cs
    | cs => cs
  linesFrom? (cs.length + 1) cs

/-! ## Keys with what they hold -/

/-- What a key holds: a value, or a table whose entries stand on lines of their own.  A table that
a heading opened takes no entries from elsewhere. -/
inductive Item where
  | value (v : Value)
  | table (headed : Bool) (entries : List (String × Value))

/-- The items so far, and the heading that is in force. -/
structure Progress where
  items : List (String × Item) := []
  heading : Option String := none

namespace Progress

def find? (p : Progress) (k : String) : Option Item :=
  (p.items.find? fun e => e.1 == k).map (·.2)

def put (p : Progress) (k : String) (i : Item) : Progress :=
  { p with items := (k, i) :: p.items.filter fun e => e.1 != k }

/-- Adds an entry to a table in which its key is new. -/
def addEntry (p : Progress) (k : String) (headed : Bool) (entries : List (String × Value))
    (e : String × Value) : Option Progress :=
  if entries.any fun f => f.1 == e.1 then none else some (p.put k (.table headed (e :: entries)))

/-- Takes in a line.  Nothing may be said twice. -/
def take? (p : Progress) : Line → Option Progress
  | .heading k =>
    if (p.find? k).isSome then none
    else some { (p.put k (.table true [])) with heading := some k }
  | .assign ks v =>
    match p.heading, ks with
    | none, [k] => if (p.find? k).isSome then none else some (p.put k (.value v))
    | none, [k, e] =>
      match p.find? k with
      | none => some (p.put k (.table false [(e, v)]))
      | some (.table false entries) => p.addEntry k false entries (e, v)
      | some _ => none
    | some k, [e] =>
      match p.find? k with
      | some (.table headed entries) => p.addEntry k headed entries (e, v)
      | _ => none
    | _, _ => none

end Progress

/-- The keys of a settings file with what they hold. -/
def readItems? (text : String) : Option (List (String × Item)) := do
  let progress ← (← lines? text).foldlM (fun p l => p.take? l) ({} : Progress)
  return progress.items

end Introspect.Settings
