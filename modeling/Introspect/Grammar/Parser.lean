import Introspect.Syntax.ParseTree
import Introspect.Grammar.Input

/-! # Parsers that build trees

A parser reads from a position and collects the children of the node under construction:

* `Parser` — a reader of the text with the position and the collected children as state,
  which may fail and then leaves no trace;
* `Parser.build`, `Parser.buildWith`, `Parser.extend` — a node around what a parser collects;
* `Parser.mark`, `Parser.keyword`, `Parser.name` — single tokens;
* `Parser.semicolon` — the end of a statement, written or implied by a closing tag;
* `Parser.repeatWhile`, `Parser.iterate`, `Parser.listUntil` — repetition.

Comments, and in a page the text between a closing and an opening tag, may stand between any
two tokens.  They become children of the innermost node that has a token before and a token
after them: a node collects them just before its next child, and never before its first.
-/

namespace Introspect.Grammar

open Introspect.Syntax

/-- What a parser reads: the text, whether a closing tag may end the construct at hand, and
whether a condition further out may go on with a branch behind a colon. -/
structure Context where
  input : Input
  auto : Bool
  colonBranch : Bool := false

/-- Position behind the last token, and the children of the node under construction, last
first. -/
structure State where
  pos : Nat
  done : List ParseTree

abbrev Parser := ReaderT Context (StateT State Option)

namespace Parser

/-! ## Leaves and what stands between tokens -/

def extentOf (input : Input) (start stop : Nat) : Extent :=
  ⟨input.byteAt start, input.byteAt stop, input.rowAt start, input.rowAt stop⟩

/-- A token of the given kind between two positions. -/
def leaf (input : Input) (kind : String) (named : Bool) (start stop : Nat) : ParseTree :=
  .node kind named none (extentOf input start stop) []

/-- The stretch of page text from the closing tag at `i` to the next opening tag or the end. -/
def pageBreak (input : Input) (i : Nat) : ParseTree × Nat :=
  let close := leaf input "php_end_tag" true i (i + 2)
  let whole := fun (children : List ParseTree) (stop : Nat) =>
    (ParseTree.node "text_interpolation" true none (extentOf input i stop) children, stop)
  if input.endAhead (i + 2) then whole [close] (i + 2)
  else
    let j := input.skipSpace (i + 2)
    match input.tagEnd? j with
    | some stop => whole [close, leaf input "php_tag" true j stop] stop
    | none =>
      let k := input.textEnd (input.size + 1) j j
      let text := leaf input "text" true j k
      -- The blanks before an opening tag belong neither to the text nor to the tag.
      let tag := input.skipSpace k
      match input.tagEnd? tag with
      | some stop => whole [close, text, leaf input "php_tag" true tag stop] stop
      | none => whole [close, text] k

/-- What lies before the next token: comments and page text, the position of the token, and
whether the token is a semicolon that a closing tag implies. -/
structure Ahead where
  extras : List ParseTree
  pos : Nat
  implied : Bool

/-- Collects what lies before the next token, last first.  Every round consumes a character,
which `fuel` counts. -/
def aheadFrom (ctx : Context) : Nat → Nat → List ParseTree → Ahead
  | 0, i, extras => ⟨extras, i, false⟩
  | fuel + 1, i, extras =>
    let input := ctx.input
    -- An implied semicolon stands before the blanks, so it is looked for first.
    if ctx.auto && input.automaticSemicolon i then ⟨extras, i, true⟩
    else
      let j := input.skipBlank i
      match input.comment? j with
      | some k => aheadFrom ctx fuel k (leaf input "comment" true j k :: extras)
      | none =>
        if input.dialect == .template && input.spells j ['?', '>'] then
          let (page, k) := pageBreak input j
          aheadFrom ctx fuel k (page :: extras)
        else ⟨extras, j, false⟩

def ahead : Parser Ahead := do
  let ctx ← read
  let s ← get
  return aheadFrom ctx (ctx.input.size + 2 - s.pos) s.pos []

/-- Position of the next token.  Before an implied semicolon it is the end of the text, where
no other token starts. -/
def next : Parser Nat := do
  let a ← ahead
  if a.implied then return (← read).input.size else return a.pos

/-- The word that comes next, in lower case; empty if the next token is none. -/
def nextWord : Parser String := do
  return (← read).input.wordAt (← next)

/-- The mark that comes next; empty if the next token is none. -/
def nextMark : Parser String := do
  return (← read).input.operatorAt (← next)

/-- Does the mark `m` come next? -/
def nextIs (m : String) : Parser Bool := do
  return (← nextMark) == m

/-- Does the word `w` come next? -/
def nextWordIs (w : String) : Parser Bool := do
  return (← nextWord) == w

/-- Moves to the next token and takes along what lies before it. -/
def gather : Parser Unit := do
  let a ← ahead
  guard !a.implied
  modify fun s => ⟨a.pos, a.extras ++ s.done⟩

/-- Moves to the next token, unless the node under construction has no child yet: then the
position is at its first token already. -/
def settle : Parser Unit := do
  if (← get).done.isEmpty then return () else gather

/-! ## Nodes -/

def push (t : ParseTree) : Parser Unit :=
  modify fun s => { s with done := t :: s.done }

/-- Adds the tree that `p` reads as a child. -/
def child (p : Parser ParseTree) : Parser Unit := do
  push (← p)

/-- Adds the tree that `p` reads as a child in the field `name`. -/
def field (name : String) (p : Parser ParseTree) : Parser Unit := do
  push ((← p).withField name)

/-- Runs `p` with the automatic semicolon allowed or not. -/
def withAuto (auto : Bool) (p : Parser α) : Parser α :=
  fun ctx => p { ctx with auto := auto }

/-- Runs `p` with a branch of a condition further out allowed behind it or not. -/
def withColonBranch (allowed : Bool) (p : Parser α) : Parser α :=
  fun ctx => p { ctx with colonBranch := allowed }

/-- A node around the children that `p` collects, with the answer of `p`, from which `kind` takes
the kind of the node. -/
def buildKeeping (kind : α → String) (p : Parser α) : Parser (ParseTree × α) := do
  settle
  -- The children so far belong to the node outside: they wait until this one is finished.
  let outer ← get
  set { outer with done := [] }
  let a ← p
  let inner ← get
  set { inner with done := outer.done }
  let extent := extentOf (← read).input outer.pos inner.pos
  return (.node (kind a) true none extent inner.done.reverse, a)

/-- A node around the children that `p` collects; `p` answers the kind of the node. -/
def buildWith (p : Parser String) : Parser ParseTree := do
  return (← buildKeeping id p).1

/-- A node of the given kind around the children that `p` collects. -/
def build (kind : String) (p : Parser Unit) : Parser ParseTree :=
  buildWith (do p; return kind)

/-- A node whose first child is `left`, followed by what `p` collects; `p` answers
the kind of the node. -/
def extend (left : ParseTree) (p : Parser String) : Parser ParseTree := do
  let outer ← get
  set { outer with done := [left] }
  let kind ← p
  let inner ← get
  set { inner with done := outer.done }
  let input := (← read).input
  return .node kind true none
    ⟨left.extent.startByte, input.byteAt inner.pos, left.extent.startRow, input.rowAt inner.pos⟩
    inner.done.reverse

/-- Reads the token from the current position to `stop`. -/
def takeTo (kind : String) (named : Bool) (stop : Nat) : Parser ParseTree := do
  let s ← get
  set { s with pos := stop }
  return leaf (← read).input kind named s.pos stop

/-! ## Tokens -/

/-- Adds the mark `m`, which must come next. -/
def mark (m : String) : Parser Unit := do
  settle
  let s ← get
  guard ((← read).input.operatorAt s.pos == m)
  child (takeTo m false (s.pos + m.length))

/-- Adds the mark `m`, which the next characters must spell, even where a longer mark does too. -/
def partialMark (m : String) : Parser Unit := do
  settle
  let s ← get
  guard ((← read).input.spells s.pos m.toList)
  child (takeTo m false (s.pos + m.length))

/-- Adds the keyword `w`, which must come next in any letter case. -/
def keyword (w : String) : Parser Unit := do
  settle
  let s ← get
  let input := (← read).input
  guard (input.wordAt s.pos == w)
  child (takeTo w false (input.nameEnd s.pos))

/-- A name that is none of the reserved words. -/
def name (reserved : List String) : Parser ParseTree := do
  settle
  let s ← get
  let input := (← read).input
  let stop := input.nameEnd s.pos
  guard (s.pos < stop && !reserved.contains (input.wordAt s.pos))
  takeTo "name" true stop

/-- Adds the end of a statement: a semicolon, or nothing before a closing tag. -/
def semicolon : Parser Unit := withAuto true do
  let a ← ahead
  if a.implied then modify fun s => ⟨a.pos, a.extras ++ s.done⟩ else mark ";"

/-- Adds `opening`, what `p` collects, and `closing`.  No closing tag ends a construct in
between. -/
def bracketed (opening closing : String) (p : Parser Unit) : Parser Unit := do
  mark opening
  withAuto false (do p; mark closing)

/-! ## Repetition -/

/-- More rounds than a repetition can have in which every round reads a token. -/
def rounds : Parser Nat := do
  return (← read).input.size + 1 - (← get).pos

def iterateFor (step : α → Parser (Option α)) : Nat → α → Parser α
  | 0, _ => failure
  | fuel + 1, a => do
    match ← step a with
    | none => return a
    | some b => iterateFor step fuel b

/-- Repeats `step` from `a` until it has no further value. -/
def iterate (step : α → Parser (Option α)) (a : α) : Parser α := do
  iterateFor step (← rounds) a

/-- Repeats `p` as long as `test` holds. -/
def repeatWhile (test : Parser Bool) (p : Parser Unit) : Parser Unit :=
  iterate (fun _ => do
    if ← test then
      p
      return some ()
    else return none) ()

/-- Items with the mark `separator` between them, at least one. -/
def separated (separator : String) (item : Parser Unit) : Parser Unit := do
  item
  repeatWhile (nextIs separator) (do mark separator; item)

/-- Items with commas between them up to the mark `close`, which is not read.  A comma may
follow the last item. -/
def listUntil (close : String) (item : Parser Unit) : Parser Unit :=
  iterate (fun more => do
    if !more || (← nextIs close) then return none
    item
    if ← nextIs "," then
      mark ","
      return some true
    else return some false) true *> pure ()

/-- As `listUntil`, but a comma may also stand alone. -/
def looseListUntil (close : String) (item : Parser Unit) : Parser Unit := do
  if ← nextIs "," then mark "," else listUntil close item

/-- As `listUntil`, with at least one item. -/
def nonemptyListUntil (close : String) (item : Parser Unit) : Parser Unit := do
  guard !(← nextIs close)
  listUntil close item

/-- Items up to the mark `close`, which is not read. -/
def itemsUntil (close : String) (item : Parser Unit) : Parser Unit :=
  repeatWhile (do return !(← nextIs close)) item

/-- Runs `p` if `test` holds. -/
def optional (test : Parser Bool) (p : Parser Unit) : Parser Unit := do
  if ← test then p

end Parser

end Introspect.Grammar
