import Introspect.Text.Basic

/-! # Documentation comments

A block comment that opens with two stars documents the declaration after it:

* `DocTracker.observe` — walks a list of siblings and hands each declaration the
  documentation comment that applies to it;
* `reindentDoc : String → String` — the comment without the indentation it had in its source.
-/

namespace Introspect.Syntax

/-- The latest documentation comment that no declaration has claimed yet. -/
structure DocTracker where
  pending : Option String := none
deriving DecidableEq, Repr

namespace DocTracker

/-- Takes the next sibling.  A comment gets no documentation, and replaces the pending one if it
is a documentation comment itself; any other sibling claims the pending one. -/
def observe (t : DocTracker) (kind : String) (text : String) : Option String × DocTracker :=
  if kind == "comment" then
    (none, if Text.startsWith text "/**" then ⟨some text⟩ else t)
  else (t.pending, ⟨none⟩)

/-- Observes the siblings one after another, each given by kind and text. -/
def observeAll (t : DocTracker) : List (String × String) → List (Option String)
  | [] => []
  | (kind, text) :: rest =>
    let (doc, next) := t.observe kind text
    doc :: next.observeAll rest

end DocTracker

/-- A continuation line: white space at its ends goes, and a line that starts with a star
is set off by one space. -/
def reindentLine (line : String) : String :=
  let trimmed := Text.trim line
  if Text.startsWith trimmed "*" then " " ++ trimmed else trimmed

/-- The comment with every line moved to the left margin. -/
def reindentDoc (raw : String) : String :=
  match Text.lines raw with
  | [] => ""
  | first :: rest => Text.joinWith "\n" (Text.trim first :: rest.map reindentLine)

end Introspect.Syntax
