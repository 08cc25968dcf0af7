import Introspect.Error
import Introspect.Syntax.Node
import Introspect.Grammar.Program

/-! # Choice of dialect

* `Parsed` — the tree of a text and the dialect it was read in;
* `parse : String → String → Except ParseFailure Parsed` — a page with code in it, else code on its
  own, else a page without code.
-/

namespace Introspect.Grammar

open Introspect.Syntax

/-- A parsed text. -/
structure Parsed where
  dialect : Dialect
  tree : ParseTree

/-- Does an opening tag stand among the children of the root? -/
def hasTag (root : ParseTree) : Bool :=
  root.children.any fun t => t.kind == "php_tag"

/-- How many characters of a text a failure shows. -/
def snippetLength : Nat := 60

/-- The first characters of a text on one line. -/
def snippet (text : String) : String :=
  let cs := Text.trimStartChars text.toList
  let shown := cs.take snippetLength ++ if (cs.drop snippetLength).isEmpty then [] else "...".toList
  String.ofList (shown.map fun c => if c == '\n' then ' ' else c)

/-- Parses a text; `origin` tells failures where it comes from. -/
def parse (text origin : String) : Except ParseFailure Parsed :=
  let page := parse? .template text
  -- A text without a tag is a page too, and counts as one only if it is no code.
  match page.filter hasTag with
  | some tree => .ok ⟨.template, tree⟩
  | none =>
    match parse? .bare text, page with
    | some tree, _ => .ok ⟨.bare, tree⟩
    | none, some tree => .ok ⟨.template, tree⟩
    | none, none => .error ⟨origin, snippet text⟩

/-- The owned copy of a parsed text. -/
def parseNode (text origin : String) : Except ParseFailure Node := do
  return Node.ofTree text (← parse text origin).tree

end Introspect.Grammar
