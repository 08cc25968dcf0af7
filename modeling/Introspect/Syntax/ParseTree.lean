/-! # Parse trees and cursors

The result of parsing a text is a tree whose nodes carry a kind, the field they
occupy in their parent, and the extent they cover in the text:

* `Extent` — byte range and rows of a node;
* `ParseTree` — a node with its children in source order, anonymous tokens included;
* `ParseTree.childByField?`, `ParseTree.namedChildren` — questions about direct children;
* `Cursor` — a position inside a tree, with the moves `firstChild?`,
  `nextSibling?` and `parent?`.
-/

namespace Introspect.Syntax

/-! ## Trees -/

/-- Where a node lies in the text it was parsed from.  Bytes count from zero and the end
is exclusive; rows count line feeds from zero. -/
structure Extent where
  startByte : Nat
  endByte : Nat
  startRow : Nat
  endRow : Nat
deriving DecidableEq, Repr

/-- A node of a parse tree.  A token is a node without children. -/
inductive ParseTree where
  | node (kind : String) (named : Bool) (field : Option String) (extent : Extent)
      (children : List ParseTree)

namespace ParseTree

/-- The grammar's name for the node, for instance `function_definition`. -/
def kind : ParseTree → String
  | node k _ _ _ _ => k

/-- A named node, as opposed to a keyword or a punctuation mark. -/
def named : ParseTree → Bool
  | node _ n _ _ _ => n

/-- The field that the node occupies in its parent. -/
def field : ParseTree → Option String
  | node _ _ f _ _ => f

def extent : ParseTree → Extent
  | node _ _ _ e _ => e

/-- Direct children in source order. -/
def children : ParseTree → List ParseTree
  | node _ _ _ _ cs => cs

/-- The same node in the field `name`. -/
def withField (name : String) : ParseTree → ParseTree
  | node k n _ e cs => node k n (some name) e cs

@[simp] theorem kind_node {k n f e cs} : (node k n f e cs).kind = k := rfl
@[simp] theorem named_node {k n f e cs} : (node k n f e cs).named = n := rfl
@[simp] theorem field_node {k n f e cs} : (node k n f e cs).field = f := rfl
@[simp] theorem extent_node {k n f e cs} : (node k n f e cs).extent = e := rfl
@[simp] theorem children_node {k n f e cs} : (node k n f e cs).children = cs := rfl

/-- First child in the field `name`. -/
def childByField? (t : ParseTree) (name : String) : Option ParseTree :=
  t.children.find? fun c => c.field == some name

/-- Direct children that are named nodes. -/
def namedChildren (t : ParseTree) : List ParseTree :=
  t.children.filter named

theorem sizeOf_children_lt (t : ParseTree) : sizeOf t.children < sizeOf t := by
  cases t with
  | node k n f e cs =>
    rw [children_node, node.sizeOf_spec]
    omega

end ParseTree

/-! ## Cursors -/

/-- A position in a tree: the node in focus, its later siblings, and for every ancestor, innermost
first, the ancestor with its own later siblings.  The node at which the cursor was opened
has no ancestors and no siblings. -/
structure Cursor where
  focus : ParseTree
  later : List ParseTree
  above : List (ParseTree × List ParseTree)

namespace Cursor

/-- A cursor on the root of `t`, which is not left upwards or sideways. -/
def start (t : ParseTree) : Cursor :=
  ⟨t, [], []⟩

/-- The field of the node in focus; the node at which the cursor was opened has none. -/
def field (c : Cursor) : Option String :=
  if c.above.isEmpty then none else c.focus.field

def firstChild? (c : Cursor) : Option Cursor :=
  match c.focus.children with
  | [] => none
  | t :: ts => some ⟨t, ts, (c.focus, c.later) :: c.above⟩

def nextSibling? (c : Cursor) : Option Cursor :=
  match c.later with
  | [] => none
  | t :: ts => some { c with focus := t, later := ts }

def parent? (c : Cursor) : Option Cursor :=
  match c.above with
  | [] => none
  | (t, ts) :: rest => some ⟨t, ts, rest⟩

/-- What a walk in document order has still to visit: the later siblings of the ancestors. -/
noncomputable def pendingAbove : List (ParseTree × List ParseTree) → Nat
  | [] => 0
  | (_, ts) :: rest => sizeOf ts + pendingAbove rest

/-- Size of what a walk in document order has still to visit, the focus included. -/
noncomputable def pending (c : Cursor) : Nat :=
  sizeOf c.focus + sizeOf c.later + pendingAbove c.above

theorem pending_firstChild? {c d : Cursor} (h : c.firstChild? = some d) :
    d.pending < c.pending := by
  unfold firstChild? at h
  have hs := c.focus.sizeOf_children_lt
  split at h
  · contradiction
  · rename_i t ts heq
    cases h
    rw [heq] at hs
    simp only [List.cons.sizeOf_spec] at hs
    simp only [pending, pendingAbove]
    omega

end Cursor

end Introspect.Syntax
