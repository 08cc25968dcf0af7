import Introspect.Text.Basic
import Introspect.Syntax.ParseTree

/-! # Owned syntax nodes

A declaration outlives the parse tree it was found in, so it is copied out into
nodes that carry their own text and can have their body overwritten:

* `Node` and `Node.ofTree` — the copy of a parse tree, made by one cursor walk;
* `Node.preorder` — a node and everything beneath it in document order;
* `Node.text`, `Node.compactText` — the leaf texts of a node;
* `Node.sameTree`, `Node.rebuild` — comparison and reconstruction by preorder;
* `Node.childByField?`, `Node.childOfKind?`, `Node.statements`, `Node.body?` —
  questions about direct children;
* `Node.overwriteBody` — other statements in the body of a node.

Expressions nest as deep as their author likes, so every walk keeps its own stack.
-/

namespace Introspect.Syntax

/-! ## Nodes -/

/-- Kinds kept as one leaf with their verbatim source text, whose inner tokens are
never spaced anew. -/
def atomicKinds : List String := [
  "by_ref", "comment", "encapsed_string", "float", "heredoc", "integer", "name",
  "namespace_name", "nowdoc", "qualified_name", "relative_name", "shell_command_expression",
  "string", "variable_name"]

/-- Kinds that are never statements of a body. -/
def nonStatementKinds : List String := ["comment", "php_tag", "text", "text_interpolation"]

/-- Where a node lies in its text.  Lines count from one. -/
structure Span where
  startByte : Nat
  endByte : Nat
  startLine : Nat
  endLine : Nat
deriving DecidableEq, Repr

def Extent.span (e : Extent) : Span :=
  ⟨e.startByte, e.endByte, e.startRow + 1, e.endRow + 1⟩

/-- An owned node.  Leaves and atomic nodes have a text, all others have children. -/
inductive Node where
  | mk (kind : String) (named : Bool) (field : Option String) (span : Option Span)
      (leafText : Option String) (children : List Node)

namespace Node

/-- The grammar's name for the node. -/
def kind : Node → String
  | mk k _ _ _ _ _ => k

/-- A named node, as opposed to a keyword or a punctuation mark. -/
def named : Node → Bool
  | mk _ n _ _ _ _ => n

/-- The field that the node occupies in its parent. -/
def field : Node → Option String
  | mk _ _ f _ _ _ => f

def span : Node → Option Span
  | mk _ _ _ s _ _ => s

/-- The verbatim text of a leaf or an atomic node. -/
def leafText : Node → Option String
  | mk _ _ _ _ t _ => t

/-- Direct children in source order. -/
def children : Node → List Node
  | mk _ _ _ _ _ cs => cs

/-- This node alone, with `cs` in place of its own children. -/
def withChildren (cs : List Node) : Node → Node
  | mk k n f s t _ => mk k n f s t cs

@[simp] theorem kind_mk {k n f s t cs} : (mk k n f s t cs).kind = k := rfl
@[simp] theorem named_mk {k n f s t cs} : (mk k n f s t cs).named = n := rfl
@[simp] theorem field_mk {k n f s t cs} : (mk k n f s t cs).field = f := rfl
@[simp] theorem span_mk {k n f s t cs} : (mk k n f s t cs).span = s := rfl
@[simp] theorem leafText_mk {k n f s t cs} : (mk k n f s t cs).leafText = t := rfl
@[simp] theorem children_mk {k n f s t cs} : (mk k n f s t cs).children = cs := rfl
@[simp] theorem withChildren_mk {k n f s t cs ds} :
    (mk k n f s t cs).withChildren ds = mk k n f s t ds := rfl

@[simp] theorem withChildren_children (n : Node) : n.withChildren n.children = n := by
  cases n; rfl

theorem sizeOf_children_lt (n : Node) : sizeOf n.children < sizeOf n := by
  cases n with
  | mk k named f s t cs =>
    rw [children_mk, mk.sizeOf_spec]
    omega

/-! ## Copying a parse tree -/

/-- Is the node kept as one leaf? -/
def isLeaf (t : ParseTree) : Bool :=
  t.children.isEmpty || atomicKinds.contains t.kind

/-- The node in focus without its children; leaves take their text from the source. -/
def copyFocus (source : String) (c : Cursor) : Node :=
  let t := c.focus
  let text := if isLeaf t then
      some (Text.slice source t.extent.startByte t.extent.endByte)
    else none
  mk t.kind t.named c.field (some t.extent.span) text []

/-- The cursor on the first child, unless the node is kept as one leaf. -/
def descend? (c : Cursor) : Option Cursor :=
  if isLeaf c.focus then none else c.firstChild?

/-- Attaches the finished node `done` to the innermost open node and climbs until there is a
later sibling.  Open nodes hold their children last first.  The answer is the finished root,
or the next position with the nodes that are still open. -/
def climb (done : Node) : List Node → Cursor → Node ⊕ (Cursor × List Node)
  | [], _ => .inl done
  | parent :: rest, c =>
    let children := done :: parent.children
    match c.nextSibling? with
    | some d => .inr (d, parent.withChildren children :: rest)
    | none =>
      let closed := parent.withChildren children.reverse
      match c.parent? with
      | some up => climb closed rest up
      | none => .inl closed

theorem pending_of_climb {done : Node} {opened : List Node} {c d : Cursor} {more : List Node}
    (h : climb done opened c = .inr (d, more)) :
    d.pending < sizeOf c.later + Cursor.pendingAbove c.above := by
  induction opened generalizing done c with
  | nil => simp [climb] at h
  | cons parent rest ih =>
    simp only [climb] at h
    split at h
    · rename_i e he
      simp only [Sum.inr.injEq, Prod.mk.injEq] at h
      obtain ⟨rfl, -⟩ := h
      unfold Cursor.nextSibling? at he
      split at he
      · contradiction
      · rename_i t ts hl
        cases he
        rw [hl]
        simp only [Cursor.pending, List.cons.sizeOf_spec]
        omega
    · split at h
      · rename_i up hup
        have hlt := ih h
        unfold Cursor.parent? at hup
        split at hup
        · contradiction
        · rename_i t ts above ha
          cases hup
          rw [ha]
          simp only [Cursor.pendingAbove] at hlt ⊢
          omega
      · simp at h

theorem pending_of_descend? {c d : Cursor} (h : descend? c = some d) : d.pending < c.pending := by
  unfold descend? at h
  split at h
  · contradiction
  · exact Cursor.pending_firstChild? h

/-- Copies what lies from `c` on in document order into the open nodes. -/
def copyFrom (source : String) (c : Cursor) (opened : List Node) : Node :=
  let node := copyFocus source c
  match _hd : descend? c with
  | some d => copyFrom source d (node :: opened)
  | none =>
    match _hc : climb node opened c with
    | .inl root => root
    | .inr (d, more) => copyFrom source d more
termination_by c.pending
decreasing_by
  · exact pending_of_descend? _hd
  · have := pending_of_climb _hc
    simp only [Cursor.pending]
    simp only [Cursor.pending] at this
    omega

/-- An owned copy of `t` and everything beneath it, taken from the text it was parsed from. -/
def ofTree (source : String) (t : ParseTree) : Node :=
  copyFrom source (Cursor.start t) []

/-! ## Walking -/

theorem sizeOf_append (xs ys : List Node) : sizeOf (xs ++ ys) + 1 = sizeOf xs + sizeOf ys := by
  induction xs with
  | nil => simp; omega
  | cons x xs ih => simp only [List.cons_append, List.cons.sizeOf_spec]; omega

/-- Visits the nodes on the stack and everything beneath them; `seen` holds the visited nodes,
last first. -/
def walk (stack seen : List Node) : List Node :=
  match stack with
  | [] => seen.reverse
  | n :: rest => walk (n.children ++ rest) (n :: seen)
termination_by sizeOf stack
decreasing_by
  have h1 := sizeOf_append n.children rest
  have h2 := n.sizeOf_children_lt
  simp only [List.cons.sizeOf_spec]
  omega

/-- The node and everything beneath it, in document order. -/
def preorder (n : Node) : List Node :=
  walk [n] []

/-- Does the node, or anything beneath it, satisfy `p`?  Nested functions and classes
are searched too. -/
def any (n : Node) (p : Node → Bool) : Bool :=
  n.preorder.any p

/-- The leaf texts under the node that are not empty. -/
def leafTexts (n : Node) : List String :=
  (n.preorder.filterMap leafText).filter (· != "")

/-- The leaf texts joined by single spaces. -/
def text (n : Node) : String :=
  Text.joinWith " " n.leafTexts

/-- The leaf texts without any white space, for names and types. -/
def compactText (n : Node) : String :=
  Text.squeeze n.text

/-! ## Comparison and reconstruction -/

/-- Everything but the children is equal, and there are equally many of those. -/
def sameHead (a b : Node) : Bool :=
  a.field == b.field && a.kind == b.kind && a.named == b.named && a.span == b.span &&
    a.leafText == b.leafText && a.children.length == b.children.length

def sameSequence : List Node → List Node → Bool
  | [], [] => true
  | a :: as, b :: bs => a.sameHead b && sameSequence as bs
  | _, _ => false

/-- Two nodes are the same if their preorders agree node by node with equal child counts. -/
def sameTree (a b : Node) : Bool :=
  sameSequence a.preorder b.preorder

/-- Takes as many finished nodes off the stack as `n` has children and puts `n` with
them on top. -/
def rebuildStep (built : List Node) (n : Node) : List Node :=
  let k := n.children.length
  n.withChildren (built.take k) :: built.drop k

/-- The node put together anew from its preorder, last node first, so that every child is
finished before its parent. -/
def rebuild (n : Node) : Node :=
  match n.preorder.reverse.foldl rebuildStep [] with
  | root :: _ => root
  | [] => n.withChildren []

/-! ## Direct children -/

/-- First child in the field `name`. -/
def childByField? (n : Node) (name : String) : Option Node :=
  n.children.find? fun c => c.field == some name

/-- First child of the given kind. -/
def childOfKind? (n : Node) (kind : String) : Option Node :=
  n.children.find? fun c => c.kind == kind

def hasChildOfKind (n : Node) (kind : String) : Bool :=
  (n.childOfKind? kind).isSome

/-- Direct children that are named nodes. -/
def namedChildren (n : Node) : List Node :=
  n.children.filter named

/-- Statements of a block or a program, without braces, tags and comments. -/
def statements (n : Node) : List Node :=
  n.children.filter fun c => c.named && !nonStatementKinds.contains c.kind

/-- The block in the field `body`. -/
def body? (n : Node) : Option Node :=
  n.childByField? "body"

/-! ## Replacing a body -/

/-- The block with other statements between its braces.  Of the tokens only the first and
the last stay. -/
def withStatements (statements : List Node) (block : Node) : Node :=
  let tokens := block.children.filter fun c => !c.named
  block.withChildren (tokens.take 1 ++ statements ++ (tokens.drop 1).getLast?.toList)

/-- Applies `f` to the first member that satisfies `p`, and tells whether there is one. -/
def updateFirst (p : Node → Bool) (f : Node → Node) : List Node → Bool × List Node
  | [] => (false, [])
  | c :: cs =>
    if p c then (true, f c :: cs)
    else
      let (found, rest) := updateFirst p f cs
      (found, c :: rest)

/-- Puts other statements into the body of the node, and tells whether there is a body. -/
def overwriteBody (n : Node) (statements : List Node) : Bool × Node :=
  let (found, cs) :=
    updateFirst (fun c => c.field == some "body") (withStatements statements) n.children
  (found, n.withChildren cs)

end Node

end Introspect.Syntax
