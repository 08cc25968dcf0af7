import Introspect.Syntax.Node

/-! # Tokens of a statement

Code is printed from its tokens alone:

* `Token` — the text of a leaf with the kind of the node that holds it;
* `tokensOf : Node → List Token` — the tokens of a node in document order, without comments.
-/

namespace Introspect.Layout

open Introspect.Syntax

/-- A leaf with the kind of the node that holds it. -/
structure Token where
  parent : String
  text : String
deriving DecidableEq, Repr

/-- What a node itself contributes. -/
def ownTokens (parent : String) (n : Node) : List Token :=
  match n.leafText with
  | some text => if text.isEmpty then [] else [⟨parent, text⟩]
  | none => []

/-- The nodes in which the walk goes on: none under a comment or a leaf. -/
def openedBy (n : Node) : List (Node × String) :=
  if n.kind == "comment" || n.leafText.isSome then []
  else n.children.map fun c => (c, n.kind)

/-- Total size of the nodes on a stack. -/
noncomputable def stackSize : List (Node × String) → Nat
  | [] => 0
  | (n, _) :: rest => sizeOf n + stackSize rest

theorem stackSize_append (xs ys : List (Node × String)) :
    stackSize (xs ++ ys) = stackSize xs + stackSize ys := by
  induction xs with
  | nil => simp [stackSize]
  | cons x xs ih => simp only [List.cons_append, stackSize, ih]; omega

theorem stackSize_children (kind : String) (ns : List Node) :
    stackSize (ns.map fun c => (c, kind)) < sizeOf ns := by
  induction ns with
  | nil => simp [stackSize]
  | cons n ns ih => simp only [List.map_cons, stackSize, List.cons.sizeOf_spec]; omega

theorem stackSize_openedBy (n : Node) : stackSize (openedBy n) < sizeOf n := by
  have h := n.sizeOf_children_lt
  have hk := stackSize_children n.kind n.children
  unfold openedBy
  split
  · simp only [stackSize]; omega
  · omega

/-- Collects the tokens of the nodes on the stack; `seen` holds those found, last first. -/
def collect (stack : List (Node × String)) (seen : List Token) : List Token :=
  match stack with
  | [] => seen.reverse
  | (n, parent) :: rest =>
    let own := if n.kind == "comment" then [] else ownTokens parent n
    collect (openedBy n ++ rest) (own ++ seen)
termination_by stackSize stack
decreasing_by
  have h := stackSize_openedBy n
  simp only [stackSize_append, stackSize]
  omega

/-- The tokens of a node in document order.  Comments and empty leaves have none. -/
def tokensOf (n : Node) : List Token :=
  collect [(n, "")] []

end Introspect.Layout
