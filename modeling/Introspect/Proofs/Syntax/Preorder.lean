import Introspect.Syntax.Node

/-! # Preorder

The walk over a node keeps its own stack.  What it visits is the plain recursion over the tree:

* `walk_eq_flatMap` — a stack is visited member by member;
* `preorder_eq` — a node comes first, then its children one after another;
* `forall_mem_preorder` — what holds everywhere holds at the node and beneath its children;
* `any_eq` — a search succeeds at the node itself or beneath one of its children.
-/

namespace Introspect.Syntax.Node

/-- What was visited earlier stays in front. -/
theorem walk_seen (stack later seen : List Node) :
    walk stack (later ++ seen) = seen.reverse ++ walk stack later := by
  fun_induction walk stack later with
  | case1 later => simp [walk]
  | case2 later n rest ih =>
    rw [walk]
    exact ih

/-- The upper part of a stack is visited before the lower part. -/
theorem walk_append (upper lower seen : List Node) :
    walk (upper ++ lower) seen = walk lower (walk upper seen).reverse := by
  fun_induction walk upper seen with
  | case1 seen => simp
  | case2 seen n rest ih =>
    rw [List.cons_append, walk, ← List.append_assoc]
    exact ih

theorem walk_eq_flatMap (stack : List Node) : walk stack [] = stack.flatMap preorder := by
  induction stack with
  | nil => simp [walk]
  | cons n rest ih =>
    calc walk ([n] ++ rest) [] = walk rest ([] ++ (walk [n] []).reverse) := walk_append [n] rest []
      _ = walk [n] [] ++ walk rest [] := by rw [walk_seen, List.reverse_reverse]
      _ = (n :: rest).flatMap preorder := by rw [ih, List.flatMap_cons, preorder]

/-- A node comes first, and behind it what lies beneath its children. -/
theorem preorder_eq (n : Node) : n.preorder = n :: n.children.flatMap preorder := by
  have start : n.preorder = walk n.children ([] ++ [n]) := by
    rw [preorder, walk, List.append_nil]
    rfl
  rw [start, walk_seen, walk_eq_flatMap]
  rfl

/-- What holds at all nodes from `n` on downwards holds at `n` and beneath each of its children. -/
theorem forall_mem_preorder {n : Node} {p : Node → Prop} :
    (∀ m ∈ n.preorder, p m) ↔ p n ∧ ∀ c ∈ n.children, ∀ m ∈ c.preorder, p m := by
  rw [preorder_eq, List.forall_mem_cons, List.forall_mem_flatMap]

theorem any_eq (n : Node) (p : Node → Bool) :
    n.any p = (p n || n.children.any fun c => c.any p) := by
  rw [any, preorder_eq, List.any_cons, List.any_flatMap]
  rfl

end Introspect.Syntax.Node
