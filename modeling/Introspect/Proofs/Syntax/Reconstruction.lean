import Introspect.Proofs.Syntax.Preorder

/-! # Nodes put together anew

A node is put together from its preorder, read backwards, with a stack of finished nodes:

* `foldl_flatMap_preorder` — the preorders of nodes side by side leave these nodes on the stack;
* `preorder_behind` — behind a node, its preorder goes on with what lies beneath the node;
* `rebuild_eq_self` — every step finds its children on the stack, and the last one leaves the node.

The stack may hold other nodes already, which the steps for a complete preorder never touch.
-/

namespace Introspect.Syntax.Node

/-- With the children on top of the stack, a step puts the node in their place. -/
theorem rebuildStep_children (n : Node) (built : List Node) :
    rebuildStep (n.children ++ built) n = n :: built := by
  simp [rebuildStep]

mutual

theorem foldl_preorder (built : List Node) :
    ∀ n : Node, n.preorder.reverse.foldl rebuildStep built = n :: built
  | .mk kind named field span text children => by
    rw [preorder_eq, List.reverse_cons, List.foldl_append, children_mk,
      foldl_flatMap_preorder built children]
    exact rebuildStep_children (.mk kind named field span text children) built

theorem foldl_flatMap_preorder (built : List Node) :
    ∀ ns : List Node, (ns.flatMap preorder).reverse.foldl rebuildStep built = ns ++ built
  | [] => rfl
  | n :: ns => by
    -- Read backwards, the last of the nodes is finished first and comes to lie deepest.
    rw [List.flatMap_cons, List.reverse_append, List.foldl_append,
      foldl_flatMap_preorder built ns, foldl_preorder (ns ++ built) n]
    rfl

end

mutual

theorem preorder_behind {before behind : List Node} {m : Node} :
    ∀ n : Node, n.preorder = before ++ m :: behind →
      ∃ others, behind = m.children.flatMap preorder ++ others
  | .mk kind named field span text children, split => by
    rw [preorder_eq, children_mk] at split
    cases before with
    | nil =>
      simp only [List.nil_append, List.cons.injEq] at split
      obtain ⟨rfl, beneath⟩ := split
      exact ⟨[], by rw [children_mk, List.append_nil, beneath]⟩
    | cons root before =>
      simp only [List.cons_append, List.cons.injEq] at split
      exact flatMap_preorder_behind children split.2

theorem flatMap_preorder_behind {before behind : List Node} {m : Node} :
    ∀ ns : List Node, ns.flatMap preorder = before ++ m :: behind →
      ∃ others, behind = m.children.flatMap preorder ++ others
  | [], split => by simp at split
  | n :: ns, split => by
    rw [List.flatMap_cons] at split
    rcases List.append_eq_append_iff.1 split with ⟨early, -, rest⟩ | ⟨late, inside, rest⟩
    · exact flatMap_preorder_behind ns rest
    · cases late with
      | nil =>
        -- The first node ends just before `m`, with which the next ones begin.
        have rest : ns.flatMap preorder = [] ++ m :: behind := rest.symm
        exact flatMap_preorder_behind ns rest
      | cons here late =>
        simp only [List.cons_append, List.cons.injEq] at rest
        obtain ⟨rfl, rfl⟩ := rest
        obtain ⟨others, eq⟩ := preorder_behind n inside
        exact ⟨others ++ ns.flatMap preorder, by rw [eq, List.append_assoc]⟩

end

/-- When the turn of a node comes, its children are on top of the stack, in order. -/
theorem exists_children_on_stack {n m : Node} {finished pending : List Node}
    (split : n.preorder.reverse = finished ++ m :: pending) :
    ∃ below, finished.foldl rebuildStep [] = m.children ++ below := by
  have forwards : n.preorder = pending.reverse ++ m :: finished.reverse := by
    rw [← List.reverse_reverse n.preorder, split]
    simp
  obtain ⟨others, behind⟩ := preorder_behind n forwards
  refine ⟨others.reverse.foldl rebuildStep [], ?_⟩
  rw [← List.reverse_reverse finished, behind, List.reverse_append, List.foldl_append,
    foldl_flatMap_preorder]

/-- A node put together anew is the node itself.  At every step the stack holds as many nodes as are
taken off it, and these are the children of the node at hand; at the end it holds the root alone, so
that no node without children has to stand in for it. -/
theorem rebuild_eq_self (n : Node) :
    n.rebuild = n ∧
    n.preorder.reverse.foldl rebuildStep [] = [n] ∧
    ∀ finished m pending, n.preorder.reverse = finished ++ m :: pending →
      m.children.length ≤ (finished.foldl rebuildStep []).length ∧
      (finished.foldl rebuildStep []).take m.children.length = m.children := by
  have stack : n.preorder.reverse.foldl rebuildStep [] = [n] := foldl_preorder [] n
  refine ⟨?_, stack, fun finished m pending split => ?_⟩
  · rw [rebuild, stack]
  · obtain ⟨below, eq⟩ := exists_children_on_stack split
    rw [eq, List.length_append]
    exact ⟨Nat.le_add_right _ _, List.take_left⟩

end Introspect.Syntax.Node
