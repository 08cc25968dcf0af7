import Mathlib.Data.List.Forall2
import Introspect.Proofs.Syntax.Reconstruction

/-! # Nodes compared by preorder

A comparison of two nodes looks at no nesting, only at what comes next in either preorder and at how
many children it has:

* `Head`, `Node.head` — what is looked at of one node;
* `ofHeads`, `ofHeads_preorder` — the heads of a preorder are enough to put the nodes together;
* `sameInStep`, `sameInStep_eq` — the comparison can walk both nodes at once and stop at the first
  difference;
* `sameTree_iff_eq` — nodes compare as equal exactly if they are equal.
-/

namespace Introspect.Syntax

/-- All that there is to a node but its children, and how many of those it has. -/
structure Head where
  kind : String
  named : Bool
  field : Option String
  span : Option Span
  leafText : Option String
  arity : Nat
deriving DecidableEq, Repr

/-- A node with this head, which has the arity of the head if that many children are given. -/
def Head.over (h : Head) (children : List Node) : Node :=
  .mk h.kind h.named h.field h.span h.leafText children

namespace Node

def head (n : Node) : Head :=
  ⟨n.kind, n.named, n.field, n.span, n.leafText, n.children.length⟩

theorem over_head (n : Node) (cs : List Node) : n.head.over cs = n.withChildren cs := by
  cases n
  rfl

/-! ## Comparison of heads -/

theorem sameHead_iff {a b : Node} : a.sameHead b = true ↔ a.head = b.head := by
  simp only [sameHead, head, Bool.and_eq_true, beq_iff_eq, Head.mk.injEq]
  constructor
  · rintro ⟨⟨⟨⟨⟨field, kind⟩, named⟩, span⟩, text⟩, arity⟩
    exact ⟨kind, named, field, span, text, arity⟩
  · rintro ⟨kind, named, field, span, text, arity⟩
    exact ⟨⟨⟨⟨⟨field, kind⟩, named⟩, span⟩, text⟩, arity⟩

theorem sameSequence_iff : ∀ {as bs : List Node},
    sameSequence as bs = true ↔ as.map head = bs.map head
  | [], [] => by simp [sameSequence]
  | [], _ :: _ | _ :: _, [] => by simp [sameSequence]
  | a :: as, b :: bs => by
    rw [sameSequence, Bool.and_eq_true, sameHead_iff, sameSequence_iff, List.map_cons, List.map_cons,
      List.cons.injEq]

/-! ## Nodes from heads -/

/-- Takes as many finished nodes off the stack as the head has children. -/
def ofHeadsStep (built : List Node) (h : Head) : List Node :=
  h.over (built.take h.arity) :: built.drop h.arity

/-- The nodes side by side that have these heads in their preorders. -/
def ofHeads (heads : List Head) : List Node :=
  heads.reverse.foldl ofHeadsStep []

theorem ofHeadsStep_head (built : List Node) (n : Node) :
    ofHeadsStep built n.head = rebuildStep built n := by
  rw [ofHeadsStep, over_head]
  rfl

theorem ofHeads_map (ns : List Node) : ofHeads (ns.map head) = ns.reverse.foldl rebuildStep [] := by
  -- Nothing of a node but its head decides how it is put together.
  rw [ofHeads, ← List.map_reverse, List.foldl_map]
  simp only [ofHeadsStep_head]

theorem ofHeads_flatMap_preorder (ns : List Node) :
    ofHeads ((ns.flatMap preorder).map head) = ns := by
  rw [ofHeads_map, foldl_flatMap_preorder, List.append_nil]

/-- Nodes side by side are determined by the heads in their preorders. -/
theorem eq_of_map_head_flatMap {as bs : List Node}
    (heads : (as.flatMap preorder).map head = (bs.flatMap preorder).map head) : as = bs := by
  rw [← ofHeads_flatMap_preorder as, heads, ofHeads_flatMap_preorder]

theorem eq_of_map_head_preorder {a b : Node} (heads : a.preorder.map head = b.preorder.map head) :
    a = b := by
  have single : [a] = [b] := eq_of_map_head_flatMap (by simpa using heads)
  exact List.cons.inj single |>.1

/-! ## Both walks at once -/

/-- Compares what lies from two stacks on, a node of either at a time. -/
def sameInStep (left right : List Node) : Bool :=
  match left, right with
  | [], [] => true
  | [], _ :: _ | _ :: _, [] => false
  | a :: as, b :: bs => a.sameHead b && sameInStep (a.children ++ as) (b.children ++ bs)
termination_by sizeOf left
decreasing_by
  have h1 := sizeOf_append a.children as
  have h2 := a.sizeOf_children_lt
  simp only [List.cons.sizeOf_spec]
  omega

/-- The comparison in step is that of the complete preorders. -/
theorem sameInStep_eq (left right : List Node) :
    sameInStep left right = sameSequence (left.flatMap preorder) (right.flatMap preorder) := by
  fun_induction sameInStep left right with
  | case1 => rfl
  | case2 b bs =>
    rw [List.flatMap_cons, preorder_eq]
    rfl
  | case3 a as =>
    rw [List.flatMap_cons, preorder_eq]
    rfl
  | case4 a as b bs ih =>
    -- Either preorder begins with the node and goes on with its children and what waits behind it.
    rw [ih, List.flatMap_cons, List.flatMap_cons, preorder_eq a, preorder_eq b,
      List.flatMap_append, List.flatMap_append]
    rfl

/-! ## Equality -/

theorem sameTree_iff_heads {a b : Node} :
    a.sameTree b = true ↔ a.preorder.map head = b.preorder.map head :=
  sameSequence_iff

theorem eq_iff_map_head_preorder {a b : Node} :
    a.preorder.map head = b.preorder.map head ↔ a = b :=
  ⟨eq_of_map_head_preorder, fun same => by rw [same]⟩

theorem eq_iff_head_children {a b : Node} :
    a = b ↔ a.head = b.head ∧ List.Forall₂ (· = ·) a.children b.children := by
  rw [List.forall₂_eq_eq_eq]
  constructor
  · rintro rfl
    exact ⟨rfl, rfl⟩
  · rintro ⟨heads, children⟩
    rw [← withChildren_children a, ← withChildren_children b, ← over_head, ← over_head, heads,
      children]

/-- Two nodes compare as equal exactly if they are the same: alike but for their children, with as
many of these, which compare as equal one by one.  The comparison may as well walk both nodes at
once, and what it looks at is enough to put a node together. -/
theorem sameTree_iff_eq (a b : Node) :
    a.sameTree b = sameInStep [a] [b] ∧
    (a.sameTree b = true ↔ a = b) ∧
    (a.sameTree b = true ↔
      a.head = b.head ∧ List.Forall₂ (fun c d => c.sameTree d = true) a.children b.children) ∧
    (a.preorder.map head = b.preorder.map head ↔ a = b) ∧
    ofHeads (a.preorder.map head) = [a] := by
  have equal : ∀ c d : Node, c.sameTree d = true ↔ c = d := fun c d =>
    sameTree_iff_heads.trans eq_iff_map_head_preorder
  refine ⟨?_, equal a b, ?_, eq_iff_map_head_preorder, ?_⟩
  · rw [sameInStep_eq, List.flatMap_singleton, List.flatMap_singleton]
    rfl
  · rw [equal, eq_iff_head_children]
    simp only [equal]
  · rw [← List.flatMap_singleton preorder a, ofHeads_flatMap_preorder]

-- Without the number of children, a leaf behind another one could as well be its child.
example :
    let leaf (cs : List Node) : Node := .mk "name" true none none none cs
    let beside := leaf [leaf [], leaf []]
    let beneath := leaf [leaf [leaf []]]
    beside.preorder.map leafText = beneath.preorder.map leafText ∧
      beside.sameTree beneath = false := by
  decide +kernel

end Node

end Introspect.Syntax
