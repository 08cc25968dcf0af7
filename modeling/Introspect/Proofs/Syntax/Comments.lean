import Introspect.Proofs.Syntax.Preorder

/-! # Nodes without comments

Comments may stand between any two tokens.  This module takes them out of a node, and says which
questions about a node get the same answer before and after:

* `withoutComments`, `dropComments` — a node, or nodes side by side, without the comments beneath;
* `CommentFree` — no comment stands at the node or beneath it;
* `Orderly` — comments occupy no field, and atomic nodes have no children;
* `childByField?_withoutComments`, `childOfKind?_withoutComments`, `statements_withoutComments`,
  `any_withoutComments` — questions in which comments have no part.
-/

namespace Introspect.Syntax.Node

/-! ## Erasure -/

def isComment (n : Node) : Bool := n.kind == "comment"

mutual

/-- The node without the comments beneath it. -/
def withoutComments : Node → Node
  | mk kind named field span text children =>
    mk kind named field span text (dropComments children)

/-- Nodes side by side without comments, neither among them nor beneath them. -/
def dropComments : List Node → List Node
  | [] => []
  | n :: ns => if n.isComment then dropComments ns else withoutComments n :: dropComments ns

end

@[simp] theorem kind_withoutComments (n : Node) : n.withoutComments.kind = n.kind := by
  cases n; rfl

@[simp] theorem named_withoutComments (n : Node) : n.withoutComments.named = n.named := by
  cases n; rfl

@[simp] theorem field_withoutComments (n : Node) : n.withoutComments.field = n.field := by
  cases n; rfl

@[simp] theorem leafText_withoutComments (n : Node) : n.withoutComments.leafText = n.leafText := by
  cases n; rfl

@[simp] theorem children_withoutComments (n : Node) :
    n.withoutComments.children = dropComments n.children := by
  cases n; rfl

theorem dropComments_eq_map (ns : List Node) :
    dropComments ns = (ns.filter fun n => !n.isComment).map withoutComments := by
  induction ns with
  | nil => rfl
  | cons n ns ih =>
    rw [dropComments, ih, List.filter_cons]
    cases n.isComment <;> rfl

theorem isComment_iff {n : Node} : n.isComment = true ↔ n.kind = "comment" := by
  simp [isComment]

/-! ## Nodes that have no comments -/

/-- No comment stands at the node or beneath it. -/
def CommentFree (n : Node) : Prop := ∀ m ∈ n.preorder, m.isComment = false

instance (n : Node) : Decidable n.CommentFree :=
  inferInstanceAs (Decidable (∀ m ∈ n.preorder, m.isComment = false))

theorem commentFree_iff (n : Node) :
    n.CommentFree ↔ n.isComment = false ∧ ∀ c ∈ n.children, c.CommentFree :=
  forall_mem_preorder

mutual

theorem withoutComments_of_commentFree : ∀ {n : Node}, n.CommentFree → n.withoutComments = n
  | mk kind named field span text children, free => by
    have below : ∀ c ∈ children, c.CommentFree := ((commentFree_iff _).1 free).2
    rw [withoutComments, dropComments_of_commentFree below]

theorem dropComments_of_commentFree : ∀ {ns : List Node}, (∀ n ∈ ns, n.CommentFree) →
    dropComments ns = ns
  | [], _ => rfl
  | n :: ns, free => by
    obtain ⟨first, rest⟩ := List.forall_mem_cons.1 free
    rw [dropComments, ((commentFree_iff n).1 first).1, withoutComments_of_commentFree first,
      dropComments_of_commentFree rest]
    rfl

end

theorem withoutComments_of_leaf {n : Node} (leaf : n.children = []) : n.withoutComments = n := by
  cases n with
  | mk kind named field span text children =>
    rw [children_mk] at leaf
    rw [withoutComments, leaf, dropComments]

/-! ## Questions in which comments have no part -/

/-- At the node and beneath it, comments occupy no field, and nodes of an atomic kind have no
children. -/
structure Orderly (n : Node) : Prop where
  fields : ∀ m ∈ n.preorder, m.isComment = true → m.field = none
  atoms : ∀ m ∈ n.preorder, m.kind ∈ atomicKinds → m.children = []

instance (n : Node) : Decidable n.Orderly :=
  decidable_of_iff ((∀ m ∈ n.preorder, m.isComment = true → m.field = none) ∧
    ∀ m ∈ n.preorder, m.kind ∈ atomicKinds → m.children.isEmpty)
    ⟨fun h => ⟨h.1, fun m below atomic => List.isEmpty_iff.1 (h.2 m below atomic)⟩,
      fun h => ⟨h.1, fun m below atomic => List.isEmpty_iff.2 (h.2 m below atomic)⟩⟩

namespace Orderly

variable {n c : Node}

theorem child (h : n.Orderly) (member : c ∈ n.children) : c.Orderly where
  fields := (forall_mem_preorder.1 h.fields).2 c member
  atoms := (forall_mem_preorder.1 h.atoms).2 c member

theorem field_of_isComment (h : n.Orderly) (comment : n.isComment = true) : n.field = none :=
  (forall_mem_preorder.1 h.fields).1 comment

theorem children_of_atomic (h : n.Orderly) (atomic : n.kind ∈ atomicKinds) : n.children = [] :=
  (forall_mem_preorder.1 h.atoms).1 atomic

theorem withoutComments_of_atomic (h : n.Orderly) (atomic : n.kind ∈ atomicKinds) :
    n.withoutComments = n :=
  withoutComments_of_leaf (h.children_of_atomic atomic)

end Orderly

/-- A selection that leaves comments out selects the same nodes without them. -/
theorem filter_dropComments {ns : List Node} {p : Node → Bool}
    (same : ∀ n ∈ ns, p n.withoutComments = p n)
    (passes : ∀ n ∈ ns, n.isComment = true → p n = false) :
    (dropComments ns).filter p = (ns.filter p).map withoutComments := by
  induction ns with
  | nil => rfl
  | cons n ns ih =>
    obtain ⟨sameFirst, sameRest⟩ := List.forall_mem_cons.1 same
    obtain ⟨first, rest⟩ := List.forall_mem_cons.1 passes
    rw [dropComments]
    cases comment : n.isComment with
    | true =>
      rw [if_pos rfl, ih sameRest rest, List.filter_cons, first comment,
        if_neg Bool.false_ne_true]
    | false =>
      rw [if_neg Bool.false_ne_true, List.filter_cons, List.filter_cons, sameFirst,
        ih sameRest rest]
      cases p n <;> rfl

theorem filter_kind_dropComments {p : String → Bool} (other : p "comment" = false)
    (ns : List Node) :
    (dropComments ns).filter (fun n => p n.kind) =
      (ns.filter fun n => p n.kind).map withoutComments := by
  refine filter_dropComments (fun n _ => by rw [kind_withoutComments]) fun n _ comment => ?_
  rw [isComment_iff.1 comment, other]

/-- A search that passes over comments finds the same node without them. -/
theorem find?_dropComments {ns : List Node} {p : Node → Bool}
    (same : ∀ n ∈ ns, p n.withoutComments = p n)
    (passes : ∀ n ∈ ns, n.isComment = true → p n = false) :
    (dropComments ns).find? p = (ns.find? p).map withoutComments := by
  rw [← List.head?_filter, filter_dropComments same passes, List.head?_map, List.head?_filter]

/-- Nodes that yield nothing for comments yield the same without them. -/
theorem flatMap_dropComments {α : Type} {ns : List Node} {f : Node → List α}
    (same : ∀ n ∈ ns, f n.withoutComments = f n)
    (passes : ∀ n ∈ ns, n.isComment = true → f n = []) :
    (dropComments ns).flatMap f = ns.flatMap f := by
  induction ns with
  | nil => rfl
  | cons n ns ih =>
    obtain ⟨sameFirst, sameRest⟩ := List.forall_mem_cons.1 same
    obtain ⟨first, rest⟩ := List.forall_mem_cons.1 passes
    rw [dropComments]
    cases comment : n.isComment with
    | true => rw [if_pos rfl, ih sameRest rest, List.flatMap_cons, first comment, List.nil_append]
    | false =>
      rw [if_neg Bool.false_ne_true, List.flatMap_cons, List.flatMap_cons, sameFirst,
        ih sameRest rest]

theorem childByField?_withoutComments {n : Node} (h : n.Orderly) (name : String) :
    n.withoutComments.childByField? name = (n.childByField? name).map withoutComments := by
  rw [childByField?, children_withoutComments]
  refine find?_dropComments (fun c _ => by rw [field_withoutComments]) fun c member comment => ?_
  rw [(h.child member).field_of_isComment comment]
  rfl

theorem childOfKind?_withoutComments (n : Node) {kind : String} (other : kind ≠ "comment") :
    n.withoutComments.childOfKind? kind = (n.childOfKind? kind).map withoutComments := by
  rw [childOfKind?, children_withoutComments]
  refine find?_dropComments (fun c _ => by rw [kind_withoutComments]) fun c _ comment => ?_
  simpa [isComment_iff.1 comment] using other.symm

/-- A child of an atomic kind has no comments to lose. -/
theorem childOfKind?_withoutComments_of_atomic {n : Node} (h : n.Orderly) {kind : String}
    (atomic : kind ∈ atomicKinds) (other : kind ≠ "comment") :
    n.withoutComments.childOfKind? kind = n.childOfKind? kind := by
  rw [childOfKind?_withoutComments n other]
  cases found : n.childOfKind? kind with
  | none => rfl
  | some c =>
    have ofKind : c.kind = kind := by simpa using List.find?_some found
    have orderly := h.child (List.mem_of_find?_eq_some found)
    rw [Option.map_some, orderly.withoutComments_of_atomic (ofKind ▸ atomic)]

theorem hasChildOfKind_withoutComments (n : Node) {kind : String} (other : kind ≠ "comment") :
    n.withoutComments.hasChildOfKind kind = n.hasChildOfKind kind := by
  rw [hasChildOfKind, childOfKind?_withoutComments n other, Option.isSome_map]
  rfl

theorem namedChildren_withoutComments (n : Node) :
    n.withoutComments.namedChildren = dropComments n.namedChildren := by
  rw [namedChildren, namedChildren, children_withoutComments, dropComments_eq_map,
    dropComments_eq_map, List.filter_map, List.filter_filter, List.filter_filter]
  congr 1
  apply List.filter_congr
  intro c _
  rw [Function.comp_apply, named_withoutComments, Bool.and_comm]

/-- Comments are no statements. -/
theorem statements_withoutComments (n : Node) :
    n.withoutComments.statements = n.statements.map withoutComments := by
  rw [statements, children_withoutComments]
  refine filter_dropComments (fun c _ => by rw [named_withoutComments, kind_withoutComments])
    fun c _ comment => ?_
  rw [isComment_iff.1 comment]
  simp [nonStatementKinds]

mutual

/-- Whether a kind other than that of comments occurs does not depend on comments. -/
theorem any_withoutComments {kind : String} (other : kind ≠ "comment") :
    ∀ {n : Node}, n.Orderly →
      n.withoutComments.any (fun m => m.kind == kind) = n.any fun m => m.kind == kind
  | mk own named field span text children, h => by
    have below : ∀ c ∈ children, c.Orderly := fun c member => h.child member
    rw [any_eq, any_eq, kind_withoutComments, children_withoutComments, children_mk,
      any_dropComments other below]

theorem any_dropComments {kind : String} (other : kind ≠ "comment") :
    ∀ {ns : List Node}, (∀ n ∈ ns, n.Orderly) →
      ((dropComments ns).any fun n => n.any fun m => m.kind == kind) =
        ns.any fun n => n.any fun m => m.kind == kind
  | [], _ => rfl
  | n :: ns, h => by
    obtain ⟨first, rest⟩ := List.forall_mem_cons.1 h
    rw [dropComments, List.any_cons, ← any_dropComments other rest]
    cases comment : n.isComment with
    | true =>
      -- A comment is of no other kind, and nothing lies beneath it.
      have leaf := first.children_of_atomic (by rw [isComment_iff.1 comment]; decide)
      rw [if_pos rfl, any_eq n, leaf, isComment_iff.1 comment]
      simp [other.symm]
    | false =>
      rw [if_neg Bool.false_ne_true, List.any_cons, any_withoutComments other first]

end

end Introspect.Syntax.Node
