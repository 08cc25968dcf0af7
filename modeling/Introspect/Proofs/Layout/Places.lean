import Introspect.Grammar.Source
import Introspect.Proofs.Syntax.Preorder
import Introspect.Proofs.Layout.Tokens

/-! # Places in a list of statements

Where a node stands among statements, in terms of the tokens before it:

* `Place`, `Place.child?` — a node with the tokens before it, and the step to one of its children;
* `Stands` — the places that these steps reach from the members of a list;
* `Stands.tokens` — the tokens of the list are those before a place, its own and those behind it;
* `Stands.exists_leaf` — every token is that of a leaf at some place;
* `Stands.of_preorder` — what holds at all nodes of a tree holds at all places in it.
-/

namespace Introspect.Layout

open Introspect.Syntax

/-- A node among others: the tokens before it, and the kind of the node that holds it. -/
structure Place where
  before : List Token
  parent : String
  node : Node

namespace Place

def tokens (p : Place) : List Token := tokensIn p.parent p.node

def listed? (ns : List Node) (i : Nat) : Option Place :=
  ns[i]?.map fun n => ⟨tokensInAll "" (ns.take i), "", n⟩

/-- The place of a child.  The walk for tokens goes neither into comments nor into leaves. -/
def child? (p : Place) (i : Nat) : Option Place :=
  if p.node.isComment || p.node.leafText.isSome then none
  else p.node.children[i]?.map fun c =>
    ⟨p.before ++ tokensInAll p.node.kind (p.node.children.take i), p.node.kind, c⟩

/-- The place at the end of a path of positions. -/
def follow? (p : Place) (path : List Nat) : Option Place := path.foldlM child? p

theorem eq_of_listed? {n : Node} {i : Nat} {p : Place} (found : listed? [n] i = some p) :
    p = ⟨[], "", n⟩ := by
  cases i with
  | zero => exact (Option.some.inj found).symm
  | succ i => cases found

theorem child?_eq_some_iff {p c : Place} {i : Nat} :
    p.child? i = some c ↔
      (p.node.isComment = false ∧ p.node.leafText = none) ∧ p.node.children[i]? = some c.node ∧
        c.parent = p.node.kind ∧
        c.before = p.before ++ tokensInAll p.node.kind (p.node.children.take i) := by
  obtain ⟨before, parent, n⟩ := c
  unfold child?
  split
  · rename_i closed
    simp only [Bool.or_eq_true, Option.isSome_iff_ne_none] at closed
    simp only [reduceCtorEq, false_iff]
    rintro ⟨⟨code, inner⟩, -⟩
    rcases closed with comment | leaf
    · rw [code] at comment
      contradiction
    · exact leaf inner
  · rename_i opened
    simp only [Bool.or_eq_true, not_or, Bool.not_eq_true, Option.isSome_eq_false_iff,
      Option.isNone_iff_eq_none] at opened
    simp only [opened, Option.map_eq_some_iff, Place.mk.injEq, true_and, and_true]
    grind

end Place

/-! ## Cutting tokens at a node -/

theorem tokensInAll_take_drop (parent : String) (ns : List Node) (i : Nat) :
    tokensInAll parent (ns.take i) ++ tokensInAll parent (ns.drop i) = tokensInAll parent ns := by
  simp only [tokensInAll_eq_flatMap, ← List.flatMap_append, List.take_append_drop]

theorem tokensInAll_split (parent : String) {ns : List Node} {i : Nat} {n : Node}
    (found : ns[i]? = some n) :
    tokensInAll parent ns = tokensInAll parent (ns.take i) ++ tokensIn parent n ++
      tokensInAll parent (ns.drop (i + 1)) := by
  obtain ⟨inside, rfl⟩ := List.getElem?_eq_some_iff.1 found
  rw [← tokensInAll_take_drop parent ns i, List.drop_eq_getElem_cons inside, tokensInAll,
    List.append_assoc]

theorem exists_child_of_cut {parent : String} {ns : List Node} {before after : List Token}
    {t : Token} (cut : tokensInAll parent ns = before ++ t :: after) :
    ∃ i n inner rest, ns[i]? = some n ∧ tokensIn parent n = inner ++ t :: rest ∧
      before = tokensInAll parent (ns.take i) ++ inner := by
  induction ns generalizing before with
  | nil => simp [tokensInAll] at cut
  | cons n ns ih =>
    rw [tokensInAll] at cut
    -- The token lies in the first node, or behind all of it.
    rcases List.append_eq_append_iff.1 cut with ⟨front, rfl, later⟩ | ⟨back, first, here⟩
    · obtain ⟨i, m, inner, rest, found, tokens, rfl⟩ := ih later
      exact ⟨i + 1, m, inner, rest, found, tokens, by simp [tokensInAll]⟩
    · cases back with
      | nil =>
        have later : tokensInAll parent ns = [] ++ t :: after := by simpa using here.symm
        obtain ⟨i, m, inner, rest, found, tokens, empty⟩ := ih later
        refine ⟨i + 1, m, inner, rest, found, tokens, ?_⟩
        rw [List.take_succ_cons, tokensInAll, List.append_assoc, ← empty, first, List.append_nil,
          List.append_nil]
      | cons u back =>
        rw [List.cons_append, List.cons.injEq] at here
        obtain ⟨rfl, -⟩ := here
        exact ⟨0, n, before, back, rfl, first, by simp [tokensInAll]⟩

/-! ## Places that can be reached -/

/-- A place in one of the trees, at whatever depth. -/
inductive Stands (ns : List Node) : Place → Prop where
  | listed {i : Nat} {p : Place} (found : Place.listed? ns i = some p) : Stands ns p
  | child {p c : Place} {i : Nat} (above : Stands ns p) (found : p.child? i = some c) : Stands ns c

namespace Stands

variable {ns : List Node} {p : Place}

theorem root (n : Node) : Stands [n] ⟨[], "", n⟩ := .listed (i := 0) rfl

theorem follow {q : Place} {path : List Nat} (stands : Stands ns p)
    (found : p.follow? path = some q) : Stands ns q := by
  induction path generalizing p with
  | nil =>
    cases found
    exact stands
  | cons i path ih =>
    obtain ⟨c, isChild, rest⟩ := Option.bind_eq_some_iff.1 found
    exact ih (stands.child isChild) rest

/-- The tokens of all trees are those before a place, its own and those behind it. -/
theorem tokens (stands : Stands ns p) :
    ∃ after, ns.flatMap tokensOf = p.before ++ p.tokens ++ after := by
  rw [flatMap_tokensOf]
  induction stands with
  | listed found =>
    obtain ⟨n, isMember, rfl⟩ := Option.map_eq_some_iff.1 found
    exact ⟨_, tokensInAll_split "" isMember⟩
  | @child p c i above found ih =>
    obtain ⟨after, whole⟩ := ih
    obtain ⟨⟨code, inner⟩, isChild, kind, front⟩ := Place.child?_eq_some_iff.1 found
    -- The tokens of the node above fall apart at the child.
    refine ⟨tokensInAll p.node.kind (p.node.children.drop (i + 1)) ++ after, ?_⟩
    rw [whole, front, Place.tokens, Place.tokens, kind, tokensIn_of_inner p.parent code inner,
      tokensInAll_split _ isChild]
    simp only [List.append_assoc]

/-- A token of a node is that of a leaf beneath it, behind the tokens before it. -/
theorem exists_leaf {p : Place} (stands : Stands ns p) {before after : List Token} {t : Token}
    (cut : p.tokens = before ++ t :: after) :
    ∃ q, Stands ns q ∧ q.before = p.before ++ before ∧ q.parent = t.parent ∧ q.tokens = [t] := by
  cases comment : p.node.isComment with
  | true => simp [Place.tokens, tokensIn_of_comment _ comment] at cut
  | false =>
    cases leaf : p.node.leafText with
    | some text =>
      have single := cut
      rw [Place.tokens, tokensIn_of_leaf _ comment leaf] at single
      split at single
      · simp at single
      · obtain ⟨rfl, rfl, rfl⟩ : before = [] ∧ t = ⟨p.parent, text⟩ ∧ after = [] := by
          cases before <;> simp_all
        exact ⟨p, stands, by simp, rfl, cut⟩
    | none =>
      rw [Place.tokens, tokensIn_of_inner _ comment leaf] at cut
      -- The token lies in one of the children, and there the search goes on.
      obtain ⟨i, n, inner, rest, found, tokens, rfl⟩ := exists_child_of_cut cut
      have isChild := (Place.child?_eq_some_iff (c := ⟨_, _, n⟩)).2
        ⟨⟨comment, leaf⟩, found, rfl, rfl⟩
      obtain ⟨q, below, position, parent, own⟩ := exists_leaf (stands.child isChild) tokens
      exact ⟨q, below, by rw [position, List.append_assoc], parent, own⟩
termination_by sizeOf p.node
decreasing_by
  have smaller := List.sizeOf_lt_of_mem (List.mem_of_getElem? found)
  have children := p.node.sizeOf_children_lt
  simp_wf
  omega

theorem of_preorder {n : Node} (stands : Stands [n] p) {P : Node → Prop}
    (all : ∀ m ∈ n.preorder, P m) : P p.node := by
  have beneath : ∀ m ∈ p.node.preorder, P m := by
    induction stands with
    | listed found =>
      obtain rfl := Place.eq_of_listed? found
      exact all
    | child above found ih =>
      obtain ⟨-, isChild, -⟩ := Place.child?_eq_some_iff.1 found
      exact (Node.forall_mem_preorder.1 ih).2 _ (List.mem_of_getElem? isChild)
  exact (Node.forall_mem_preorder.1 beneath).1

end Stands

/-! ## Statements of a text -/

/-- The statements of a text, as the grammar gives them. -/
def statementsOf (text : String) : List Node :=
  match Grammar.parseNode text "" with
  | .ok program => program.statements
  | .error _ => []

end Introspect.Layout
