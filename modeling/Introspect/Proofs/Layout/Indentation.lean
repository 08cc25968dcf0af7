import Introspect.Proofs.Layout.CaseBodies
import Introspect.Proofs.Layout.StatementLines

/-! # Indentation behind a statement

A statement gives back the levels of its blocks, and those of its case bodies as far as a block
around them keeps account of them:

* `Wellformed` — what the grammar gives of a statement: balanced braces, and a word to every label;
* `labelsPaired_of_wellformed` — the ends of its labels have their words before them;
* `CasesInBraces`, `Stands.level_pos` — cases that stand in the braces of the node that holds them;
* `depth_behind_statement` — the depth behind a statement, from any state that can be reached.
-/

namespace Introspect.Layout

open Introspect.Syntax

/-! ## Cases -/

/-- The kinds of the cases of a choice, each with its label and its body. -/
def isCaseKind (kind : String) : Bool := kind == "case_statement" || kind == "default_statement"

/-- Where a case has a colon among its children, its label is complete before it. -/
def WellLabelled (n : Node) : Prop :=
  isCaseKind n.kind = true → ∀ i < n.children.length, ∀ c ∈ n.children[i]?,
    tokensIn n.kind c = [⟨n.kind, ":"⟩] → LabelHead (tokensInAll n.kind (n.children.take i))

/-- What the grammar gives of a statement: every node closes the braces that it opens, and every
label that ends has its word. -/
structure Wellformed (n : Node) : Prop where
  inner : n.leafText = none
  braces : ∀ m ∈ n.preorder, Balanced braceStep (tokensInAll m.kind m.children)
  labels : ∀ m ∈ n.preorder, WellLabelled m

instance (n : Node) : Decidable (WellLabelled n) :=
  inferInstanceAs (Decidable (_ → ∀ i < n.children.length, ∀ c ∈ n.children[i]?, _ → _))

instance (n : Node) : Decidable (Wellformed n) :=
  decidable_of_iff (n.leafText = none ∧
      (∀ m ∈ n.preorder, Balanced braceStep (tokensInAll m.kind m.children)) ∧
      ∀ m ∈ n.preorder, WellLabelled m)
    ⟨fun h => ⟨h.1, h.2.1, h.2.2⟩, fun h => ⟨h.inner, h.braces, h.labels⟩⟩

theorem balanced_of_wellformed {n : Node} (h : Wellformed n) : Balanced braceStep (tokensOf n) := by
  rw [tokensOf_eq_tokensIn]
  cases comment : n.isComment with
  | true =>
    rw [tokensIn_of_comment "" comment]
    exact ⟨by simp, rfl⟩
  | false =>
    rw [tokensIn_of_inner "" comment h.inner]
    exact h.braces n (by rw [Node.preorder_eq]; exact List.mem_cons_self)

/-- The end of a label is a child of its case, and so is all of the label before it. -/
theorem labelsPaired_of_wellformed {n : Node} (h : Wellformed n) : LabelsPaired (tokensOf n) := by
  intro before t after cut ends
  obtain ⟨leaf, stands, position, parent, own⟩ :=
    (Stands.root n).exists_leaf (by rw [← cut, tokensOf_eq_tokensIn]; rfl)
  rw [List.nil_append] at position
  have inLabel : t.inLabel = true := by
    simp only [Token.endsLabel, Bool.and_eq_true] at ends
    exact ends.1
  cases stands with
  | listed found =>
    -- No case holds the root.
    obtain rfl := Place.eq_of_listed? found
    rw [Token.inLabel, ← parent] at inLabel
    contradiction
  | @child holder _ i above found =>
    obtain ⟨-, isChild, kind, front⟩ := Place.child?_eq_some_iff.1 found
    have holds : t.parent = holder.node.kind := by rw [← parent, kind]
    refine ⟨holder.before, _, position.symm.trans front, ?_⟩
    refine above.of_preorder h.labels ?_ i
      (List.getElem?_eq_some_iff.1 isChild).1 leaf.node isChild ?_
    · rwa [Token.inLabel, holds] at inLabel
    · have colon : t = ⟨holder.node.kind, ":"⟩ := by
        rw [← holds, ← Token.text_of_endsLabel ends]
      rw [← kind, ← Place.tokens, own, colon, kind]

/-- No case stands outside the braces of the node that holds it. -/
structure CasesInBraces (n : Node) : Prop where
  root : isCaseKind n.kind = false
  inside : ∀ m ∈ n.preorder, ∀ i < m.children.length, ∀ c ∈ m.children[i]?,
    isCaseKind c.kind = true → 0 < level braceStep (tokensInAll m.kind (m.children.take i))

instance (n : Node) : Decidable (CasesInBraces n) :=
  decidable_of_iff (isCaseKind n.kind = false ∧
      ∀ m ∈ n.preorder, ∀ i < m.children.length, ∀ c ∈ m.children[i]?, isCaseKind c.kind = true →
        0 < level braceStep (tokensInAll m.kind (m.children.take i)))
    ⟨fun h => ⟨h.1, h.2⟩, fun h => ⟨h.root, h.inside⟩⟩

theorem balanced_take_nonneg {n : Node} (h : Wellformed n) {p : Place} (stands : Stands [n] p)
    (i : Nat) : 0 ≤ level braceStep (tokensInAll p.node.kind (p.node.children.take i)) := by
  have balanced := stands.of_preorder h.braces
  exact balanced.neverBelow _ ⟨_, tokensInAll_take_drop p.node.kind p.node.children i⟩

theorem Stands.level_nonneg {n : Node} (h : Wellformed n) {p : Place} (stands : Stands [n] p) :
    0 ≤ level braceStep p.before := by
  induction stands with
  | listed found =>
    obtain rfl := Place.eq_of_listed? found
    exact Int.le_refl 0
  | @child holder _ i above found ih =>
    have prefixLevel := balanced_take_nonneg h above i
    obtain ⟨-, -, -, front⟩ := Place.child?_eq_some_iff.1 found
    rw [front, level_append]
    omega

/-- A case and all that it holds lie in braces. -/
theorem Stands.level_pos {n : Node} (h : Wellformed n) (inBraces : CasesInBraces n) {p : Place}
    (stands : Stands [n] p) (ofCase : isCaseKind p.node.kind = true ∨ isCaseKind p.parent = true) :
    0 < level braceStep p.before := by
  -- The level grows on the way down from a case, and is positive where the first one begins.
  induction stands with
  | listed found =>
    obtain rfl := Place.eq_of_listed? found
    rw [inBraces.root] at ofCase
    simp [isCaseKind] at ofCase
  | @child holder p i above found ih =>
    obtain ⟨-, isChild, kind, front⟩ := Place.child?_eq_some_iff.1 found
    have holderLevel := above.level_nonneg h
    have prefixLevel := balanced_take_nonneg h above i
    rw [front, level_append]
    by_cases ofHolder : isCaseKind holder.node.kind = true
    · have inside := ih (.inl ofHolder)
      omega
    · -- The node that holds it is no case, so that it is one itself.
      have isCase : isCaseKind p.node.kind = true := ofCase.resolve_right (by rwa [kind])
      have inside := above.of_preorder inBraces.inside i (List.getElem?_eq_some_iff.1 isChild).1
        p.node isChild isCase
      omega

theorem unbraced_of_casesInBraces {n : Node} (h : Wellformed n) (inBraces : CasesInBraces n) :
    ∀ t ∈ unbraced (tokensOf n), t.inLabel = false := by
  intro t member
  obtain ⟨before, after, cut, outside⟩ := mem_unbracedFrom member
  obtain ⟨leaf, stands, position, parent, -⟩ :=
    (Stands.root n).exists_leaf (by rw [← cut, tokensOf_eq_tokensIn]; rfl)
  rw [Bool.eq_false_iff]
  intro inLabel
  have inside := stands.level_pos h inBraces (.inr (by rw [parent]; exact inLabel))
  rw [position, List.nil_append] at inside
  omega

/-! ## Behind a statement -/

namespace State

theorem closeFor_of_plain {s : State} {t : Token} (notClose : t.text ≠ "\x7d")
    (noWord : t.opensLabel = false) : s.closeFor t = s := by
  simp [closeFor, notClose, noWord]

theorem depth_of_line {s : State} {t : Token} (notClose : t.text ≠ "\x7d")
    (noWord : t.opensLabel = false) {depth : Nat} (line : (s.place t).1 = .line depth) :
    s.depth = depth := by
  cases last : s.last with
  | none => simp [place, closeFor, gapBefore, last] at line
  | some p =>
    have opened := (place_eq_line_iff last notClose depth).1 line
    rw [closeFor_of_plain notClose noWord] at opened
    exact opened.2

theorem line_of_begins {s : State} {p t : Token} (last : s.last = some p)
    (isEnded : s.lineEnded = true) (begins : BeginsStatement t) (noWord : t.opensLabel = false) :
    (s.place t).1 = .line s.depth := by
  have notClose : t.text ≠ "\x7d" := fun closes => begins.1 (by simp [closes])
  rw [place_eq_line_iff last notClose, closeFor_of_plain notClose noWord]
  exact ⟨⟨isEnded, begins.not_goesOn p⟩, rfl⟩

/-- Behind tokens that end a line and leave the depth alone, a line is indented as theirs was. -/
theorem line_behind {s : State} {ts : List Token} {first : Token} (isFirst : ts.head? = some first)
    (notClose : first.text ≠ "\x7d") (plain : first.opensLabel = false) {depth : Nat}
    (line : (s.place first).1 = .line depth) (sameDepth : (s.run ts).depth = s.depth)
    (isEnded : (s.run ts).lineEnded = true) {next : Token} (begins : BeginsStatement next)
    (noWord : next.opensLabel = false) : ((s.run ts).place next).1 = .line depth := by
  obtain ⟨inner, last, rfl⟩ : ∃ inner last, ts = inner ++ [last] := by
    refine (List.eq_nil_or_concat' ts).resolve_left ?_
    rintro rfl
    cases isFirst
  have lastToken : (s.run (inner ++ [last])).last = some last := by
    rw [run_append, run_cons, run_nil, place_last]
  rw [line_of_begins lastToken isEnded begins noWord, sameDepth, depth_of_line notClose plain line]

end State

/-- The depth behind a statement of the grammar, whatever tokens were placed before it.  In a block,
the statement leaves the depth as it was, but for the case body that the labels outside its own
braces open in that block or close; outside all blocks every such label raises the depth for good.
A statement all of whose cases stand in braces leaves blocks and depth alone, so that the next one
is indented as it was. -/
theorem depth_behind_statement (before : List Token) {n : Node} (h : Wellformed n) :
    let s := ({} : State).run before
    let ended := s.run (tokensOf n)
    let outside := unbraced (tokensOf n)
    (s.blocks = [] → ended.blocks = [] ∧
      ended.depth = s.depth + outside.countP Token.endsLabel) ∧
    (∀ indented rest, s.blocks = indented :: rest →
      ended.blocks = caseBehind indented outside :: rest ∧
      ended.depth + indented.toNat = s.depth + (caseBehind indented outside).toNat) ∧
    (CasesInBraces n → ended.blocks = s.blocks ∧ ended.depth = s.depth ∧
      ∀ first next depth, (tokensOf n).head? = some first → (s.place first).1 = .line depth →
        ended.lineEnded = true → BeginsStatement next → next.opensLabel = false →
          (ended.place next).1 = .line depth) := by
  intro s ended outside
  have proper := State.proper_run State.proper_start before
  have enough := State.extra_run_nonneg before
  have braces := balanced_of_wellformed h
  have labels := labelsPaired_of_wellformed h
  obtain ⟨noBlock, inBlock⟩ := State.run_depth proper enough braces labels
  refine ⟨noBlock, inBlock, fun inBraces => ?_⟩
  have quiet : ∀ t ∈ outside, t.opensLabel = false ∧ t.endsLabel = false := by
    intro t member
    have notInLabel := unbraced_of_casesInBraces h inBraces t member
    simp [Token.opensLabel, Token.endsLabel, notInLabel]
  obtain ⟨sameBlocks, sameDepth⟩ := State.run_keeps proper enough braces labels quiet
  refine ⟨sameBlocks, sameDepth, ?_⟩
  intro first next depth isFirst line isEnded begins noWord
  obtain ⟨rest, tokens⟩ := List.head?_eq_some_iff.1 isFirst
  -- The first token stands in no braces, so that it neither closes one nor opens a label.
  have notClose : first.text ≠ "\x7d" := by
    intro closes
    have below := braces.neverBelow [first] (by simp [tokens])
    simp [braceStep, closes] at below
  have plain : first.opensLabel = false :=
    (quiet first (by simp [outside, tokens, unbraced, unbracedFrom])).1
  exact State.line_behind isFirst notClose plain line sameDepth isEnded begins noWord

theorem depth_behind_switch :
    Wellformed switchNode ∧ CasesInBraces switchNode ∧
    ((({} : State).run [⟨"compound_statement", "\x7b"⟩]).run (tokensOf switchNode)).depth = 1 ∧
    (((({} : State).run [⟨"compound_statement", "\x7b"⟩]).run (tokensOf switchNode)).place
      ⟨"echo_statement", "echo"⟩).1 = .line 1 := by
  have wellformed : Wellformed switchNode := by decide +kernel
  have inBraces : CasesInBraces switchNode := by decide +kernel
  obtain ⟨-, -, givenBack⟩ := depth_behind_statement [⟨"compound_statement", "\x7b"⟩] wellformed
  obtain ⟨-, depth, next⟩ := givenBack inBraces
  refine ⟨wellformed, inBraces, depth, ?_⟩
  exact next ⟨"switch_statement", "switch"⟩ _ 1 (by decide +kernel) (by decide) (by decide +kernel)
    (by decide) (by decide)

/-- A choice without braces, and a statement behind it. -/
def colonSwitch : String := "<?php switch($a):case 1:b;endswitch;c;"

/-- Outside all blocks nobody remembers the case body, so that the statement behind the choice is
indented as if it were in it. -/
theorem depth_behind_colonSwitch :
    ∃ n ∈ (statementsOf colonSwitch).head?, Wellformed n ∧ Balanced bracketStep (tokensOf n) ∧
      (({} : State).run (tokensOf n)).depth ≠ ({} : State).depth ∧
      printStatements (statementsOf colonSwitch) =
        "switch ($a) : case 1:\n    b;\n    endswitch;\n    c;" := by
  decide +kernel

end Introspect.Layout
