import Introspect.Proofs.Layout.Tokens
import Introspect.Proofs.Syntax.Body
import Introspect.Proofs.Syntax.Leaves

/-! # Leaf texts and tokens

The text of a node is put together from all texts beneath it, comments included.  Its tokens are
collected by another walk, which goes no further down where it finds a text or a comment.  The two
agree on nodes that have texts at their leaves only:

* `Tidy` — texts stand at leaves, comments among them;
* `tidy_copy`, `tidy_of_replaceBody?` — copies are tidy, and so is a node with other statements in
  its body, unless the body is kept as one leaf;
* `TakesStatements`, `texts_overwriteBody_iff` — where it is one leaf, every statement that is written
  into it leaves a text above the leaves;
* `codeLeafTexts` — the leaf texts that belong to no comment;
* `map_text_tokensOf`, `text_eq_joinWith` — the tokens have these texts, and without comments they
  have all.
-/

namespace Introspect

open Introspect.Syntax

namespace Syntax.Node

/-! ## Tidy nodes -/

/-- At the node and beneath it, only leaves have a text, and every comment has one. -/
structure Tidy (n : Node) : Prop where
  texts : ∀ m ∈ n.preorder, m.leafText.isSome = true → m.children = []
  comments : ∀ m ∈ n.preorder, m.isComment = true → m.leafText.isSome = true

theorem tidy_iff (n : Node) :
    n.Tidy ↔ (n.leafText.isSome = true → n.children = []) ∧
      (n.isComment = true → n.leafText.isSome = true) ∧ ∀ c ∈ n.children, c.Tidy := by
  constructor
  · rintro ⟨texts, comments⟩
    rw [forall_mem_preorder] at texts comments
    exact ⟨texts.1, comments.1, fun c child => ⟨texts.2 c child, comments.2 c child⟩⟩
  · rintro ⟨text, comment, below⟩
    exact ⟨forall_mem_preorder.2 ⟨text, fun c child => (below c child).texts⟩,
      forall_mem_preorder.2 ⟨comment, fun c child => (below c child).comments⟩⟩

theorem Tidy.child {n c : Node} (tidy : n.Tidy) (member : c ∈ n.children) : c.Tidy :=
  ((tidy_iff n).1 tidy).2.2 c member

theorem Tidy.not_comment_of_inner {n : Node} (tidy : n.Tidy) (inner : n.leafText = none) :
    n.isComment = false := by
  rw [← Bool.not_eq_true]
  intro comment
  have text := ((tidy_iff n).1 tidy).2.1 comment
  rw [inner] at text
  cases text

theorem Tidy.inner_of_child {n c : Node} (tidy : n.Tidy) (member : c ∈ n.children) :
    n.leafText = none := by
  rw [← Option.not_isSome_iff_eq_none]
  intro text
  rw [((tidy_iff n).1 tidy).1 text] at member
  cases member

mutual

theorem tidy_copy (source : String) (field : Option String) : ∀ t, (copy source field t).Tidy
  | .node kind named own extent children => by
    rw [tidy_iff, copy]
    split
    · simp
    · rename_i inner
      -- A comment is of an atomic kind, and so it is a leaf.
      have code : (mk kind named field (some extent.span) none
          (copyAll source children)).isComment = false := by
        rw [isComment, kind_mk, beq_eq_false_iff_ne]
        rintro rfl
        exact inner (by simp [atomicKinds])
      refine ⟨by simp, by simp [code], ?_⟩
      exact tidy_copyAll source children

theorem tidy_copyAll (source : String) : ∀ ts, ∀ c ∈ copyAll source ts, c.Tidy
  | [] => by simp [copyAll]
  | t :: ts => by
    rw [copyAll, List.forall_mem_cons]
    exact ⟨tidy_copy source t.field t, tidy_copyAll source ts⟩

end

/-! ## Other statements -/

theorem isComment_withChildren (n : Node) (cs : List Node) :
    (n.withChildren cs).isComment = n.isComment := by
  rw [isComment, isComment, kind_withChildren]

theorem tidy_withChildren {n : Node} (tidy : n.Tidy) (inner : n.leafText = none) {cs : List Node}
    (parts : ∀ c ∈ cs, c.Tidy) : (n.withChildren cs).Tidy := by
  rw [tidy_iff, leafText_withChildren, isComment_withChildren, children_withChildren, inner,
    tidy.not_comment_of_inner inner]
  exact ⟨by simp, by simp, parts⟩

theorem tidy_withStatements {block : Node} (tidy : block.Tidy) (inner : block.leafText = none)
    {ss : List Node} (parts : ∀ s ∈ ss, s.Tidy) : (withStatements ss block).Tidy := by
  rw [withStatements_eq]
  refine tidy_withChildren tidy inner ?_
  have brace (c : Node) (member : c ∈ block.braces.1 ∨ c ∈ block.braces.2) : c.Tidy :=
    tidy.child (List.mem_filter.1 (mem_tokens_of_mem_braces member)).1
  rw [List.forall_mem_append, List.forall_mem_append]
  exact ⟨⟨fun c first => brace c (.inl first), parts⟩, fun c last => brace c (.inr last)⟩

/-- A tidy node takes other statements in an open body, which stays open. -/
theorem tidy_of_replaceBody? {n m : Node} {ss : List Node} (tidy : n.Tidy) (opened : n.OpenBody)
    (parts : ∀ s ∈ ss, s.Tidy) (replaced : n.replaceBody? ss = some m) : m.Tidy ∧ m.OpenBody := by
  obtain ⟨before, body, after, split, rfl⟩ := replaceBody?_eq_some_iff.1 replaced
  have inner := opened body split.body?_eq
  have children : ∀ c ∈ before ++ body :: after, c.Tidy := by
    rw [← split.children]
    exact fun c => tidy.child
  rw [List.forall_mem_append, List.forall_mem_cons] at children
  obtain ⟨before, block, after⟩ := children
  constructor
  · have isChild : body ∈ n.children := by simp [split.children]
    refine tidy_withChildren tidy (tidy.inner_of_child isChild) ?_
    rw [List.forall_mem_append, List.forall_mem_cons]
    exact ⟨before, tidy_withStatements block inner parts, after⟩
  · intro block isBlock
    rw [(split.withStatements ss).body?_eq, Option.mem_some_iff] at isBlock
    rw [← isBlock, withStatements_eq, leafText_withChildren, inner]

/-- The body takes the statements: it is not kept as one leaf, or there are none. -/
def TakesStatements (n : Node) (ss : List Node) : Prop := n.OpenBody ∨ ss = []

theorem withStatements_nil {block : Node} (childless : block.children = []) :
    withStatements [] block = block := by
  cases block
  cases childless
  rfl

theorem tidy_overwriteBody {n : Node} {ss : List Node} (tidy : n.Tidy)
    (takes : n.TakesStatements ss) (parts : ∀ s ∈ ss, s.Tidy) : (n.overwriteBody ss).2.Tidy := by
  rcases n.overwriteBody_cases ss with ⟨m, replaced, eq⟩ | ⟨-, eq⟩
  · rw [eq]
    by_cases opened : n.OpenBody
    · exact (tidy_of_replaceBody? tidy opened parts replaced).1
    · -- A body that is one leaf has no children, and gets none.
      obtain rfl := takes.resolve_left opened
      obtain ⟨before, body, after, split, rfl⟩ := replaceBody?_eq_some_iff.1 replaced
      have leaf := Option.isSome_iff_ne_none.2 (mt split.openBody_iff.2 opened)
      have isChild : body ∈ n.children := by simp [split.children]
      rw [withStatements_nil (((tidy_iff body).1 (tidy.child isChild)).1 leaf), ← split.children,
        withChildren_children]
      exact tidy
  · rw [eq]
    exact tidy

/-- Texts stay at the leaves of a tidy node exactly where its body takes the statements. -/
theorem texts_overwriteBody_iff {n : Node} {ss : List Node} (tidy : n.Tidy)
    (parts : ∀ s ∈ ss, s.Tidy) :
    (∀ m ∈ (n.overwriteBody ss).2.preorder, m.leafText.isSome = true → m.children = []) ↔
      n.TakesStatements ss := by
  refine ⟨fun texts => ?_, fun takes => (tidy_overwriteBody tidy takes parts).texts⟩
  by_cases hasBody : ∃ c ∈ n.children, c.field = some "body"
  · obtain ⟨before, body, after, split⟩ := exists_splitAtBody hasBody
    rw [split.overwriteBody_eq, forall_mem_preorder, children_withChildren] at texts
    obtain ⟨written, -⟩ := forall_mem_preorder.1 (texts.2 (withStatements ss body) (by simp))
    rw [withStatements_eq, leafText_withChildren, children_withChildren] at written
    by_cases empty : ss = []
    · exact .inr empty
    · refine .inl (split.openBody_iff.2 (Option.not_isSome_iff_eq_none.1 fun leaf => ?_))
      exact absurd (written leaf) (by simp [empty])
  · exact .inl (openBody_of_bodiless fun c member isBody => hasBody ⟨c, member, isBody⟩)

/-! ## Leaf texts -/

/-- The leaf texts under the node that are not empty and belong to no comment. -/
def codeLeafTexts (n : Node) : List String :=
  ((n.preorder.filter fun m => !m.isComment).filterMap leafText).filter (· != "")

theorem codeLeafTexts_of_commentFree {n : Node} (free : n.CommentFree) :
    n.codeLeafTexts = n.leafTexts := by
  have all : (n.preorder.filter fun m => !m.isComment) = n.preorder :=
    List.filter_eq_self.2 fun m below => by rw [free m below]; rfl
  rw [codeLeafTexts, all, leafTexts]

/-- The node itself comes first, and then what lies beneath its children. -/
theorem codeLeafTexts_eq (n : Node) :
    n.codeLeafTexts =
      (if n.isComment then [] else n.leafText.toList.filter (· != "")) ++
        n.children.flatMap codeLeafTexts := by
  have beneath (ns : List Node) : ns.flatMap codeLeafTexts =
      (((ns.flatMap preorder).filter fun m => !m.isComment).filterMap leafText).filter
        (· != "") := by
    rw [List.filter_flatMap, List.filterMap_flatMap, List.filter_flatMap]
    rfl
  rw [codeLeafTexts, preorder_eq, List.filter_cons, beneath]
  cases comment : n.isComment with
  | true => simp
  | false =>
    cases own : n.leafText with
    | none => simp [own]
    | some text => by_cases empty : text = "" <;> simp [own, empty]

end Syntax.Node

/-! ## Tokens -/

namespace Layout

mutual

theorem codeTexts_eq_codeLeafTexts : ∀ {n : Node}, n.Tidy → codeTexts n = n.codeLeafTexts
  | .mk kind named field span (some text) children, tidy => by
    have leaf : children = [] := ((Node.tidy_iff _).1 tidy).1 rfl
    rw [codeTexts, Node.codeLeafTexts_eq, leaf]
    by_cases comment : kind = "comment"
    · simp [Node.isComment, comment]
    · by_cases empty : text = "" <;> simp [Node.isComment, comment, empty]
  | .mk kind named field span none children, tidy => by
    have code : (kind == "comment") = false := tidy.not_comment_of_inner rfl
    have below : ∀ c ∈ children, c.Tidy := fun c => tidy.child
    rw [codeTexts, if_neg (by simpa using code), Node.codeLeafTexts_eq,
      codeTextsAll_eq_flatMap below]
    simp

theorem codeTextsAll_eq_flatMap :
    ∀ {ns : List Node}, (∀ n ∈ ns, n.Tidy) → codeTextsAll ns = ns.flatMap Node.codeLeafTexts
  | [], _ => rfl
  | n :: ns, tidy => by
    obtain ⟨first, rest⟩ := List.forall_mem_cons.1 tidy
    rw [codeTextsAll, codeTexts_eq_codeLeafTexts first, codeTextsAll_eq_flatMap rest,
      List.flatMap_cons]

end

theorem map_text_tokensOf {n : Node} (tidy : n.Tidy) :
    (tokensOf n).map Token.text = n.codeLeafTexts := by
  rw [tokensOf_eq_tokensIn, map_text_tokensIn, codeTexts_eq_codeLeafTexts tidy]

theorem text_eq_joinWith {n : Node} (tidy : n.Tidy) (free : n.CommentFree) :
    n.text = Text.joinWith " " ((tokensOf n).map Token.text) := by
  rw [map_text_tokensOf tidy, Node.codeLeafTexts_of_commentFree free, Node.text]

end Layout

end Introspect
