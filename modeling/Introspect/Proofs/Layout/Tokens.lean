import Introspect.Layout.Token
import Introspect.Proofs.Syntax.Comments

/-! # Tokens in document order

The tokens of a node are collected with a stack.  What is collected is the plain recursion over the
node, and of the node it sees only kinds, texts and children:

* `tokensIn`, `tokensInAll` — the tokens of a node in its parent, and of nodes side by side;
* `tokensOf_eq_tokensIn` — the walk with the stack ends with them;
* `codeTexts`, `codeTextsAll` — the texts of leaves that are neither comments nor empty;
* `tokensIn_withoutComments`, `tokensIn_bare` — comments, spans, fields and marks do not show.
-/

namespace Introspect.Layout

open Introspect.Syntax

/-! ## The walk -/

mutual

/-- The tokens of a node that stands in a node of the kind `parent`. -/
def tokensIn (parent : String) : Node → List Token
  | .mk kind _ _ _ (some text) _ =>
    if kind == "comment" || text.isEmpty then [] else [⟨parent, text⟩]
  | .mk kind _ _ _ none children => if kind == "comment" then [] else tokensInAll kind children

def tokensInAll (parent : String) : List Node → List Token
  | [] => []
  | n :: ns => tokensIn parent n ++ tokensInAll parent ns

end

theorem tokensIn_of_comment (parent : String) {n : Node} (comment : n.isComment = true) :
    tokensIn parent n = [] := by
  obtain ⟨kind, named, field, span, text, children⟩ := n
  have isComment : (kind == "comment") = true := comment
  cases text <;> simp [tokensIn, isComment]

theorem tokensIn_of_leaf (parent : String) {n : Node} {text : String}
    (code : n.isComment = false) (leaf : n.leafText = some text) :
    tokensIn parent n = if text.isEmpty then [] else [⟨parent, text⟩] := by
  obtain ⟨kind, named, field, span, own, children⟩ := n
  have noComment : (kind == "comment") = false := code
  rw [Node.leafText_mk] at leaf
  rw [leaf, tokensIn, noComment, Bool.false_or]

theorem tokensIn_of_inner (parent : String) {n : Node} (code : n.isComment = false)
    (inner : n.leafText = none) : tokensIn parent n = tokensInAll n.kind n.children := by
  obtain ⟨kind, named, field, span, own, children⟩ := n
  have noComment : (kind == "comment") = false := code
  rw [Node.leafText_mk] at inner
  rw [inner, tokensIn, noComment]
  rfl

theorem tokensInAll_eq_flatMap (parent : String) (ns : List Node) :
    tokensInAll parent ns = ns.flatMap (tokensIn parent) := by
  induction ns with
  | nil => rfl
  | cons n ns ih => rw [tokensInAll, ih, List.flatMap_cons]

/-- What a node contributes itself and what it puts on the stack are its tokens. -/
theorem own_append_opened (parent : String) (n : Node) :
    (if n.kind == "comment" then [] else ownTokens parent n) ++
        (openedBy n).flatMap (fun m => tokensIn m.2 m.1) = tokensIn parent n := by
  cases comment : n.isComment with
  | true =>
    have isComment : (n.kind == "comment") = true := comment
    simp [tokensIn_of_comment parent comment, openedBy, isComment]
  | false =>
    have noComment : (n.kind == "comment") = false := comment
    cases text : n.leafText with
    | some text =>
      simp [tokensIn_of_leaf parent comment text, openedBy, ownTokens, noComment, text]
    | none =>
      simp [tokensIn_of_inner parent comment text, tokensInAll_eq_flatMap, openedBy, ownTokens,
        noComment, text, List.flatMap_map]

theorem collect_eq (stack : List (Node × String)) (seen : List Token) :
    collect stack seen = seen.reverse ++ stack.flatMap fun m => tokensIn m.2 m.1 := by
  fun_induction collect stack seen with
  | case1 seen => simp
  | case2 seen n parent rest own ih =>
    -- A node contributes one token at most, so that reversing its part changes nothing.
    have single : own.reverse = own := by
      simp only [own, ownTokens]
      split
      · rfl
      · split
        · split <;> rfl
        · rfl
    rw [ih, List.reverse_append, single, List.flatMap_append, List.flatMap_cons,
      ← own_append_opened parent n]
    simp only [List.append_assoc]
    rfl

theorem tokensOf_eq_tokensIn (n : Node) : tokensOf n = tokensIn "" n := by
  rw [tokensOf, collect_eq]
  simp

theorem flatMap_tokensOf (ns : List Node) : ns.flatMap tokensOf = tokensInAll "" ns := by
  rw [tokensInAll_eq_flatMap, funext tokensOf_eq_tokensIn]

/-! ## Texts -/

mutual

/-- The texts under a node that belong to the code: those of leaves, in document order, without
comments and without empty ones. -/
def codeTexts : Node → List String
  | .mk kind _ _ _ (some text) _ => if kind = "comment" ∨ text = "" then [] else [text]
  | .mk kind _ _ _ none children => if kind = "comment" then [] else codeTextsAll children

def codeTextsAll : List Node → List String
  | [] => []
  | n :: ns => codeTexts n ++ codeTextsAll ns

end

mutual

theorem map_text_tokensIn (parent : String) :
    ∀ n, (tokensIn parent n).map Token.text = codeTexts n
  | .mk kind named field span (some text) children => by
    rw [tokensIn, codeTexts]
    by_cases dropped : kind = "comment" ∨ text = "" <;> simp [dropped]
  | .mk kind named field span none children => by
    rw [tokensIn, codeTexts]
    by_cases comment : kind = "comment"
    · simp [comment]
    · simpa [comment] using map_text_tokensInAll kind children

theorem map_text_tokensInAll (parent : String) :
    ∀ ns, (tokensInAll parent ns).map Token.text = codeTextsAll ns
  | [] => by rw [tokensInAll, codeTextsAll, List.map_nil]
  | n :: ns => by
    rw [tokensInAll, codeTextsAll, List.map_append, map_text_tokensIn parent n,
      map_text_tokensInAll parent ns]

end

mutual

theorem ne_empty_of_mem_codeTexts : ∀ n : Node, ∀ text ∈ codeTexts n, text ≠ ""
  | .mk kind named field span (some own) children, text, member => by
    rw [codeTexts] at member
    split at member
    · cases member
    · rename_i code
      rw [List.mem_singleton.1 member]
      exact fun empty => code (.inr empty)
  | .mk kind named field span none children, text, member => by
    rw [codeTexts] at member
    split at member
    · cases member
    · exact ne_empty_of_mem_codeTextsAll children text member

theorem ne_empty_of_mem_codeTextsAll : ∀ ns : List Node, ∀ text ∈ codeTextsAll ns, text ≠ ""
  | [], text, member => by cases member
  | n :: ns, text, member => by
    rw [codeTextsAll, List.mem_append] at member
    rcases member with first | others
    · exact ne_empty_of_mem_codeTexts n text first
    · exact ne_empty_of_mem_codeTextsAll ns text others

end

/-! ## What tokens do not see -/

mutual

theorem tokensIn_withoutComments (parent : String) :
    ∀ n : Node, tokensIn parent n.withoutComments = tokensIn parent n
  | .mk kind named field span (some text) children => by
    rw [Node.withoutComments, tokensIn, tokensIn]
  | .mk kind named field span none children => by
    rw [Node.withoutComments, tokensIn, tokensIn, tokensInAll_dropComments kind children]

theorem tokensInAll_dropComments (parent : String) :
    ∀ ns, tokensInAll parent (Node.dropComments ns) = tokensInAll parent ns
  | [] => by rw [Node.dropComments]
  | n :: ns => by
    rw [Node.dropComments, tokensInAll, ← tokensInAll_dropComments parent ns]
    cases comment : n.isComment with
    | true => rw [if_pos rfl, tokensIn_of_comment parent comment, List.nil_append]
    | false => rw [if_neg Bool.false_ne_true, tokensInAll, tokensIn_withoutComments parent n]

end

mutual

/-- The node with nothing but kinds, texts and children. -/
def bare : Node → Node
  | .mk kind _ _ _ text children => .mk kind false none none text (bareAll children)

def bareAll : List Node → List Node
  | [] => []
  | n :: ns => bare n :: bareAll ns

end

mutual

theorem tokensIn_bare (parent : String) : ∀ n, tokensIn parent (bare n) = tokensIn parent n
  | .mk kind named field span (some text) children => by rw [bare, tokensIn, tokensIn]
  | .mk kind named field span none children => by
    rw [bare, tokensIn, tokensIn, tokensInAll_bareAll kind children]

theorem tokensInAll_bareAll (parent : String) :
    ∀ ns, tokensInAll parent (bareAll ns) = tokensInAll parent ns
  | [] => by rw [bareAll]
  | n :: ns => by
    rw [bareAll, tokensInAll, tokensInAll, tokensIn_bare parent n, tokensInAll_bareAll parent ns]

end

end Introspect.Layout
