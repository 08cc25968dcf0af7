import Introspect.Proofs.Layout.LeafTexts
import Introspect.Proofs.Reflection.BodyReplacement
import Introspect.Proofs.Reflection.Declared
import Introspect.Proofs.Syntax.Reconstruction

/-! # Nodes that can be had

Nodes are copied out of parse trees, put together anew, and given other bodies, by themselves or as
parts of functions that a lookup has found:

* `Reachable`, `Held` — nodes and functions behind any number of such steps, where some writes into
  nodes by themselves may be ruled out;
* `Reachable.tidy`, `Held.tidy` — where bodies take what is written into them, each step keeps nodes
  tidy, and functions open besides;
* `Reachable.walks_agree` — the tokens of a node are its leaf texts without those of comments;
* `Reachable.walks_disagree` — they are not behind a write into an expression that is a body.
-/

namespace Introspect

open Introspect.Syntax

/-! ## Steps -/

mutual

/-- The nodes behind any number of copies, descents to children, clones, and writes into bodies, be
it as parts of a function or, where such a write is allowed for, by themselves. -/
inductive Reachable (allowed : Node → List Node → Prop) : Node → Prop
  | copied (source : String) (t : ParseTree) : Reachable allowed (Node.ofTree source t)
  | child {n c : Node} : Reachable allowed n → c ∈ n.children → Reachable allowed c
  | cloned {n : Node} : Reachable allowed n → Reachable allowed n.rebuild
  | written {n : Node} {ss : List Node} : Reachable allowed n → allowed n ss →
      (∀ s ∈ ss, Reachable allowed s) → Reachable allowed (n.overwriteBody ss).2
  | held {f : Function} : Held allowed f → Reachable allowed f.node

/-- The functions behind a lookup and any number of clones and of calls that replace their bodies.  A
closure that lends its body may be any node that is reachable. -/
inductive Held (allowed : Node → List Node → Prop) : Function → Prop
  | declared {f : Function} : f.Declared → Held allowed f
  | cloned {f : Function} : Held allowed f → Held allowed { f with node := f.node.rebuild }
  | called {f : Function} {r : Replacement} : Held allowed f →
      (∀ n, r = .closure n → Reachable allowed n) → Held allowed (f.afterCall r)

end

/-- Every write goes. -/
def anyWrite : Node → List Node → Prop := fun _ _ => True

/-! ## What the steps begin with -/

section

variable {allowed : Node → List Node → Prop}

theorem Reachable.beneath (n : Node) (reachable : Reachable allowed n) :
    ∀ m ∈ n.preorder, Reachable allowed m := by
  rw [Node.forall_mem_preorder]
  exact ⟨reachable, fun c child => Reachable.beneath c (reachable.child child)⟩
termination_by sizeOf n
decreasing_by
  have below := List.sizeOf_lt_of_mem child
  have inner := n.sizeOf_children_lt
  omega

theorem exists_tree_of_parseNode {text origin : String} {n : Node}
    (read : Grammar.parseNode text origin = .ok n) : ∃ t, n = Node.ofTree text t := by
  unfold Grammar.parseNode at read
  cases parsed : Grammar.parse text origin with
  | error failure =>
    rw [parsed] at read
    cases read
  | ok parsed' =>
    rw [parsed] at read
    cases read
    exact ⟨_, rfl⟩

theorem Reachable.ofText {text origin : String} {n : Node}
    (read : Grammar.parseNode text origin = .ok n) : Reachable allowed n := by
  obtain ⟨t, rfl⟩ := exists_tree_of_parseNode read
  exact .copied text t

end

/-- The statements of a replacement are children of nodes, be these copied from a parse tree or taken
from its closure. -/
theorem Replacement.forall_mem_statements (r : Replacement) {p : Node → Prop}
    (ofText : ∀ {text origin n}, Grammar.parseNode text origin = .ok n → p n)
    (child : ∀ {n c}, p n → c ∈ n.children → p c) (closures : ∀ n, r = .closure n → p n)
    {ss : List Node} (read : r.statements = .ok ss) : ∀ s ∈ ss, p s := by
  have statement {block s : Node} (whole : p block) (member : s ∈ block.statements) : p s :=
    child whole (List.mem_filter.1 member).1
  unfold statements at read
  split at read
  · split at read
    · rename_i program parsed
      cases read
      exact fun s => statement (ofText parsed)
    · cases read
  · rename_i n
    split at read
    · split at read
      · rename_i body isBody
        cases read
        exact fun s => statement (child (closures n rfl) (Node.mem_of_childByField? isBody).1)
      · cases read
    · cases read

/-! ## One step -/

theorem tidy_of_parseNode {text origin : String} {n : Node}
    (read : Grammar.parseNode text origin = .ok n) : n.Tidy := by
  obtain ⟨t, rfl⟩ := exists_tree_of_parseNode read
  rw [Node.ofTree_eq_copy]
  exact Node.tidy_copy text none t

theorem Function.tidy_of_declared {f : Function} (declared : f.Declared) : f.node.Tidy := by
  obtain ⟨source, t, copied, -⟩ := exists_copiedFrom_of_declared declared
  obtain ⟨field, node⟩ := copied.ofCopy
  rw [node]
  exact Node.tidy_copy source.text field t

/-- A call leaves a function tidy and open, whether it goes through or not. -/
theorem Function.tidy_afterCall {f : Function} {r : Replacement} (tidy : f.node.Tidy)
    (opened : f.node.OpenBody) (closures : ∀ n, r = .closure n → n.Tidy) :
    (f.afterCall r).node.Tidy ∧ (f.afterCall r).node.OpenBody := by
  rw [afterCall_eq]
  cases called : f.replaceBody r with
  | error e => exact ⟨tidy, opened⟩
  | ok g =>
    obtain ⟨m, replacedNode, rfl⟩ := replaceBody_eq_ok called
    obtain ⟨ss, read, replaced⟩ := replaceBody?_of_replacedNode replacedNode
    have parts := r.forall_mem_statements tidy_of_parseNode Node.Tidy.child closures read
    exact Node.tidy_of_replaceBody? tidy opened parts replaced

/-! ## Any number of steps -/

mutual

theorem Reachable.tidy : ∀ {n : Node}, Reachable Node.TakesStatements n → n.Tidy
  | _, .copied source t => by
    rw [Node.ofTree_eq_copy]
    exact Node.tidy_copy source none t
  | _, .child reachable member => reachable.tidy.child member
  | _, .cloned reachable => by
    rw [(Node.rebuild_eq_self _).1]
    exact reachable.tidy
  | _, .written reachable takes parts =>
    Node.tidy_overwriteBody reachable.tidy takes fun s member => (parts s member).tidy
  | _, .held held => held.tidy.1

theorem Held.tidy :
    ∀ {f : Function}, Held Node.TakesStatements f → f.node.Tidy ∧ f.node.OpenBody
  | _, .declared declared =>
    ⟨Function.tidy_of_declared declared, Function.openBody_of_declared declared⟩
  | _, .cloned held => by
    rw [(Node.rebuild_eq_self _).1]
    exact held.tidy
  | _, .called held closures =>
    Function.tidy_afterCall held.tidy.1 held.tidy.2 fun n same => (closures n same).tidy

end

/-- All nodes behind copies, clones, replaced bodies of functions, and writes into bodies that take
them have texts at their leaves only.  Of such a node the tokens have the leaf texts without those of
comments, in the same order; and without comments, its text is made up of the texts of its tokens.
One more write leaves texts at the leaves exactly where the body takes what is written. -/
theorem Reachable.walks_agree {n : Node} (reachable : Reachable Node.TakesStatements n) :
    (∀ m ∈ n.preorder, m.leafText.isSome = true → m.children = []) ∧
    (Layout.tokensOf n).map Layout.Token.text = n.codeLeafTexts ∧
    (n.CommentFree →
      n.text = Text.joinWith " " ((Layout.tokensOf n).map Layout.Token.text)) ∧
    ∀ ss, (∀ s ∈ ss, Reachable Node.TakesStatements s) →
      ((∀ m ∈ (n.overwriteBody ss).2.preorder, m.leafText.isSome = true → m.children = []) ↔
        n.TakesStatements ss) :=
  ⟨reachable.tidy.texts, Layout.map_text_tokensOf reachable.tidy,
    Layout.text_eq_joinWith reachable.tidy, fun _ parts =>
      Node.texts_overwriteBody_iff reachable.tidy fun s member => (parts s member).tidy⟩

/-- A body with a comment that is no statement by itself. -/
def commentedBody : Replacement := .code "if (1) \x7b/* b */ g();\x7d"

/-- Before its body is replaced the function has no comment, and behind it has one.  The node by
itself takes the same statements. -/
theorem Reachable.walks_agree_commented :
    ∃ f ss, functionIn? "<?php function f()\x7breturn 1;\x7d" "f" = some f ∧
      commentedBody.statements = .ok ss ∧ ss ≠ [] ∧ f.node.CommentFree ∧
      f.node.text = "function f ( ) \x7b return 1 ; \x7d" ∧
      ¬(f.afterCall commentedBody).node.CommentFree ∧
      (Layout.tokensOf (f.afterCall commentedBody).node).map Layout.Token.text =
        ["function", "f", "(", ")", "\x7b", "if", "(", "1", ")", "\x7b", "g", "(", ")", ";", "\x7d",
          "\x7d"] ∧
      f.node.TakesStatements ss ∧
      ∀ m ∈ (f.node.overwriteBody ss).2.preorder, m.leafText.isSome = true → m.children = [] := by
  have checked : ((functionIn? "<?php function f()\x7breturn 1;\x7d" "f").any fun f =>
      f.node.CommentFree && (Layout.tokensOf f.node).map Layout.Token.text ==
        ["function", "f", "(", ")", "\x7b", "return", "1", ";", "\x7d"] &&
      !decide (f.afterCall commentedBody).node.CommentFree &&
      (f.afterCall commentedBody).node.codeLeafTexts == ["function", "f", "(", ")", "\x7b", "if",
        "(", "1", ")", "\x7b", "g", "(", ")", ";", "\x7d", "\x7d"]) = true := by
    decide +kernel
  have written : (commentedBody.statements.toOption.any fun ss => !ss.isEmpty) = true := by
    decide +kernel
  obtain ⟨f, found, checked⟩ := (Option.any_eq_true _ _).1 checked
  simp only [Bool.and_eq_true, decide_eq_true_eq, beq_iff_eq, Bool.not_eq_true',
    decide_eq_false_iff_not] at checked
  obtain ⟨⟨⟨free, tokens⟩, commented⟩, texts⟩ := checked
  obtain ⟨ss, read, nonempty⟩ := (Option.any_eq_true _ _).1 written
  have read := eq_ok_of_toOption read
  have held : Held Node.TakesStatements f :=
    .declared (Function.declared_of_resolveOne (resolveOne_of_functionIn? found))
  -- Code takes nothing from any node.
  have noClosure (n : Node) (other : commentedBody = .closure n) :
      Reachable Node.TakesStatements n := by
    cases other
  have called : Held Node.TakesStatements (f.afterCall commentedBody) := .called held noClosure
  obtain ⟨-, -, whole, writes⟩ := Reachable.walks_agree (.held held)
  have takes : f.node.TakesStatements ss := .inl held.tidy.2
  have parts := commentedBody.forall_mem_statements Reachable.ofText Reachable.child noClosure read
  refine ⟨f, ss, found, read, by simpa using nonempty, free, ?_, commented, ?_, takes,
    (writes ss parts).2 takes⟩
  · rw [whole free, tokens]
    decide
  · rw [(Reachable.walks_agree (.held called)).2.1, texts]

/-- The body of an arrow function is one expression, here one leaf.  A write finds it nevertheless,
and puts statements beneath the leaf, where the tokens do not see them. -/
theorem Reachable.walks_disagree :
    ∃ program n ss, Grammar.parseNode "<?php $f = fn() => 1;" "" = .ok program ∧
      n ∈ program.preorder ∧ n.kind = "arrow_function" ∧
      (Replacement.code "return 2;").statements = .ok ss ∧ (n.overwriteBody ss).1 = true ∧
      let m := (n.overwriteBody ss).2
      Reachable anyWrite m ∧ m.CommentFree ∧
      (∃ body ∈ m.preorder, body.leafText = some "1" ∧ body.children ≠ []) ∧
      m.codeLeafTexts = ["fn", "(", ")", "=>", "1", "return", "2", ";"] ∧
      m.text = "fn ( ) => 1 return 2 ;" ∧
      (Layout.tokensOf m).map Layout.Token.text = ["fn", "(", ")", "=>", "1"] ∧
      Text.joinWith " " ((Layout.tokensOf m).map Layout.Token.text) = "fn ( ) => 1" := by
  have checked : ((Grammar.parseNode "<?php $f = fn() => 1;" "").toOption.any fun program =>
      (program.preorder.find? fun n => n.kind == "arrow_function").any fun n =>
      (Replacement.code "return 2;").statements.toOption.any fun ss =>
        let m := (n.overwriteBody ss).2
        (n.overwriteBody ss).1 && decide m.CommentFree &&
        (m.preorder.any fun body => body.leafText == some "1" && !body.children.isEmpty) &&
        m.codeLeafTexts == ["fn", "(", ")", "=>", "1", "return", "2", ";"] &&
        m.text == "fn ( ) => 1 return 2 ;" &&
        (Layout.tokensOf m).map Layout.Token.text == ["fn", "(", ")", "=>", "1"]) = true := by
    decide +kernel
  obtain ⟨program, parsed, checked⟩ := (Option.any_eq_true _ _).1 checked
  obtain ⟨n, found, checked⟩ := (Option.any_eq_true _ _).1 checked
  obtain ⟨ss, read, checked⟩ := (Option.any_eq_true _ _).1 checked
  simp only [Bool.and_eq_true, decide_eq_true_eq, beq_iff_eq, List.any_eq_true, Bool.not_eq_true',
    List.isEmpty_eq_false_iff] at checked
  obtain ⟨⟨⟨⟨⟨wrote, free⟩, body⟩, leaves⟩, text⟩, tokens⟩ := checked
  have parsed := eq_ok_of_toOption parsed
  have read := eq_ok_of_toOption read
  have beneath : n ∈ program.preorder := List.mem_of_find?_eq_some found
  have isArrow : n.kind = "arrow_function" := by simpa using List.find?_some found
  have reachable : Reachable anyWrite n := (Reachable.ofText parsed).beneath program n beneath
  have parts : ∀ s ∈ ss, Reachable anyWrite s :=
    (Replacement.code "return 2;").forall_mem_statements Reachable.ofText Reachable.child
      (fun _ other => by cases other) read
  refine ⟨program, n, ss, parsed, beneath, isArrow, read, wrote, .written reachable trivial parts,
    free, body, leaves, text, tokens, ?_⟩
  rw [tokens]
  decide

end Introspect
