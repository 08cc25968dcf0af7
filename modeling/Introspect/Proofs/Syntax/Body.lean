import Introspect.Syntax.Node

/-! # Replaced bodies

What the node with other statements in its body is, said without the search for that body:

* `SplitAtBody` — the children before the body, the body, and the children behind it;
* `overwriteBody_of_bodiless` — without a body nothing is written;
* `OpenBody` — the body is not kept as one leaf;
* `replaceBody?_eq_some_iff` — the body gets other statements, and nothing else changes;
* `statements_withStatements` — the statements of a block are those that were put into it;
* `replaceBody?_replaceBody?` — of two replacements only the second one shows.

A block keeps the first and the last of its tokens, so that its braces outlive any number of
replacements.
-/

namespace Introspect.Syntax.Node

/-! ## Blocks -/

/-- Does a block count the node among its statements? -/
def isStatement (n : Node) : Bool := n.named && !nonStatementKinds.contains n.kind

theorem statements_eq_filter (block : Node) :
    block.statements = block.children.filter isStatement := rfl

theorem isStatement_of_mem_statements {n block : Node} (h : n ∈ block.statements) :
    n.isStatement = true :=
  (List.mem_filter.1 h).2

theorem named_of_isStatement {n : Node} (h : n.isStatement = true) : n.named = true := by
  simp only [isStatement, Bool.and_eq_true] at h
  exact h.1

/-- The tokens of a block, its braces among them. -/
def tokens (block : Node) : List Node := block.children.filter fun c => !c.named

/-- The first and the last token of a block. -/
def braces (block : Node) : List Node × List Node :=
  (block.tokens.take 1, (block.tokens.drop 1).getLast?.toList)

theorem withStatements_eq (ss : List Node) (block : Node) :
    withStatements ss block = block.withChildren (block.braces.1 ++ ss ++ block.braces.2) := rfl

@[simp] theorem children_withChildren (n : Node) (cs : List Node) :
    (n.withChildren cs).children = cs := by
  cases n; rfl

@[simp] theorem withChildren_withChildren (n : Node) (cs ds : List Node) :
    (n.withChildren cs).withChildren ds = n.withChildren ds := by
  cases n; rfl

@[simp] theorem kind_withChildren (n : Node) (cs : List Node) :
    (n.withChildren cs).kind = n.kind := by
  cases n; rfl

@[simp] theorem field_withChildren (n : Node) (cs : List Node) :
    (n.withChildren cs).field = n.field := by
  cases n; rfl

@[simp] theorem leafText_withChildren (n : Node) (cs : List Node) :
    (n.withChildren cs).leafText = n.leafText := by
  cases n; rfl

@[simp] theorem span_withChildren (n : Node) (cs : List Node) :
    (n.withChildren cs).span = n.span := by
  cases n; rfl

theorem named_of_mem_tokens {block c : Node} (h : c ∈ block.tokens) : c.named = false := by
  simpa using (List.mem_filter.1 h).2

theorem mem_tokens_of_mem_braces {block c : Node} (h : c ∈ block.braces.1 ∨ c ∈ block.braces.2) :
    c ∈ block.tokens := by
  obtain first | last := h
  · exact List.mem_of_mem_take first
  · have found : (block.tokens.drop 1).getLast? = some c := by simpa [braces] using last
    exact List.mem_of_mem_drop (List.mem_of_getLast? found)

theorem named_of_mem_braces {block c : Node} (h : c ∈ block.braces.1 ∨ c ∈ block.braces.2) :
    c.named = false :=
  named_of_mem_tokens (mem_tokens_of_mem_braces h)

/-- The statements of a block are those that were put into it. -/
theorem statements_withStatements {ss : List Node} (h : ∀ s ∈ ss, s.isStatement = true)
    (block : Node) : (withStatements ss block).statements = ss := by
  have noStatement (cs : List Node) (unnamed : ∀ c ∈ cs, c.named = false) :
      cs.filter isStatement = [] := by
    rw [List.filter_eq_nil_iff]
    intro c member
    simp [isStatement, unnamed c member]
  rw [withStatements_eq, statements_eq_filter, children_withChildren, List.filter_append,
    List.filter_append, noStatement _ fun c member => named_of_mem_braces (.inl member),
    noStatement _ fun c member => named_of_mem_braces (.inr member), List.filter_eq_self.2 h]
  simp

/-- The braces of a block outlive a replacement of its statements. -/
theorem braces_withStatements {ss : List Node} (h : ∀ s ∈ ss, s.isStatement = true)
    (block : Node) : (withStatements ss block).braces = block.braces := by
  have dropped : (ss.filter fun c => !c.named) = [] := by
    rw [List.filter_eq_nil_iff]
    intro s member
    simp [named_of_isStatement (h s member)]
  have kept (cs : List Node) (unnamed : ∀ c ∈ cs, c.named = false) :
      (cs.filter fun c => !c.named) = cs := by
    rw [List.filter_eq_self]
    intro c member
    simp [unnamed c member]
  have tokens : (withStatements ss block).tokens = block.braces.1 ++ block.braces.2 := by
    rw [Node.tokens, withStatements_eq, children_withChildren, List.filter_append,
      List.filter_append, dropped, kept _ fun c member => named_of_mem_braces (.inl member),
      kept _ fun c member => named_of_mem_braces (.inr member), List.append_nil]
  -- With one token there is no last one besides the first, and none appears.
  unfold braces at tokens ⊢
  rw [tokens]
  cases block.tokens with
  | nil => rfl
  | cons first rest => cases last : rest.getLast? <;> simp [last]

theorem withStatements_withStatements {ss : List Node} (h : ∀ s ∈ ss, s.isStatement = true)
    (ss' : List Node) (block : Node) :
    withStatements ss' (withStatements ss block) = withStatements ss' block := by
  rw [withStatements_eq ss' (withStatements ss block), braces_withStatements h,
    withStatements_eq ss' block, withStatements_eq ss block, withChildren_withChildren]

/-! ## Nodes with a body -/

theorem mem_of_childByField? {n c : Node} {name : String} (found : n.childByField? name = some c) :
    c ∈ n.children ∧ c.field = some name := by
  rw [childByField?] at found
  exact ⟨List.mem_of_find?_eq_some found, by simpa using List.find?_some found⟩

/-- The children of a node before its body, the body, and the children behind it. -/
structure SplitAtBody (n : Node) (before : List Node) (body : Node) (after : List Node) : Prop where
  children : n.children = before ++ body :: after
  isBody : body.field = some "body"
  isFirst : ∀ c ∈ before, c.field ≠ some "body"

theorem exists_splitAtBody {n : Node} (h : ∃ c ∈ n.children, c.field = some "body") :
    ∃ before body after, n.SplitAtBody before body after := by
  obtain ⟨body, found⟩ : ∃ body, n.body? = some body := by
    rw [← Option.isSome_iff_exists, body?, childByField?, List.find?_isSome]
    simpa using h
  obtain ⟨isBody, before, after, split, isFirst⟩ := List.find?_eq_some_iff_append.1 found
  exact ⟨before, body, after, split, by simpa using isBody, by simpa using isFirst⟩

theorem updateFirst_append {p : Node → Bool} (f : Node → Node) {before : List Node} {c : Node}
    (isFirst : ∀ d ∈ before, p d = false) (found : p c = true) (after : List Node) :
    updateFirst p f (before ++ c :: after) = (true, before ++ f c :: after) := by
  induction before with
  | nil => simp [updateFirst, found]
  | cons d before ih =>
    rw [List.cons_append, updateFirst, isFirst d (by simp),
      ih fun e member => isFirst e (by simp [member])]
    rfl

theorem updateFirst_of_absent {p : Node → Bool} (f : Node → Node) {cs : List Node}
    (h : ∀ c ∈ cs, p c = false) : updateFirst p f cs = (false, cs) := by
  induction cs with
  | nil => rfl
  | cons c cs ih =>
    rw [updateFirst, h c (by simp), ih fun d member => h d (by simp [member])]
    rfl

/-- A node without a body stays as it is. -/
theorem overwriteBody_of_bodiless {n : Node} (bodiless : ∀ c ∈ n.children, c.field ≠ some "body")
    (ss : List Node) : n.overwriteBody ss = (false, n) := by
  rw [overwriteBody, updateFirst_of_absent _ (by simpa using bodiless)]
  simp only [withChildren_children]

/-- The body of the node, if there is one, is not kept as one leaf. -/
def OpenBody (n : Node) : Prop := ∀ body ∈ n.body?, body.leafText = none

theorem openBody_of_bodiless {n : Node} (bodiless : ∀ c ∈ n.children, c.field ≠ some "body") :
    n.OpenBody := by
  intro body isBody
  obtain ⟨child, inField⟩ := mem_of_childByField? isBody
  exact absurd inField (bodiless body child)

/-- The node behind a write; nothing if the node has no body. -/
def replaceBody? (n : Node) (ss : List Node) : Option Node :=
  if (n.overwriteBody ss).1 then some (n.overwriteBody ss).2 else none

namespace SplitAtBody

variable {n body : Node} {before after : List Node}

theorem body?_eq (h : n.SplitAtBody before body after) : n.body? = some body := by
  rw [body?, childByField?, List.find?_eq_some_iff_append]
  exact ⟨by simp [h.isBody], before, after, h.children, by simpa using h.isFirst⟩

theorem openBody_iff (h : n.SplitAtBody before body after) :
    n.OpenBody ↔ body.leafText = none := by
  simp [OpenBody, h.body?_eq]

theorem withStatements (h : n.SplitAtBody before body after) (ss : List Node) :
    (n.withChildren (before ++ body.withStatements ss :: after)).SplitAtBody before
      (body.withStatements ss) after where
  children := by simp
  isBody := by rw [withStatements_eq, field_withChildren, h.isBody]
  isFirst := h.isFirst

theorem overwriteBody_eq (h : n.SplitAtBody before body after) (ss : List Node) :
    n.overwriteBody ss = (true, n.withChildren (before ++ body.withStatements ss :: after)) := by
  rw [overwriteBody, h.children, updateFirst_append _ (by simpa using h.isFirst)
    (by simp [h.isBody])]

theorem replaceBody?_eq (h : n.SplitAtBody before body after) (ss : List Node) :
    n.replaceBody? ss = some (n.withChildren (before ++ body.withStatements ss :: after)) := by
  rw [replaceBody?, h.overwriteBody_eq]
  rfl

/-- No other field sees the statements of the body. -/
theorem childByField?_eq (h : n.SplitAtBody before body after) (ss : List Node) {name : String}
    (other : name ≠ "body") :
    (n.withChildren (before ++ body.withStatements ss :: after)).childByField? name =
      n.childByField? name := by
  have differs : (some "body" == some name) = false := by simpa using other.symm
  rw [childByField?, childByField?, children_withChildren, h.children, List.find?_append,
    List.find?_append, List.find?_cons, List.find?_cons, (h.withStatements ss).isBody, h.isBody,
    differs]

end SplitAtBody

/-- A write that finds no body leaves the node as it is. -/
theorem overwriteBody_cases (n : Node) (ss : List Node) :
    (∃ m, n.replaceBody? ss = some m ∧ n.overwriteBody ss = (true, m)) ∨
    (n.replaceBody? ss = none ∧ n.overwriteBody ss = (false, n)) := by
  by_cases hasBody : ∃ c ∈ n.children, c.field = some "body"
  · obtain ⟨before, body, after, split⟩ := exists_splitAtBody hasBody
    exact .inl ⟨_, split.replaceBody?_eq ss, split.overwriteBody_eq ss⟩
  · have bodiless : ∀ c ∈ n.children, c.field ≠ some "body" :=
      fun c member isBody => hasBody ⟨c, member, isBody⟩
    have left := overwriteBody_of_bodiless bodiless ss
    refine .inr ⟨?_, left⟩
    rw [replaceBody?, left]
    rfl

/-- A body is replaced where there is one, and only its statements change. -/
theorem replaceBody?_eq_some_iff {n m : Node} {ss : List Node} :
    n.replaceBody? ss = some m ↔
      ∃ before body after, n.SplitAtBody before body after ∧
        m = n.withChildren (before ++ body.withStatements ss :: after) := by
  constructor
  · intro replaced
    by_cases hasBody : ∃ c ∈ n.children, c.field = some "body"
    · obtain ⟨before, body, after, split⟩ := exists_splitAtBody hasBody
      rw [split.replaceBody?_eq, Option.some.injEq] at replaced
      exact ⟨before, body, after, split, replaced.symm⟩
    · have bodiless : ∀ c ∈ n.children, c.field ≠ some "body" :=
        fun c member isBody => hasBody ⟨c, member, isBody⟩
      rw [replaceBody?, overwriteBody_of_bodiless bodiless] at replaced
      cases replaced
  · rintro ⟨before, body, after, split, rfl⟩
    exact split.replaceBody?_eq ss

/-- Of two replacements only the second one shows. -/
theorem replaceBody?_replaceBody? {n m : Node} {ss : List Node}
    (h : ∀ s ∈ ss, s.isStatement = true) (replaced : n.replaceBody? ss = some m)
    (ss' : List Node) : m.replaceBody? ss' = n.replaceBody? ss' := by
  obtain ⟨before, body, after, split, rfl⟩ := replaceBody?_eq_some_iff.1 replaced
  rw [(split.withStatements ss).replaceBody?_eq, split.replaceBody?_eq, withChildren_withChildren,
    withStatements_withStatements h]

end Introspect.Syntax.Node
