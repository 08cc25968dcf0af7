import Introspect.Reflection.Function
import Introspect.Proofs.Syntax.Body
import Introspect.Proofs.Syntax.Preorder

/-! # Runs of body replacements

A body may be replaced over and over, and some of the calls may fail:

* `Function.overwriteBody_of_error` — a call that fails leaves the function as it is;
* `Function.afterCalls` — the function behind a run of calls;
* `Function.lastSuccess?` — the last call of a run that goes through;
* `Function.replaceBody_afterCalls` — behind any run, a call gives what it gives at first;
* `Function.afterCalls_eq_lastSuccess` — only the last call that goes through shows, and it shows
  in the body alone.
-/

namespace Introspect

open Introspect.Syntax

/-! ## One call -/

/-- The statements of a replacement are such as a block counts among its own. -/
theorem Replacement.isStatement_of_mem {r : Replacement} {ss : List Node}
    (h : r.statements = .ok ss) : ∀ s ∈ ss, s.isStatement = true := by
  unfold statements at h
  intro s member
  split at h
  · split at h
    · cases h
      exact Node.isStatement_of_mem_statements member
    · contradiction
  · split at h
    · split at h
      · cases h
        exact Node.isStatement_of_mem_statements member
      · contradiction
    · contradiction

/-- The node with the body of a replacement, or why there is none. -/
def replacedNode (n : Node) (r : Replacement) : Except BodyFailure Node :=
  match r.statements with
  | .error reason => .error reason
  | .ok ss =>
    if ss.isEmpty then .error .noStatements
    else match n.replaceBody? ss with
      | some m => .ok m
      | none => .error .noBody

/-- A node takes a replacement that has statements, if it has a body for them. -/
theorem replaceBody?_of_replacedNode {n m : Node} {r : Replacement}
    (h : replacedNode n r = .ok m) : ∃ ss, r.statements = .ok ss ∧ n.replaceBody? ss = some m := by
  rw [replacedNode] at h
  split at h
  · contradiction
  · rename_i ss statements
    split at h
    · contradiction
    · split at h
      · rename_i replaced
        cases h
        exact ⟨ss, statements, replaced⟩
      · contradiction

/-- Behind a replacement, every replacement gives what it would have given before. -/
theorem replacedNode_replacedNode {n m : Node} {r : Replacement} (h : replacedNode n r = .ok m)
    (r' : Replacement) : replacedNode m r' = replacedNode n r' := by
  obtain ⟨ss, statements, replaced⟩ := replaceBody?_of_replacedNode h
  have same := Node.replaceBody?_replaceBody? (Replacement.isStatement_of_mem statements) replaced
  simp only [replacedNode, same]

/-! ## Yields -/

/-- Does a yield occur in the node? -/
def yields (n : Node) : Bool := n.any fun m => m.kind == "yield_expression"

/-- A block that is no yield, and whose tokens are leaves that are none. -/
structure PlainBlock (block : Node) : Prop where
  kind : block.kind ≠ "yield_expression"
  tokens : ∀ c ∈ block.children, c.named = false → c.kind ≠ "yield_expression" ∧ c.children = []

theorem yields_withChildren {n : Node} (plain : n.kind ≠ "yield_expression") (cs : List Node) :
    yields (n.withChildren cs) = cs.any yields := by
  have notHere : ((n.withChildren cs).kind == "yield_expression") = false := by simpa using plain
  rw [yields, Node.any_eq, notHere, Node.children_withChildren, Bool.false_or]
  rfl

/-- In a plain block a yield can only occur in a statement. -/
theorem yields_withStatements {block : Node} (plain : PlainBlock block) (ss : List Node) :
    yields (block.withStatements ss) = ss.any yields := by
  have noBrace (cs : List Node) (sub : ∀ c ∈ cs, c ∈ block.tokens) : cs.any yields = false := by
    rw [List.any_eq_false]
    intro c member
    obtain ⟨child, unnamed⟩ := List.mem_filter.1 (sub c member)
    obtain ⟨notHere, leaf⟩ := plain.tokens c child (by simpa using unnamed)
    rw [yields, Node.any_eq, leaf]
    simp [notHere]
  rw [Node.withStatements_eq, yields_withChildren plain.kind, List.any_append, List.any_append,
    noBrace _ fun c member => Node.mem_tokens_of_mem_braces (.inl member),
    noBrace _ fun c member => Node.mem_tokens_of_mem_braces (.inr member)]
  simp

theorem functionKind_ne_yield {n : Node} (h : functionKinds.contains n.kind = true) :
    n.kind ≠ "yield_expression" := by
  intro isYield
  rw [isYield] at h
  contradiction

/-! ## One function -/

namespace Function

/-- How a call ends, and what it leaves behind: the function with another node, or itself. -/
theorem overwriteBody_eq (f : Function) (r : Replacement) :
    f.overwriteBody r =
      match replacedNode f.node r with
      | .ok m => (.ok (), { f with node := m })
      | .error reason => (.error (.bodyReplacement f.name reason), f) := by
  unfold overwriteBody replacedNode
  cases r.statements with
  | error reason => rfl
  | ok ss =>
    by_cases empty : ss.isEmpty = true
    · simp only [empty, if_true]
    · simp only [empty, if_false, Bool.false_eq_true]
      rcases f.node.overwriteBody_cases ss with ⟨m, replaced, eq⟩ | ⟨bodiless, eq⟩
      · rw [replaced, eq]
        rfl
      · rw [bodiless, eq]
        rfl

/-- The function behind a call that goes through, or why the call fails. -/
def replaceBody (f : Function) (r : Replacement) : Except Error Function :=
  (f.overwriteBody r).1.map fun _ => (f.overwriteBody r).2

theorem replaceBody_eq (f : Function) (r : Replacement) :
    f.replaceBody r =
      match replacedNode f.node r with
      | .ok m => .ok { f with node := m }
      | .error reason => .error (.bodyReplacement f.name reason) := by
  rw [replaceBody, overwriteBody_eq]
  cases replacedNode f.node r <;> rfl

/-- A call that fails leaves the function as it is. -/
theorem overwriteBody_of_error {f : Function} {r : Replacement} {e : Error}
    (failed : f.replaceBody r = .error e) : f.overwriteBody r = (.error e, f) := by
  rw [replaceBody_eq] at failed
  rw [overwriteBody_eq]
  split at failed
  · cases failed
  · cases failed
    rfl

/-- What a call leaves behind if it goes through: the node with other statements in its body. -/
theorem replaceBody_eq_ok {f g : Function} {r : Replacement} (h : f.replaceBody r = .ok g) :
    ∃ m, replacedNode f.node r = .ok m ∧ g = { f with node := m } := by
  rw [replaceBody_eq] at h
  split at h
  · rename_i m replaced
    cases h
    exact ⟨m, replaced, rfl⟩
  · contradiction

/-- The body of a function, between its other children. -/
theorem splitAtBody_of_replaceBody {f g : Function} {r : Replacement}
    (h : f.replaceBody r = .ok g) :
    ∃ ss before body after, r.statements = .ok ss ∧ f.node.SplitAtBody before body after ∧
      g = { f with node := f.node.withChildren (before ++ body.withStatements ss :: after) } := by
  obtain ⟨m, replacedNode, rfl⟩ := replaceBody_eq_ok h
  obtain ⟨ss, statements, replaced⟩ := replaceBody?_of_replacedNode replacedNode
  obtain ⟨before, body, after, split, rfl⟩ := Node.replaceBody?_eq_some_iff.1 replaced
  exact ⟨ss, before, body, after, statements, split, rfl⟩

/-- What is read off other fields than the body is the same before and behind a call. -/
theorem childByField?_of_replaceBody {f g : Function} {r : Replacement}
    (h : f.replaceBody r = .ok g) (name : String) (other : name ≠ "body") :
    g.node.childByField? name = f.node.childByField? name := by
  obtain ⟨ss, before, body, after, -, split, rfl⟩ := splitAtBody_of_replaceBody h
  exact split.childByField?_eq ss other

theorem name_of_replaceBody {f g : Function} {r : Replacement} (h : f.replaceBody r = .ok g) :
    g.name = f.name := by
  have sameChild := childByField?_of_replaceBody h "name" (by decide)
  obtain ⟨m, -, rfl⟩ := replaceBody_eq_ok h
  unfold name shortName
  rw [sameChild]
  rfl

/-- A call gives the same answer on what an earlier call left behind. -/
theorem replaceBody_replaceBody {f g : Function} {r : Replacement} (h : f.replaceBody r = .ok g)
    (r' : Replacement) : g.replaceBody r' = f.replaceBody r' := by
  have sameName := name_of_replaceBody h
  obtain ⟨m, replaced, rfl⟩ := replaceBody_eq_ok h
  simp only [replaceBody_eq, replacedNode_replacedNode replaced, sameName]

/-! ## What a call leaves alone -/

/-- All that is not read off the body agrees. -/
structure SameButBody (f g : Function) : Prop where
  name : g.name = f.name
  parameters : g.parameters = f.parameters
  optional : g.optional = f.optional
  returnType : g.returnType? = f.returnType?
  docComment : g.docComment = f.docComment
  startLine : g.startLine = f.startLine
  endLine : g.endLine = f.endLine

theorem sameButBody_of_replaceBody {f g : Function} {r : Replacement}
    (h : f.replaceBody r = .ok g) : SameButBody f g := by
  have sameName := name_of_replaceBody h
  have sameParameters := childByField?_of_replaceBody h "parameters" (by decide)
  have sameType := childByField?_of_replaceBody h "return_type" (by decide)
  have sameSpan : g.node.span = f.node.span := by
    obtain ⟨ss, before, body, after, -, -, rfl⟩ := splitAtBody_of_replaceBody h
    exact Node.span_withChildren _ _
  obtain ⟨m, -, rfl⟩ := replaceBody_eq_ok h
  refine ⟨sameName, ?_, rfl, ?_, rfl, ?_, ?_⟩
  · simp only [parameters, parameterNodes, sameName, sameParameters]
    rfl
  · simp only [returnType?, sameType]
  · simp only [startLine, lineOf, sameSpan]
  · simp only [endLine, lineOf, sameSpan]

/-! ## Runs of calls -/

/-- The function behind one call, however the call ends. -/
def afterCall (f : Function) (r : Replacement) : Function := (f.overwriteBody r).2

theorem afterCall_eq (f : Function) (r : Replacement) :
    f.afterCall r =
      match f.replaceBody r with
      | .ok g => g
      | .error _ => f := by
  rw [afterCall, overwriteBody_eq, replaceBody_eq]
  cases replacedNode f.node r <;> rfl

/-- The function behind a run of calls. -/
def afterCalls (f : Function) (rs : List Replacement) : Function :=
  rs.foldl afterCall f

/-- The last call of a run that goes through, each call being made on what those before it left. -/
def lastSuccess? (f : Function) : List Replacement → Option Replacement
  | [] => none
  | r :: rs =>
    match lastSuccess? (f.afterCall r) rs with
    | some later => some later
    | none => if (f.replaceBody r).isOk then some r else none

theorem replaceBody_afterCall (f : Function) (r r' : Replacement) :
    (f.afterCall r).replaceBody r' = f.replaceBody r' := by
  rw [afterCall_eq]
  split
  · rename_i g success
    exact replaceBody_replaceBody success r'
  · rfl

/-- Behind any run of calls, a call gives what it gives on the function itself. -/
theorem replaceBody_afterCalls (f : Function) (rs : List Replacement) (r' : Replacement) :
    (f.afterCalls rs).replaceBody r' = f.replaceBody r' := by
  induction rs generalizing f with
  | nil => rfl
  | cons r rs ih =>
    calc ((f.afterCall r).afterCalls rs).replaceBody r' = (f.afterCall r).replaceBody r' := ih _
      _ = f.replaceBody r' := replaceBody_afterCall f r r'

/-- A run without any success changes nothing, and any other run does what its last success does. -/
theorem afterCalls_cases (f : Function) (rs : List Replacement) :
    match f.lastSuccess? rs with
    | none => f.afterCalls rs = f
    | some r => f.replaceBody r = .ok (f.afterCalls rs) := by
  induction rs generalizing f with
  | nil => rfl
  | cons r rs ih =>
    have rest := ih (f.afterCall r)
    change match f.lastSuccess? (r :: rs) with
      | none => (f.afterCall r).afterCalls rs = f
      | some last => f.replaceBody last = .ok ((f.afterCall r).afterCalls rs)
    unfold lastSuccess?
    cases later : (f.afterCall r).lastSuccess? rs with
    | some last =>
      -- A later call decides, and it gives on `f` what it gives behind the first call.
      rw [later] at rest
      simpa only [replaceBody_afterCall] using rest
    | none =>
      -- All later calls fail, so that the first one decides.
      rw [later] at rest
      simp only [rest]
      cases called : f.replaceBody r with
      | ok g => simp [Except.isOk, Except.toBool, afterCall_eq, called]
      | error e => simp [Except.isOk, Except.toBool, afterCall_eq, called]

/-- Behind a run of calls, only the last call that goes through shows.  Its statements are the
body, all other children stay where and what they were, and so does all that is read off them;
and for code that is not built in, a yield in its statements or in another child makes the function
hand values out one by one.  A call that fails shows nowhere, since it leaves the function as it
is. -/
theorem afterCalls_eq_lastSuccess (f : Function) (rs : List Replacement) :
    (∀ r, (f.afterCalls rs).replaceBody r = f.replaceBody r) ∧
    (∀ r e, (f.afterCalls rs).replaceBody r = .error e →
      (f.afterCalls rs).overwriteBody r = (.error e, f.afterCalls rs)) ∧
    (f.lastSuccess? rs = none → f.afterCalls rs = f) ∧
    ∀ r, f.lastSuccess? rs = some r →
      f.replaceBody r = .ok (f.afterCalls rs) ∧
      SameButBody f (f.afterCalls rs) ∧
      ∃ ss before body after,
        r.statements = .ok ss ∧ (f.afterCalls rs).bodyStatements = ss ∧
        f.node.SplitAtBody before body after ∧
        (f.afterCalls rs).node =
          f.node.withChildren (before ++ body.withStatements ss :: after) ∧
        (functionKinds.contains f.node.kind = true → f.isInternal = false → PlainBlock body →
          ((f.afterCalls rs).isGenerator = true ↔
            (∃ s ∈ ss, yields s = true) ∨ ∃ c ∈ before ++ after, yields c = true)) := by
  have run := afterCalls_cases f rs
  refine ⟨replaceBody_afterCalls f rs, fun r e => overwriteBody_of_error,
    fun noSuccess => by simpa [noSuccess] using run, fun r last => ?_⟩
  rw [last] at run
  obtain ⟨ss, before, body, after, statements, split, eq⟩ := splitAtBody_of_replaceBody run
  refine ⟨run, sameButBody_of_replaceBody run, ss, before, body, after, statements, ?_, split,
    by rw [eq], ?_⟩
  · rw [eq, bodyStatements, (split.withStatements ss).body?_eq]
    exact Node.statements_withStatements (Replacement.isStatement_of_mem statements) body
  · -- A function is no yield itself, so that a yield lies beneath one of its children.
    intro isFunction userDefined plain
    have generator : (f.afterCalls rs).isGenerator = yields (f.afterCalls rs).node := by
      have sameSource : (f.afterCalls rs).isInternal = f.isInternal := by rw [eq]; rfl
      rw [isGenerator, sameSource, userDefined]
      rfl
    rw [generator, eq, yields_withChildren (functionKind_ne_yield isFunction), List.any_append,
      List.any_cons, yields_withStatements plain]
    simp only [Bool.or_eq_true, List.any_eq_true, List.mem_append, or_and_right, exists_or]
    exact or_left_comm

end Function

/-! ## A run -/

/-- A block in the field of a body. -/
def blockNode (ss : List Node) : Node :=
  .mk "compound_statement" true (some "body") none none
    ([.mk "\x7b" false none none (some "\x7b") []] ++ ss ++
      [.mk "\x7d" false none none (some "\x7d") []])

def closureNode (ss : List Node) : Node :=
  .mk "anonymous_function" true none none none [blockNode ss]

def yieldStatement : Node :=
  .mk "expression_statement" true none none none
    [.mk "yield_expression" true none none (some "yield") []]

/-- A function that does nothing. -/
def idleFunction : Function where
  doc := none
  source := .evaluated ""
  owner := none
  scope := .global
  node := .mk "function_definition" true none none none [blockNode []]
  optional := []

/-- Of three calls the first one goes through: the second has no closure, the third no statements. -/
theorem afterCalls_idleFunction :
    idleFunction.lastSuccess? [.closure (closureNode [yieldStatement]), .closure yieldStatement,
      .closure (closureNode [])] = some (.closure (closureNode [yieldStatement])) ∧
    PlainBlock (blockNode []) ∧
    (idleFunction.afterCalls [.closure (closureNode [yieldStatement]), .closure yieldStatement,
      .closure (closureNode [])]).isGenerator = true := by
  have last : idleFunction.lastSuccess? [.closure (closureNode [yieldStatement]),
      .closure yieldStatement, .closure (closureNode [])] =
      some (.closure (closureNode [yieldStatement])) := rfl
  have plain : PlainBlock (blockNode []) := by
    refine ⟨by decide, ?_⟩
    simp [blockNode]
  obtain ⟨-, -, ss, before, body, after, statements, -, split, -, generator⟩ :=
    (Function.afterCalls_eq_lastSuccess idleFunction _).2.2.2 _ last
  have isBody : blockNode [] = body := Option.some.inj split.body?_eq
  have isList : [yieldStatement] = ss := Except.ok.inj statements
  subst isBody isList
  refine ⟨last, plain, (generator (by decide) rfl plain).2 (.inl ⟨yieldStatement, by simp, ?_⟩)⟩
  decide +kernel

end Introspect
