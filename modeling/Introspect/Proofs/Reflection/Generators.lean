import Introspect.Reflection.Declarations
import Introspect.Proofs.Syntax.Body
import Introspect.Proofs.Syntax.Copy
import Introspect.Proofs.Reflection.Comments

/-! # Generators

Whether a function hands values out one by one is read off the copy of its declaration, and a copy
ends at atomic nodes:

* `ParseTree.subtrees`, `ParseTree.inView` — all trees at or beneath a tree, and those of them that
  stand in no atomic one;
* `Node.map_kind_preorder_copy` — a copy shows the kinds of the trees in view, in order;
* `CopiedFrom` — a function or method around the copy of a declaration;
* `isGenerator_iff_yield_in_view` — a yield is noticed exactly where it is in view.
-/

namespace Introspect

open Introspect.Syntax

/-! ## Trees in view -/

namespace Syntax.ParseTree

mutual

/-- The tree and everything beneath it, in document order. -/
def subtrees : ParseTree → List ParseTree
  | node kind named field extent children =>
    node kind named field extent children :: subtreesAll children

def subtreesAll : List ParseTree → List ParseTree
  | [] => []
  | t :: ts => t.subtrees ++ subtreesAll ts

end

mutual

/-- The tree and everything beneath it, except for what stands in an atomic tree. -/
def inView : ParseTree → List ParseTree
  | node kind named field extent children =>
    node kind named field extent children ::
      if atomicKinds.contains kind then [] else inViewAll children

def inViewAll : List ParseTree → List ParseTree
  | [] => []
  | t :: ts => t.inView ++ inViewAll ts

end

theorem subtreesAll_eq_flatMap (ts : List ParseTree) : subtreesAll ts = ts.flatMap subtrees := by
  induction ts with
  | nil => rfl
  | cons t ts ih => rw [subtreesAll, ih, List.flatMap_cons]

theorem mem_subtrees_iff {m t : ParseTree} :
    m ∈ t.subtrees ↔ m = t ∨ ∃ c ∈ t.children, m ∈ c.subtrees := by
  cases t with
  | node kind named field extent children =>
    rw [subtrees, subtreesAll_eq_flatMap, List.mem_cons, List.mem_flatMap, children_node]

theorem mem_subtrees_self (t : ParseTree) : t ∈ t.subtrees := mem_subtrees_iff.2 (.inl rfl)

theorem mem_subtrees_of_child {m c t : ParseTree} (child : c ∈ t.children)
    (member : m ∈ c.subtrees) : m ∈ t.subtrees :=
  mem_subtrees_iff.2 (.inr ⟨c, child, member⟩)

/-- A node of the kind occurs, be it hidden in an atomic tree or not. -/
def Holds (t : ParseTree) (kind : String) : Prop := ∃ m ∈ t.subtrees, m.kind = kind

/-- A node of the kind occurs in view. -/
def Shows (t : ParseTree) (kind : String) : Prop := ∃ m ∈ t.inView, m.kind = kind

instance (t : ParseTree) (kind : String) : Decidable (t.Holds kind) :=
  inferInstanceAs (Decidable (∃ m ∈ t.subtrees, m.kind = kind))

instance (t : ParseTree) (kind : String) : Decidable (t.Shows kind) :=
  inferInstanceAs (Decidable (∃ m ∈ t.inView, m.kind = kind))

/-- No atomic tree hides a node of the kind. -/
def HidesNo (kind : String) (t : ParseTree) : Prop :=
  ∀ a ∈ t.subtrees, a.kind ∈ atomicKinds → ¬ a.Holds kind

instance (kind : String) (t : ParseTree) : Decidable (HidesNo kind t) :=
  inferInstanceAs (Decidable (∀ a ∈ t.subtrees, a.kind ∈ atomicKinds → ¬ a.Holds kind))

theorem HidesNo.child {kind : String} {c t : ParseTree} (h : HidesNo kind t)
    (child : c ∈ t.children) : HidesNo kind c :=
  fun a member => h a (mem_subtrees_of_child child member)

mutual

theorem mem_subtrees_of_mem_inView : ∀ {t m : ParseTree}, m ∈ t.inView → m ∈ t.subtrees
  | node kind named field extent children, m, member => by
    rw [inView, List.mem_cons] at member
    rw [subtrees, List.mem_cons]
    rcases member with here | below
    · exact .inl here
    · split at below
      · cases below
      · exact .inr (mem_subtreesAll_of_mem_inViewAll below)

theorem mem_subtreesAll_of_mem_inViewAll :
    ∀ {ts : List ParseTree} {m : ParseTree}, m ∈ inViewAll ts → m ∈ subtreesAll ts
  | [], m, member => by cases member
  | t :: ts, m, member => by
    rw [inViewAll, List.mem_append] at member
    rw [subtreesAll, List.mem_append]
    exact member.imp mem_subtrees_of_mem_inView mem_subtreesAll_of_mem_inViewAll

end

theorem holds_of_shows {t : ParseTree} {kind : String} (h : t.Shows kind) : t.Holds kind := by
  obtain ⟨m, member, ofKind⟩ := h
  exact ⟨m, mem_subtrees_of_mem_inView member, ofKind⟩

mutual

/-- Where nothing of the kind is hidden, all of it is in view. -/
theorem mem_inView_of_hidesNo {kind : String} :
    ∀ {t m : ParseTree}, HidesNo kind t → m ∈ t.subtrees → m.kind = kind → m ∈ t.inView
  | node own named field extent children, m, clear, member, ofKind => by
    by_cases atomic : own ∈ atomicKinds
    · -- An atomic tree would hide what it holds.
      exact absurd ⟨m, member, ofKind⟩ (clear _ (mem_subtrees_self _) atomic)
    · rw [subtrees, List.mem_cons] at member
      rw [inView, List.mem_cons, if_neg (by simpa using atomic)]
      refine member.imp_right fun below => ?_
      exact mem_inViewAll_of_hidesNo (fun c child => clear.child child) below ofKind

theorem mem_inViewAll_of_hidesNo {kind : String} :
    ∀ {ts : List ParseTree} {m : ParseTree}, (∀ t ∈ ts, HidesNo kind t) →
      m ∈ subtreesAll ts → m.kind = kind → m ∈ inViewAll ts
  | [], m, _, member, _ => by cases member
  | t :: ts, m, clear, member, ofKind => by
    obtain ⟨first, rest⟩ := List.forall_mem_cons.1 clear
    rw [subtreesAll, List.mem_append] at member
    rw [inViewAll, List.mem_append]
    rcases member with here | later
    · exact .inl (mem_inView_of_hidesNo first here ofKind)
    · exact .inr (mem_inViewAll_of_hidesNo rest later ofKind)

end

theorem shows_iff_holds {t : ParseTree} {kind : String} (h : HidesNo kind t) :
    t.Shows kind ↔ t.Holds kind := by
  refine ⟨holds_of_shows, ?_⟩
  rintro ⟨m, member, ofKind⟩
  exact ⟨m, mem_inView_of_hidesNo h member ofKind, ofKind⟩

end Syntax.ParseTree

/-! ## Copies -/

namespace Syntax.Node

mutual

/-- The walk over a copy meets the kinds of the trees in view, one after another. -/
theorem map_kind_preorder_copy (source : String) (field : Option String) :
    ∀ t : ParseTree, (copy source field t).preorder.map kind = t.inView.map ParseTree.kind
  | .node own named _ extent children => by
    rw [preorder_eq, copy, ParseTree.inView]
    by_cases atomic : atomicKinds.contains own = true
    · rw [if_pos (by rw [atomic, Bool.or_true]), if_pos atomic]
      rfl
    · cases children with
      | nil =>
        rw [if_neg atomic]
        rfl
      | cons t ts =>
        -- An inner node comes first, and behind it the walks over its children.
        have below := map_kind_preorder_copyAll source (t :: ts)
        rw [if_neg (by simpa using atomic), if_neg atomic, List.map_cons, List.map_cons,
          children_mk, kind_mk, ParseTree.kind_node, below]

theorem map_kind_preorder_copyAll (source : String) :
    ∀ ts : List ParseTree, ((copyAll source ts).flatMap preorder).map kind =
      (ParseTree.inViewAll ts).map ParseTree.kind
  | [] => rfl
  | t :: ts => by
    rw [copyAll, List.flatMap_cons, List.map_append, map_kind_preorder_copy source t.field t,
      map_kind_preorder_copyAll source ts, ParseTree.inViewAll, List.map_append]

end

/-- A search by kind through a copy finds what is in view. -/
theorem any_kind_copy (source : String) (field : Option String) (t : ParseTree) (own : String) :
    (copy source field t).any (fun n => n.kind == own) = true ↔ t.Shows own := by
  have inOrder : (copy source field t).any (fun n => n.kind == own) =
      ((copy source field t).preorder.map kind).any (· == own) := by
    rw [any, List.any_map]
    rfl
  rw [inOrder, map_kind_preorder_copy, List.any_map, List.any_eq_true]
  simp only [Function.comp_apply, beq_iff_eq]
  rfl

end Syntax.Node

/-! ## Functions and methods -/

/-- The function was made from the copy of a declaration. -/
structure CopiedFrom (source : Source) (t : ParseTree) (f : Function) : Prop where
  sameSource : f.source = source
  ofCopy : ∃ field, f.node = Node.copy source.text field t

theorem Function.source_of_ofNode? {n : Node} {source : Source} {scope : Namespace}
    {doc : Option String} {owner : Option MethodOwner} {f : Function}
    (found : ofNode? n source scope doc owner = some f) : f.source = source := by
  rw [(eq_of_ofNode? found).2]

/-- A described function is made from the declaration that was found. -/
theorem copiedFrom_of_describe? {source : Source} {c : Candidate} {f : Function}
    (described : c.describe? source = some (.ofFunction f)) : CopiedFrom source c.tree f := by
  unfold Candidate.describe? at described
  split at described
  · obtain ⟨k, -, impossible⟩ := Option.map_eq_some_iff.1 described
    cases impossible
  · obtain ⟨g, found, same⟩ := Option.map_eq_some_iff.1 described
    cases same
    refine ⟨Function.source_of_ofNode? found, none, ?_⟩
    rw [Function.node_of_ofNode? found, Node.ofTree_eq_copy]

/-- A method of a described class is made from a declaration that stands in a body of that class. -/
theorem exists_member_of_mem_methods {source : Source} {c : Candidate} {k : Class} {f : Function}
    (described : c.describe? source = some (.ofClass k)) (member : f ∈ k.methods) :
    ∃ body ∈ c.tree.children, body.field = some "body" ∧ ∃ t ∈ body.children,
      functionKinds.contains t.kind = true ∧ CopiedFrom source t f := by
  have made : k.node = Node.copy source.text none c.tree ∧ k.source = source := by
    unfold Candidate.describe? at described
    split at described
    · obtain ⟨k', found, same⟩ := Option.map_eq_some_iff.1 described
      cases same
      obtain ⟨kind, -, rfl⟩ := Option.map_eq_some_iff.1 found
      exact ⟨Node.ofTree_eq_copy source.text c.tree, rfl⟩
    · obtain ⟨g, -, impossible⟩ := Option.map_eq_some_iff.1 described
      cases impossible
  obtain ⟨entry, -, found⟩ := List.mem_filterMap.1 member
  simp only [Class.methodAt?, Option.bind_eq_bind, Option.bind_eq_some_iff] at found
  obtain ⟨body, isBody, node, isNode, ofNode⟩ := found
  -- The body is the copy of a child of the declaration, and the method that of a child of the body.
  obtain ⟨bodyChild, inField⟩ := Node.mem_of_childByField? isBody
  rw [made.1] at bodyChild
  obtain ⟨b, child, rfl⟩ := Node.exists_of_mem_children_copy bodyChild
  obtain ⟨t, grandchild, rfl⟩ := Node.exists_of_mem_children_copy (List.mem_of_getElem? isNode)
  refine ⟨b, child, by simpa using inField, t, grandchild, ?_, ?_, t.field,
    Function.node_of_ofNode? ofNode⟩
  · simpa using (Function.eq_of_ofNode? ofNode).1
  · rw [Function.source_of_ofNode? ofNode, made.2]

theorem copiedFrom_of_mem_methods {source : Source} {c : Candidate} {k : Class} {f : Function}
    (described : c.describe? source = some (.ofClass k)) (member : f ∈ k.methods) :
    ∃ t ∈ c.tree.subtrees, CopiedFrom source t f := by
  obtain ⟨body, child, -, t, grandchild, -, copied⟩ :=
    exists_member_of_mem_methods described member
  exact ⟨t, ParseTree.mem_subtrees_of_child child
    (ParseTree.mem_subtrees_of_child grandchild t.mem_subtrees_self), copied⟩

theorem isGenerator_of_copiedFrom {source : Source} (userDefined : source.internal = false)
    {t : ParseTree} {f : Function} (copied : CopiedFrom source t f) :
    f.isGenerator = true ↔ t.Shows "yield_expression" := by
  obtain ⟨field, node⟩ := copied.ofCopy
  have notBuiltin : f.isInternal = false := by
    rw [Function.isInternal, copied.sameSource, userDefined]
  rw [Function.isGenerator, notBuiltin, node, ← Node.any_kind_copy source.text field t]
  rfl

/-- Outside built-in code, a function hands values out one by one exactly if a yield of its
declaration is in view: under no string, shell command or other atomic node.  What is reported is
never made up, and where no atomic node hides a yield it is all there is.  This holds for whatever
is copied from a declaration, and functions and methods alike are. -/
theorem isGenerator_iff_yield_in_view (source : Source) (userDefined : source.internal = false) :
    (∀ t f, CopiedFrom source t f →
      (f.isGenerator = true ↔ t.Shows "yield_expression") ∧
      (f.isGenerator = true → t.Holds "yield_expression") ∧
      (ParseTree.HidesNo "yield_expression" t →
        (f.isGenerator = true ↔ t.Holds "yield_expression"))) ∧
    (∀ c f, Candidate.describe? source c = some (.ofFunction f) → CopiedFrom source c.tree f) ∧
    (∀ c k, Candidate.describe? source c = some (.ofClass k) →
      ∀ f ∈ k.methods, ∃ t ∈ c.tree.subtrees, CopiedFrom source t f) := by
  refine ⟨fun t f copied => ?_, fun _ _ => copiedFrom_of_describe?,
    fun _ _ described _ => copiedFrom_of_mem_methods described⟩
  have inView := isGenerator_of_copiedFrom userDefined copied
  refine ⟨inView, fun generator => ParseTree.holds_of_shows (inView.1 generator), fun nothing => ?_⟩
  exact inView.trans (ParseTree.shows_iff_holds nothing)

/-- The functions that a text declares, each with its declaration. -/
def declaredFunctions (source : Source) : List (Candidate × Function) :=
  match Grammar.parse source.text source.label with
  | .ok parsed => (candidates parsed.tree source.text .function).filterMap fun c =>
      ((c.describe? source).bind Reflection.function?).map fun f => (c, f)
  | .error _ => []

theorem describe?_of_mem_declaredFunctions {source : Source} {c : Candidate} {f : Function}
    (member : (c, f) ∈ declaredFunctions source) : c.describe? source = some (.ofFunction f) := by
  unfold declaredFunctions at member
  split at member
  · obtain ⟨c', -, found⟩ := List.mem_filterMap.1 member
    obtain ⟨f', described, same⟩ := Option.map_eq_some_iff.1 found
    cases same
    obtain ⟨r, described, isFunction⟩ := Option.bind_eq_some_iff.1 described
    cases r with
    | ofClass k => cases isFunction
    | ofFunction g =>
      cases isFunction
      exact described
  · cases member

/-- A yield of a string that holds a variable. -/
def openYield : Source := .evaluated "<?php function f()\x7byield \"$a\";\x7d"

theorem isGenerator_openYield :
    openYield.internal = false ∧ ∃ c f, (c, f) ∈ declaredFunctions openYield ∧
      CopiedFrom openYield c.tree f ∧ ParseTree.HidesNo "yield_expression" c.tree ∧
      f.isGenerator = true := by
  have userDefined : openYield.internal = false := rfl
  have checked : ((declaredFunctions openYield).any fun (c, _) =>
      decide (ParseTree.HidesNo "yield_expression" c.tree ∧ c.tree.Holds "yield_expression")) =
      true := by
    decide +kernel
  obtain ⟨⟨c, f⟩, member, told⟩ := List.any_eq_true.1 checked
  obtain ⟨clear, holds⟩ := of_decide_eq_true told
  obtain ⟨answers, functions, -⟩ := isGenerator_iff_yield_in_view openYield userDefined
  have copied := functions c f (describe?_of_mem_declaredFunctions member)
  exact ⟨userDefined, c, f, member, copied, clear, ((answers c.tree f copied).2.2 clear).2 holds⟩

/-- A yield among the arguments of a call inside a string. -/
def hiddenYield : Source := .evaluated "<?php function f()\x7becho \"\x7b$a(yield)\x7d\";\x7d"

/-- A string hides the yield in it, so that the function is not taken for a generator. -/
theorem isGenerator_hiddenYield :
    ∃ c f, (c, f) ∈ declaredFunctions hiddenYield ∧ c.describe? hiddenYield = some (.ofFunction f) ∧
      c.tree.Holds "yield_expression" ∧ f.isGenerator = false := by
  have checked : ((declaredFunctions hiddenYield).any fun (c, f) =>
      decide (c.tree.Holds "yield_expression") && !f.isGenerator) = true := by
    decide +kernel
  obtain ⟨⟨c, f⟩, member, told⟩ := List.any_eq_true.1 checked
  simp only [Bool.and_eq_true, decide_eq_true_eq, Bool.not_eq_true'] at told
  exact ⟨c, f, member, describe?_of_mem_declaredFunctions member, told⟩

end Introspect
