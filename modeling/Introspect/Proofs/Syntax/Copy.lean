import Introspect.Syntax.Node

/-! # Copies of parse trees

The copy of a tree is made by a cursor with a stack of open nodes beside it.  Here it is the plain
recursion over the tree:

* `copy`, `copyAll` — the copy of a tree in a field of its parent, and of trees side by side;
* `plug` — what comes of a finished node among open ones;
* `ofTree_eq_copy` — the walk of the cursor ends with the recursive copy.

The walk keeps one open node for each ancestor of the cursor.  As long as it does, the copy in focus
plugged into the open nodes is the same node at every step.
-/

namespace Introspect.Syntax.Node

/-! ## Recursive copies -/

mutual

/-- The copy of a tree that stands in `field` of its parent. -/
def copy (source : String) (field : Option String) : ParseTree → Node
  | .node kind named _ extent children =>
    if children.isEmpty || atomicKinds.contains kind then
      mk kind named field (some extent.span)
        (some (Text.slice source extent.startByte extent.endByte)) []
    else mk kind named field (some extent.span) none (copyAll source children)

/-- The copies of trees that stand side by side, each in its own field. -/
def copyAll (source : String) : List ParseTree → List Node
  | [] => []
  | t :: ts => copy source t.field t :: copyAll source ts

end

theorem copyAll_eq_map (source : String) (ts : List ParseTree) :
    copyAll source ts = ts.map fun t => copy source t.field t := by
  induction ts with
  | nil => rfl
  | cons t ts ih => rw [copyAll, ih, List.map_cons]

/-- A leaf or an atomic node takes its text from the source. -/
theorem copy_of_isLeaf (source : String) (field : Option String) {t : ParseTree}
    (leaf : isLeaf t = true) :
    copy source field t = mk t.kind t.named field (some t.extent.span)
      (some (Text.slice source t.extent.startByte t.extent.endByte)) [] := by
  cases t with
  | node kind named own extent children => exact if_pos leaf

/-- Any other node has the copies of its children. -/
theorem copy_of_not_isLeaf (source : String) (field : Option String) {t : ParseTree}
    (inner : isLeaf t = false) :
    copy source field t = mk t.kind t.named field (some t.extent.span) none
      (copyAll source t.children) := by
  cases t with
  | node kind named own extent children => exact if_neg (Bool.eq_false_iff.1 inner)

@[simp] theorem field_copy (source : String) (field : Option String) (t : ParseTree) :
    (copy source field t).field = field := by
  cases leaf : isLeaf t with
  | true => rw [copy_of_isLeaf source field leaf, field_mk]
  | false => rw [copy_of_not_isLeaf source field leaf, field_mk]

@[simp] theorem kind_copy (source : String) (field : Option String) (t : ParseTree) :
    (copy source field t).kind = t.kind := by
  cases leaf : isLeaf t with
  | true => rw [copy_of_isLeaf source field leaf, kind_mk]
  | false => rw [copy_of_not_isLeaf source field leaf, kind_mk]

/-- The children of a copy are copies of children. -/
theorem exists_of_mem_children_copy {source : String} {field : Option String} {t : ParseTree}
    {n : Node} (member : n ∈ (copy source field t).children) :
    ∃ c ∈ t.children, n = copy source c.field c := by
  cases leaf : isLeaf t with
  | true =>
    rw [copy_of_isLeaf source field leaf] at member
    cases member
  | false =>
    rw [copy_of_not_isLeaf source field leaf, children_mk, copyAll_eq_map, List.mem_map] at member
    obtain ⟨c, child, copied⟩ := member
    exact ⟨c, child, copied.symm⟩

/-! ## The walk -/

/-- What comes of the finished node `done` with the siblings `later` behind it, among open nodes that
hold their children last first.  The siblings behind the open nodes are given with their
ancestors. -/
def plug (source : String) (done : Node) (later : List ParseTree) :
    List Node → List (ParseTree × List ParseTree) → Node
  | [], _ => done
  | parent :: rest, above =>
    let closed := parent.withChildren (parent.children.reverse ++ done :: copyAll source later)
    match above with
    | [] => closed
    | (_, siblings) :: above => plug source closed siblings rest above

/-- The copy at a cursor, plugged into the open nodes. -/
def plugged (source : String) (c : Cursor) (opened : List Node) : Node :=
  plug source (copy source c.field c.focus) c.later opened c.above

/-- Climbing from a finished node loses nothing: it ends with the whole copy, or goes on where as
many nodes are open as the cursor has ancestors. -/
theorem climb_plug (source : String) (done : Node) (opened : List Node) (c : Cursor)
    (sync : opened.length = c.above.length) :
    match climb done opened c with
    | .inl root => plug source done c.later opened c.above = root
    | .inr (d, more) =>
      plug source done c.later opened c.above = plugged source d more ∧
        more.length = d.above.length := by
  induction opened generalizing done c with
  | nil => rfl
  | cons parent rest ih =>
    obtain ⟨focus, later, above⟩ := c
    cases above with
    | nil => simp at sync
    | cons ancestor above =>
      obtain ⟨up, siblings⟩ := ancestor
      cases later with
      | nil =>
        -- The parent is complete, and the climb goes on from it.
        have closed := ih (parent.withChildren (done :: parent.children).reverse)
          ⟨up, siblings, above⟩ (by simpa using sync)
        simpa [climb, Cursor.nextSibling?, Cursor.parent?, plug, copyAll] using closed
      | cons next later =>
        -- The parent stays open with one more child, and the next sibling comes into focus.
        refine ⟨?_, by simpa using sync⟩
        cases parent with
        | mk kind named field span text children =>
          simp [plugged, plug, Cursor.field, copyAll]

theorem descend?_of_isLeaf {c : Cursor} (leaf : isLeaf c.focus = true) : descend? c = none :=
  if_pos leaf

/-- Under a node that is not kept as one leaf there is a first child to go to. -/
theorem descend?_of_not_isLeaf {c : Cursor} (inner : isLeaf c.focus = false) :
    ∃ t ts, c.focus.children = t :: ts ∧
      descend? c = some ⟨t, ts, (c.focus, c.later) :: c.above⟩ := by
  have notEmpty : c.focus.children.isEmpty = false := by
    simp only [isLeaf, Bool.or_eq_false_iff] at inner
    exact inner.1
  cases children : c.focus.children with
  | nil => simp [children] at notEmpty
  | cons t ts => exact ⟨t, ts, rfl, by simp [descend?, inner, Cursor.firstChild?, children]⟩

/-- The copy of a node without its children, given those of its first child on. -/
theorem plugged_firstChild {source : String} {c : Cursor} (inner : isLeaf c.focus = false)
    {t : ParseTree} {ts : List ParseTree} (children : c.focus.children = t :: ts)
    (opened : List Node) :
    plugged source ⟨t, ts, (c.focus, c.later) :: c.above⟩ (copyFocus source c :: opened) =
      plugged source c opened := by
  have complete : copy source c.field c.focus =
      (copyFocus source c).withChildren (copy source t.field t :: copyAll source ts) := by
    rw [copy_of_not_isLeaf source c.field inner, children, copyAll]
    simp [copyFocus, inner]
  have empty : (copyFocus source c).children = [] := rfl
  have firstField : Cursor.field ⟨t, ts, (c.focus, c.later) :: c.above⟩ = t.field := rfl
  rw [plugged, plugged, complete, plug, empty, firstField]
  rfl

/-- A leaf is complete as it is. -/
theorem copyFocus_of_isLeaf {source : String} {c : Cursor} (leaf : isLeaf c.focus = true) :
    copyFocus source c = copy source c.field c.focus := by
  rw [copy_of_isLeaf source c.field leaf]
  simp [copyFocus, leaf]

/-- Where the walk does not go down, the node is complete. -/
theorem copyFocus_of_descend? {source : String} {c : Cursor} (stays : descend? c = none) :
    copyFocus source c = copy source c.field c.focus := by
  cases leaf : isLeaf c.focus with
  | true => exact copyFocus_of_isLeaf leaf
  | false =>
    obtain ⟨t, ts, -, first⟩ := descend?_of_not_isLeaf leaf
    rw [first] at stays
    contradiction

/-- At every step the walk is on its way to the copy in focus, plugged into the open nodes. -/
theorem copyFrom_eq_plugged (source : String) (c : Cursor) (opened : List Node)
    (sync : opened.length = c.above.length) :
    copyFrom source c opened = plugged source c opened := by
  fun_induction copyFrom source c opened with
  | case1 c opened node d down ih =>
    cases leaf : isLeaf c.focus with
    | true =>
      rw [descend?_of_isLeaf leaf] at down
      contradiction
    | false =>
      obtain ⟨t, ts, children, first⟩ := descend?_of_not_isLeaf leaf
      rw [first, Option.some.injEq] at down
      subst down
      rw [ih (by simpa using sync)]
      exact plugged_firstChild leaf children opened
  | case2 c opened node stays root ended =>
    have climbed := climb_plug source node opened c sync
    rw [ended] at climbed
    rw [plugged, ← copyFocus_of_descend? stays]
    exact climbed.symm
  | case3 c opened node stays d more goesOn ih =>
    have climbed := climb_plug source node opened c sync
    rw [goesOn] at climbed
    rw [ih climbed.2, ← climbed.1, plugged, ← copyFocus_of_descend? stays]

/-- The walk over a tree ends with its recursive copy. -/
theorem ofTree_eq_copy (source : String) (t : ParseTree) : ofTree source t = copy source none t :=
  copyFrom_eq_plugged source (Cursor.start t) [] rfl

/-! ## Questions about copies -/

theorem kind_ofTree (source : String) (t : ParseTree) : (ofTree source t).kind = t.kind := by
  rw [ofTree_eq_copy, kind_copy]

/-- A field of a copied node holds the copy of what it holds in the tree. -/
theorem childByField?_ofTree (source : String) {t : ParseTree} (inner : isLeaf t = false)
    (name : String) :
    (ofTree source t).childByField? name =
      (t.childByField? name).map fun c => copy source c.field c := by
  rw [ofTree_eq_copy, copy_of_not_isLeaf source none inner, childByField?, children_mk,
    copyAll_eq_map, List.find?_map, ParseTree.childByField?]
  simp only [Function.comp_def, field_copy]

end Introspect.Syntax.Node
