import Mathlib.Data.List.Forall2
import Mathlib.Data.List.TakeWhile
import Introspect.Proofs.Reflection.ClassComments

/-! # Constants and cases

Constants and cases are reported in document order, one pair for each:

* `attributesOf`, `declaredConstant?`, `assigned?` — the parts of a constant or a case;
* `ConstantShape` — what the grammar guarantees of them;
* `PlainValue` — nothing can be taken for the value but the value;
* `constants_reported` — every constant is reported under its name, and with its value if that is
  plain;
* `constants_plainName` — a value that is a name does not show.
-/

namespace Introspect

open Introspect.Syntax
open Introspect.Layout (codeTexts printStatements)

/-! ## Parts of a constant -/

/-- The named children of a constant or a case, comments apart. -/
def constantParts (e : Node) : List Node := e.namedChildren.filter fun c => !c.isComment

/-- What stands before the name. -/
def attributesOf (e : Node) : List Node := (constantParts e).takeWhile fun c => c.kind != "name"

/-- The name, and the value behind it. -/
def labelAndValue (e : Node) : List Node := (constantParts e).dropWhile fun c => c.kind != "name"

def declaredConstant? (e : Node) : Option String := (labelAndValue e).head?.bind Node.leafText

/-- The value of a constant or a case. -/
def assigned? (e : Node) : Option Node := (labelAndValue e)[1]?

/-- What the grammar guarantees: attributes, then a name that is a leaf, then the value if there is
one, which is not without code.  A constant has a value and no attributes of its own. -/
structure ConstantShape (e : Node) : Prop where
  parts : (labelAndValue e).length ≤ 2
  declared : (declaredConstant? e).isSome = true
  leaf : ∀ label ∈ (labelAndValue e).head?, label.children = []
  marks : ∀ c ∈ e.children, c.kind = "name" → c.named = true
  code : ∀ v ∈ assigned? e, codeTexts v ≠ []
  element : e.kind = "const_element" → attributesOf e = [] ∧ (assigned? e).isSome = true

instance (e : Node) : Decidable (ConstantShape e) :=
  decidable_of_iff ((labelAndValue e).length ≤ 2 ∧ (declaredConstant? e).isSome = true ∧
    (∀ label ∈ (labelAndValue e).head?, label.children = []) ∧
    (∀ c ∈ e.children, c.kind = "name" → c.named = true) ∧ (∀ v ∈ assigned? e, codeTexts v ≠ []) ∧
    (e.kind = "const_element" → attributesOf e = [] ∧ (assigned? e).isSome = true))
    ⟨fun ⟨parts, declared, leaf, marks, code, element⟩ =>
      ⟨parts, declared, leaf, marks, code, element⟩,
      fun h => ⟨h.parts, h.declared, h.leaf, h.marks, h.code, h.element⟩⟩

/-- The code of the value; nothing without one. -/
def assignedCode (e : Node) : String := ((assigned? e).map fun v => printStatements [v]).getD ""

/-- The value is told by its kind and its place, and attributes are told from a value: it is no name
and stands behind all comments, or there is none and there are no attributes either. -/
structure PlainValue (e : Node) : Prop where
  kind : ∀ v ∈ assigned? e, v.kind ≠ "name"
  last : (assigned? e).isSome = true → ∀ c ∈ e.namedChildren.getLast?, c.isComment = false
  bare : assigned? e = none → attributesOf e = []

theorem attributesOf_append (e : Node) : attributesOf e ++ labelAndValue e = constantParts e :=
  List.takeWhile_append_dropWhile

theorem mem_constantParts {e c : Node} :
    c ∈ constantParts e ↔ c ∈ e.namedChildren ∧ c.isComment = false := by
  simp [constantParts]

namespace ConstantShape

variable {e : Node} (h : ConstantShape e)
include h

/-- The name is the first child of its kind. -/
theorem childOfKind?_name : e.childOfKind? "name" = (labelAndValue e).head? := by
  have first : (labelAndValue e).head? = (constantParts e).find? fun c => c.kind == "name" := by
    rw [List.find?_eq_head?_dropWhile_not]
    rfl
  rw [first, constantParts, Node.namedChildren, List.find?_filter, List.find?_filter, Node.childOfKind?]
  apply List.find?_congr
  intro c member
  by_cases name : c.kind = "name"
  · simp [name, h.marks c member name, Node.isComment]
  · simp [name]

theorem exists_label : ∃ label text, e.childOfKind? "name" = some label ∧
    label.kind = "name" ∧ label.children = [] ∧ label.leafText = some text ∧
    declaredConstant? e = some text ∧ labelAndValue e = label :: (assigned? e).toList := by
  obtain ⟨text, declared⟩ := Option.isSome_iff_exists.1 h.declared
  obtain ⟨label, head, leafText⟩ := Option.bind_eq_some_iff.1 declared
  obtain ⟨rest, parts⟩ := List.head?_eq_some_iff.1 head
  have found := h.childOfKind?_name.trans head
  refine ⟨label, text, found, ?_, h.leaf label head, leafText, declared, ?_⟩
  · exact beq_iff_eq.1 (List.find?_some (p := fun c : Node => c.kind == "name") found)
  · have short := h.parts
    rw [assigned?, parts] at *
    rcases rest with _ | ⟨v, _ | ⟨w, more⟩⟩
    · rfl
    · rfl
    · simp at short

end ConstantShape

/-! ## What is reported -/

theorem Syntax.Node.compactText_of_leaf {n : Node} {text : String} (leaf : n.children = [])
    (own : n.leafText = some text) (word : ∀ ch ∈ text.toList, Text.isBlank ch = false) :
    n.compactText = text := by
  have joined : n.text = text := by
    rw [Node.text, Node.leafTexts, Node.preorder_eq, leaf]
    by_cases empty : text = "" <;> simp [own, empty, Text.joinWith]
  rw [Node.compactText, joined, Text.squeeze, List.filter_eq_self.2, String.ofList_toList]
  intro ch member
  rw [word ch member]
  rfl

/-- The code that is reported for the value. -/
def shownCode (e : Node) : String := ((valueNode? e).map fun v => printStatements [v]).getD ""

/-- Comments do not show as values. -/
theorem shownCode_of_comments {e : Node} (comments : ∀ v ∈ valueNode? e, v.isComment = true) :
    shownCode e = "" := by
  unfold shownCode
  cases last : valueNode? e with
  | none => rfl
  | some v => exact Layout.printStatements_of_comment (comments v last)

theorem shownCode_of_names {e : Node} (names : ∀ c ∈ constantParts e, c.kind = "name") :
    shownCode e = "" := by
  apply shownCode_of_comments
  intro v last
  obtain ⟨member, other⟩ := List.mem_filter.1 (List.mem_of_getLast? last)
  cases comment : v.isComment with
  | true => rfl
  | false => simp [names v (mem_constantParts.2 ⟨member, comment⟩)] at other

theorem shownCode_of_comment_last {e c : Node} (last : e.namedChildren.getLast? = some c)
    (comment : c.isComment = true) : shownCode e = "" := by
  obtain ⟨before, split⟩ := List.getLast?_eq_some_iff.1 last
  have shown : valueNode? e = some c := by
    simp [valueNode?, split, Node.isComment_iff.1 comment]
  apply shownCode_of_comments
  intro v same
  rw [shown] at same
  cases same
  exact comment

section

variable {e : Node} (h : ConstantShape e)
include h

/-- The value is the last named child, if that is no comment. -/
theorem valueNode?_of_assigned {v : Node} (value : assigned? e = some v) (other : v.kind ≠ "name")
    (last : ∀ c ∈ e.namedChildren.getLast?, c.isComment = false) : valueNode? e = some v := by
  obtain ⟨label, text, -, -, -, -, -, behind⟩ := h.exists_label
  have parts := attributesOf_append e
  rw [behind, value, Option.toList_some] at parts
  have member : v ∈ e.namedChildren := (mem_constantParts.1 (by simp [← parts])).1
  obtain ⟨c, final⟩ := Option.ne_none_iff_exists'.1
    (mt List.getLast?_eq_none_iff.1 (List.ne_nil_of_mem member))
  obtain ⟨before, split⟩ := List.getLast?_eq_some_iff.1 final
  -- The last named child is no comment, so it is the last part as well.
  have same : c = v := by
    have ends : (constantParts e).getLast? = some c := by
      simp [constantParts, split, last c final]
    rw [← parts] at ends
    simpa using ends.symm
  simp [valueNode?, split, same, other]

theorem shownCode_of_plainValue (plain : PlainValue e) : shownCode e = assignedCode e := by
  cases value : assigned? e with
  | some v =>
    rw [shownCode, valueNode?_of_assigned h value (plain.kind v value)
      (plain.last (by rw [value]; rfl)), assignedCode, value]
  | none =>
    obtain ⟨label, text, -, name, -, -, -, behind⟩ := h.exists_label
    rw [assignedCode, value]
    apply shownCode_of_names
    intro c member
    rw [← attributesOf_append, plain.bare value, behind, value] at member
    rw [List.mem_singleton.1 member, name]

theorem assignedCode_eq_empty_iff : assignedCode e = "" ↔ assigned? e = none := by
  unfold assignedCode
  cases value : assigned? e with
  | none => exact ⟨fun _ => rfl, fun _ => rfl⟩
  | some v =>
    have code : printStatements [v] ≠ "" := Layout.printStatements_ne_empty (h.code v value)
    simp [code]

theorem shownCode_of_not_plainValue (bare : attributesOf e = []) (mistaken : ¬ PlainValue e) :
    shownCode e = "" := by
  by_cases comment : ∃ c ∈ e.namedChildren.getLast?, c.isComment = true
  · obtain ⟨c, last, comment⟩ := comment
    exact shownCode_of_comment_last last comment
  · -- The value must be a name then, like all parts.
    have last : ∀ c ∈ e.namedChildren.getLast?, c.isComment = false := by
      simpa using comment
    obtain ⟨label, text, -, name, -, -, -, behind⟩ := h.exists_label
    have kind : ∀ v ∈ assigned? e, v.kind = "name" := by
      intro v value
      by_contra other
      refine mistaken ⟨fun w same => ?_, fun _ => last, fun none => ?_⟩
      · rw [Option.mem_unique same value]
        exact other
      · rw [none] at value
        cases value
    apply shownCode_of_names
    intro c member
    rw [← attributesOf_append, bare, behind, List.nil_append, List.mem_cons,
      Option.mem_toList] at member
    rcases member with rfl | value
    · exact name
    · exact kind c value

end

/-- What a pair tells of a constant or a case: its name, and the code of its value as long as that is
plain.  Otherwise the value is lost, unless attributes are taken for it. -/
structure Reported (e : Node) (told : String × String) : Prop where
  name : ∀ text ∈ declaredConstant? e, (∀ ch ∈ text.toList, Text.isBlank ch = false) →
    told.1 = text
  value : PlainValue e → told.2 = assignedCode e
  empty : PlainValue e → told.2 = "" → e.kind = "enum_case" ∧ assigned? e = none
  lost : attributesOf e = [] → ¬ PlainValue e → told.2 = ""

theorem reported_of_shape {e : Node} (h : ConstantShape e)
    (kinds : e.kind = "const_element" ∨ e.kind = "enum_case") :
    ∃ told, nameAndValue? e = some told ∧ Reported e told := by
  obtain ⟨label, text, found, -, leaf, own, declared, -⟩ := h.exists_label
  refine ⟨(label.compactText, shownCode e), by rw [nameAndValue?, found]; rfl, ?_, ?_, ?_, ?_⟩
  · intro text' same word
    rw [declared] at same
    cases same
    exact Node.compactText_of_leaf leaf own word
  · exact shownCode_of_plainValue h
  · intro plain empty
    have none : assigned? e = none := by
      rwa [shownCode_of_plainValue h plain, assignedCode_eq_empty_iff h] at empty
    rcases kinds with element | enumCase
    · obtain ⟨-, valued⟩ := h.element element
      rw [none] at valued
      cases valued
    · exact ⟨enumCase, none⟩
  · exact shownCode_of_not_plainValue h

/-- The constants and cases in the body of a class, in document order. -/
def Class.constantNodes (c : Class) : List Node := c.members.flatMap Introspect.constantNodes

theorem Class.constants_eq (c : Class) : c.constants = c.constantNodes.filterMap nameAndValue? := by
  rw [constants, constantNodes, List.filterMap_flatMap]
  exact List.flatMap_congr fun m _ => memberConstants_eq m

theorem Class.kind_of_mem_constantNodes {c : Class} {e : Node} (member : e ∈ c.constantNodes) :
    e.kind = "const_element" ∨ e.kind = "enum_case" := by
  obtain ⟨m, -, declares⟩ := List.mem_flatMap.1 member
  unfold Introspect.constantNodes at declares
  split at declares
  · exact .inl (beq_iff_eq.1 (List.mem_filter.1 declares).2)
  · split at declares
    · rename_i enumCase
      exact .inr (List.mem_singleton.1 declares ▸ enumCase)
    · cases declares

/-- For every constant and every case in the body of a class there is one pair, in document order:
its name with the code of its value.  A value shows unless it is a name or a comment follows it; the
code is empty only for a case that has no value. -/
theorem constants_reported (c : Class) (shaped : ∀ e ∈ c.constantNodes, ConstantShape e) :
    List.Forall₂ Reported c.constantNodes c.constants := by
  rw [c.constants_eq]
  exact forall₂_filterMap fun e member =>
    reported_of_shape (shaped e member) (Class.kind_of_mem_constantNodes member)

def mixedEnum : String :=
  "<?php enum E \x7b #[A] case X = -1; case Y /* y */; const Z = Y; \x7d"

theorem constants_reported_mixedEnum :
    ∃ c, classIn? mixedEnum "E" = some c ∧ (∀ e ∈ c.constantNodes, ConstantShape e) ∧
      List.Forall₂ Reported c.constantNodes c.constants ∧
      c.constants = [("X", "-1"), ("Y", ""), ("Z", "")] := by
  have checked : ((classIn? mixedEnum "E").any fun c =>
      decide (∀ e ∈ c.constantNodes, ConstantShape e) &&
        c.constants == [("X", "-1"), ("Y", ""), ("Z", "")]) = true := by
    decide +kernel
  obtain ⟨c, found, told⟩ := (Option.any_eq_true _ _).1 checked
  obtain ⟨shape, constants⟩ := Bool.and_eq_true_iff.1 told
  have shaped := of_decide_eq_true shape
  exact ⟨c, found, shaped, constants_reported c shaped, beq_iff_eq.1 constants⟩

/-- A value that is a name is left out. -/
theorem constants_plainName :
    ∃ c, classIn? "<?php class A \x7b const X = Y; \x7d" "A" = some c ∧
      c.constantNodes.map assignedCode = ["Y"] ∧ c.constants = [("X", "")] := by
  have checked : ((classIn? "<?php class A \x7b const X = Y; \x7d" "A").any fun c =>
      c.constantNodes.map assignedCode == ["Y"] && c.constants == [("X", "")]) = true := by
    decide +kernel
  obtain ⟨c, found, told⟩ := (Option.any_eq_true _ _).1 checked
  obtain ⟨code, constants⟩ := Bool.and_eq_true_iff.1 told
  exact ⟨c, found, beq_iff_eq.1 code, beq_iff_eq.1 constants⟩

-- The attributes of a case without a value are taken for one.
example : ((classIn? "<?php enum E \x7b #[A] case X; \x7d" "E").map Class.constants) =
    some [("X", "#[ A]")] := by
  decide +kernel

end Introspect
