import Introspect.Reflector
import Introspect.Proofs.Reflection.Namespaces

/-! # What the type of a parameter says

All questions about the type of a parameter are questions about a text.  Here types have structure,
and the answers are read off that structure:

* `TypeExpr`, `TypeExpr.written` — types, and how they are written without white space;
* `hintAllowsNull_written` — the null among the members of a union;
* `Parameter.singleType?_written` — the one name of a type that has only one;
* `Parameter.answers_of_type` — what a parameter of a type answers.
-/

namespace Introspect

open Introspect.Syntax

/-! ## Types -/

/-- The marks of types that are put together from names. -/
def typeMarks : List Char := ['|', '&', '(', ')', '?']

/-- A text without marks and white space. -/
def IsTypeName (text : String) : Prop :=
  ∀ c ∈ text.toList, c ∉ typeMarks ∧ Text.isBlank c = false

instance (text : String) : Decidable (IsTypeName text) :=
  decidable_of_iff
    (text.toList.all (fun c => !typeMarks.contains c && !Text.isBlank c) = true)
    (by simp [IsTypeName])

/-- A name in a type. -/
structure TypeName where
  text : String
  plain : IsTypeName text

/-- Is the name a word, in any letter case? -/
def TypeName.Spells (n : TypeName) (word : String) : Prop := Text.sameFolded n.text word = true

instance (n : TypeName) (word : String) : Decidable (n.Spells word) :=
  inferInstanceAs (Decidable (_ = true))

/-- A member of a union: a name, or an intersection in brackets. -/
inductive UnionMember where
  | name (n : TypeName)
  | bracketed (first : TypeName) (more : List TypeName)

/-- The type of a parameter.  A union of a single name is the name. -/
inductive TypeExpr where
  | name (n : TypeName)
  | nullable (n : TypeName)
  | intersection (first second : TypeName) (more : List TypeName)
  | union (members : List UnionMember) (several : members ≠ [] ∧ ∀ n, members ≠ [.name n])

/-- The tokens of names that are joined by ampersands. -/
def joinedTokens (names : List TypeName) : List String :=
  ["&"].intercalate (names.map fun n => [n.text])

def UnionMember.tokens : UnionMember → List String
  | name n => [n.text]
  | bracketed first more => "(" :: joinedTokens (first :: more) ++ [")"]

def UnionMember.written (m : UnionMember) : String := String.join m.tokens

namespace TypeExpr

def tokens : TypeExpr → List String
  | name n => [n.text]
  | nullable n => ["?", n.text]
  | intersection first second more => joinedTokens (first :: second :: more)
  | union members _ => ["|"].intercalate (members.map UnionMember.tokens)

/-- The type without white space. -/
def written (t : TypeExpr) : String := String.join t.tokens

/-- The one name of a type that is not put together from several. -/
def single? : TypeExpr → Option TypeName
  | name n | nullable n => some n
  | intersection _ _ _ | union _ _ => none

end TypeExpr

/-! ## Characters of types -/

theorem TypeName.not_mem_of_mark (n : TypeName) {c : Char} (mark : c ∈ typeMarks) :
    c ∉ n.text.toList :=
  fun inside => (n.plain c inside).1 mark

theorem join_joinedTokens (names : List TypeName) :
    String.join (joinedTokens names) = Text.joinWith "&" (names.map TypeName.text) := by
  rw [joinedTokens, Text.join_intercalate, List.map_map]
  simp [Function.comp_def]

theorem mem_joined_iff {names : List TypeName} {c : Char} (mark : c ∈ typeMarks) :
    c ∈ (String.join (joinedTokens names)).toList ↔ c = '&' ∧ 2 ≤ names.length := by
  have inNames : ¬∃ part ∈ names.map TypeName.text, c ∈ part.toList := by
    rintro ⟨_, member, inside⟩
    obtain ⟨n, -, rfl⟩ := List.mem_map.1 member
    exact n.not_mem_of_mark mark inside
  rw [join_joinedTokens, Text.mem_joinWith_iff, or_iff_right inNames, List.length_map]
  simp

namespace UnionMember

theorem written_name (n : TypeName) : (name n).written = n.text := by
  simp [written, tokens]

theorem toList_written_bracketed (first : TypeName) (more : List TypeName) :
    (bracketed first more).written.toList =
      '(' :: (String.join (joinedTokens (first :: more))).toList ++ [')'] := by
  simp [written, tokens, String.join_append]

theorem not_mem_written (m : UnionMember) {c : Char} (mark : c = '|' ∨ c = '?') :
    c ∉ m.written.toList := by
  have isMark : c ∈ typeMarks := by rcases mark with rfl | rfl <;> decide
  cases m with
  | name n =>
    rw [written_name]
    exact n.not_mem_of_mark isMark
  | bracketed first more =>
    rw [toList_written_bracketed, List.mem_append, List.mem_cons, mem_joined_iff isMark]
    rcases mark with rfl | rfl <;> simp

end UnionMember

namespace TypeExpr

theorem written_name (n : TypeName) : (name n).written = n.text := by
  simp [written, tokens]

theorem written_nullable (n : TypeName) : (nullable n).written = "?" ++ n.text := by
  simp [written, tokens]

theorem written_union {members : List UnionMember} {several} :
    (union members several).written = Text.joinWith "|" (members.map UnionMember.written) := by
  rw [written, tokens, Text.join_intercalate, List.map_map]
  rfl

/-- A type that is put together shows it by one of three marks, and has no mark of a nullable one. -/
theorem marks_of_single?_eq_none {t : TypeExpr} (several : t.single? = none) :
    '?' ∉ t.written.toList ∧ ∃ c ∈ ['|', '&', '('], c ∈ t.written.toList := by
  cases t with
  | name n => cases several
  | nullable n => cases several
  | intersection first second more =>
    rw [written, tokens, mem_joined_iff (by decide)]
    exact ⟨by simp, '&', by simp, (mem_joined_iff (by decide)).2 ⟨rfl, by simp⟩⟩
  | union members united =>
    rw [written_union]
    constructor
    · rw [Text.mem_joinWith_iff]
      rintro (⟨_, member, inside⟩ | ⟨inside, -⟩)
      · obtain ⟨m, -, rfl⟩ := List.mem_map.1 member
        exact m.not_mem_written (.inr rfl) inside
      · exact absurd inside (by decide)
    · obtain ⟨nonempty, notName⟩ := united
      obtain ⟨first, rest, rfl⟩ := List.exists_cons_of_ne_nil nonempty
      cases rest with
      | cons second rest =>
        -- Two members have a bar between them, and one alone is in brackets.
        exact ⟨'|', by simp, Text.mem_joinWith_iff.2 (.inr ⟨by decide, by simp⟩)⟩
      | nil =>
        cases first with
        | name n => exact absurd rfl (notName n)
        | bracketed first more =>
          refine ⟨'(', by simp, ?_⟩
          simp [UnionMember.toList_written_bracketed]

end TypeExpr

/-! ## Null -/

/-- The name of a type that has null among its values. -/
def TypeName.IsNull (n : TypeName) : Prop :=
  n.Spells "null" ∨ n.Spells "mixed"

def UnionMember.IsNull : UnionMember → Prop
  | name n => n.IsNull
  | bracketed _ _ => False

/-- Null is among the values of the type. -/
def TypeExpr.TakesNull : TypeExpr → Prop
  | name n => n.IsNull
  | nullable _ => True
  | intersection _ _ _ => False
  | union members _ => ∃ m ∈ members, m.IsNull

namespace Parameter

/-- The text of a type that is null or has it. -/
def isNullWord (s : String) : Bool := Text.sameFolded s "null" || Text.sameFolded s "mixed"

theorem isNullWord_iff {n : TypeName} : isNullWord n.text = true ↔ n.IsNull :=
  Bool.or_eq_true_iff

theorem isNullWord_of_mark {s : String} {c : Char} (mark : c ∈ typeMarks) (inside : c ∈ s.toList) :
    isNullWord s = false := by
  have noLetter : c.toLower ∉ (Text.foldCase "null").toList ∧
      c.toLower ∉ (Text.foldCase "mixed").toList := by
    simp only [typeMarks, List.mem_cons, List.not_mem_nil, or_false] at mark
    rcases mark with rfl | rfl | rfl | rfl | rfl <;> decide +kernel
  rw [isNullWord, Text.sameFolded_eq_false_of_mem inside noLetter.1,
    Text.sameFolded_eq_false_of_mem inside noLetter.2]
  rfl

theorem isNullWord_member {m : UnionMember} : isNullWord m.written = true ↔ m.IsNull := by
  cases m with
  | name n => rw [UnionMember.written_name, isNullWord_iff, UnionMember.IsNull]
  | bracketed first more =>
    have noWord : isNullWord (UnionMember.bracketed first more).written = false :=
      isNullWord_of_mark (c := '(') (by decide) (by simp [UnionMember.toList_written_bracketed])
    simp [noWord, UnionMember.IsNull]

theorem hintAllowsNull_of_free {hint : String} (free : '?' ∉ hint.toList) :
    hintAllowsNull hint = (Text.split '|' hint).any isNullWord := by
  have unmarked : Text.startsWith hint "?" = false := by
    rw [Bool.eq_false_iff, ne_eq, Text.startsWith_iff]
    rintro ⟨rest, rfl⟩
    exact free (by simp)
  rw [hintAllowsNull, unmarked]
  rfl

theorem hintAllowsNull_written (t : TypeExpr) : hintAllowsNull t.written = true ↔ t.TakesNull := by
  cases t with
  | name n =>
    rw [TypeExpr.written_name, hintAllowsNull_of_free (n.not_mem_of_mark (by decide)),
      Text.split_of_not_mem (n.not_mem_of_mark (by decide))]
    simp [isNullWord_iff, TypeExpr.TakesNull]
  | nullable n =>
    have marked : Text.startsWith (TypeExpr.nullable n).written "?" = true :=
      Text.startsWith_iff.2 ⟨n.text, TypeExpr.written_nullable n⟩
    simp [hintAllowsNull, marked, TypeExpr.TakesNull]
  | intersection first second more =>
    -- The text is not cut, and an ampersand is in no word.
    have free := (TypeExpr.marks_of_single?_eq_none (t := .intersection first second more) rfl).1
    have whole : '|' ∉ (TypeExpr.intersection first second more).written.toList :=
      fun inside => absurd ((mem_joined_iff (by decide)).1 inside).1 (by decide)
    have noWord : isNullWord (TypeExpr.intersection first second more).written = false :=
      isNullWord_of_mark (c := '&') (by decide) ((mem_joined_iff (by decide)).2 ⟨rfl, by simp⟩)
    rw [hintAllowsNull_of_free free, Text.split_of_not_mem whole]
    simp [noWord, TypeExpr.TakesNull]
  | union members united =>
    -- Bars stand between members only, so that the text is cut into these.
    have free := (TypeExpr.marks_of_single?_eq_none (t := .union members united) rfl).1
    have parts : Text.split '|' (TypeExpr.union members united).written =
        members.map UnionMember.written := by
      rw [TypeExpr.written_union]
      refine Text.split_joinWith rfl (by simpa using united.1) fun _ member => ?_
      obtain ⟨m, -, rfl⟩ := List.mem_map.1 member
      exact m.not_mem_written (.inl rfl)
    rw [hintAllowsNull_of_free free, parts, List.any_map, List.any_eq_true]
    simp [isNullWord_member, TypeExpr.TakesNull]

theorem allowsNull_iff {p : Parameter} {t : TypeExpr} (typed : p.typeHint = some t.written) :
    p.allowsNull = true ↔
      t.TakesNull ∨ ∃ d ∈ p.default, Text.sameFolded d.compactText "null" = true := by
  rw [allowsNull, typed, Bool.or_eq_true, hintAllowsNull_written, defaultsToNull, Option.any_eq_true]
  simp

end Parameter

/-! ## One name -/

/-- The name of a type that is no class. -/
def TypeName.IsBuiltin (n : TypeName) : Prop := ∃ b ∈ builtinTypes, n.Spells b

/-- A word for the class at hand. -/
def TypeName.IsOwnClass (n : TypeName) : Prop := n.Spells "self" ∨ n.Spells "static"

instance (n : TypeName) : Decidable n.IsBuiltin :=
  inferInstanceAs (Decidable (∃ b ∈ builtinTypes, _))

instance (n : TypeName) : Decidable n.IsOwnClass := inferInstanceAs (Decidable (_ ∨ _))

/-- Without the mark of a nullable one, a type of one name is that name. -/
theorem TypeExpr.dropLeading_written {t : TypeExpr} {n : TypeName} (single : t.single? = some n) :
    Text.dropLeading '?' t.written = n.text := by
  have free : '?' ∉ n.text.toList := n.not_mem_of_mark (by decide)
  cases t with
  | name n =>
    cases single
    rw [written_name, Text.dropLeading_of_not_mem free]
  | nullable n =>
    cases single
    have marked : Text.dropLeading '?' ("?" ++ n.text) = Text.dropLeading '?' n.text := by
      simp [Text.dropLeading]
    rw [written_nullable, marked, Text.dropLeading_of_not_mem free]
  | intersection first second more => cases single
  | union members united => cases single

namespace Parameter

theorem singleType?_eq {p : Parameter} {hint : String} (typed : p.typeHint = some hint) :
    p.singleType? =
      if (Text.dropLeading '?' hint).toList.any fun c => c == '|' || c == '&' || c == '(' then none
      else some (Text.dropLeading '?' hint) := by
  rw [singleType?, typed]
  rfl

theorem singleType?_written {p : Parameter} {t : TypeExpr} (typed : p.typeHint = some t.written) :
    p.singleType? = t.single?.map TypeName.text := by
  rw [singleType?_eq typed]
  cases single : t.single? with
  | some n =>
    -- Names have no marks, so that the name is all there is.
    rw [TypeExpr.dropLeading_written single, if_neg]
    · rfl
    · rw [List.any_eq_true]
      rintro ⟨c, inside, mark⟩
      refine n.not_mem_of_mark (c := c) ?_ inside
      simp only [Bool.or_eq_true, beq_iff_eq] at mark
      rcases mark with (rfl | rfl) | rfl <;> decide
  | none =>
    obtain ⟨free, c, mark, inside⟩ := TypeExpr.marks_of_single?_eq_none single
    rw [Text.dropLeading_of_not_mem free, if_pos]
    · rfl
    · exact List.any_eq_true.2 ⟨c, inside, by simpa [or_assoc] using mark⟩

section

variable {p : Parameter}

theorem any_singleType?_iff {t : TypeExpr} (typed : p.typeHint = some t.written) (word : String) :
    (p.singleType?.any fun s => Text.sameFolded s word) = true ↔ ∃ n ∈ t.single?, n.Spells word := by
  rw [singleType?_written typed, Option.any_map, Option.any_eq_true]
  rfl

variable {n : TypeName} (single : p.singleType? = some n.text)
include single

theorem className?_of_builtin (builtin : n.IsBuiltin) : p.className? = none := by
  obtain ⟨b, listed, same⟩ := builtin
  have known : (builtinTypes.any fun b => Text.sameFolded b n.text) = true :=
    List.any_eq_true.2 ⟨b, listed, (Text.sameFolded_comm b n.text).trans same⟩
  rw [className?, single, Option.bind_eq_bind, Option.bind_some, if_pos known]

theorem className?_of_not_builtin (other : ¬n.IsBuiltin) :
    p.className? = if Text.sameFolded n.text "self" || Text.sameFolded n.text "static" then
        p.owner.declaringClass
      else some (p.owner.scope.resolve n.text) := by
  have unknown : ¬(builtinTypes.any fun b => Text.sameFolded b n.text) = true := by
    rw [List.any_eq_true]
    rintro ⟨b, listed, same⟩
    exact other ⟨b, listed, (Text.sameFolded_comm n.text b).trans same⟩
  rw [className?, single, Option.bind_eq_bind, Option.bind_some, if_neg unknown]

theorem className?_of_ownClass (other : ¬n.IsBuiltin) (own : n.IsOwnClass) :
    p.className? = p.owner.declaringClass := by
  rw [className?_of_not_builtin single other, if_pos (Bool.or_eq_true_iff.2 own)]

theorem className?_of_other (other : ¬n.IsBuiltin) (foreign : ¬n.IsOwnClass) :
    p.className? = some (p.owner.scope.resolve n.text) := by
  rw [className?_of_not_builtin single other, if_neg (mt Bool.or_eq_true_iff.1 foreign)]

theorem className?_eq_none_iff :
    p.className? = none ↔ n.IsBuiltin ∨ (n.IsOwnClass ∧ p.owner.declaringClass = none) := by
  by_cases builtin : n.IsBuiltin
  · simp [className?_of_builtin single builtin, builtin]
  · by_cases own : n.IsOwnClass
    · simp [className?_of_ownClass single builtin own, builtin, own]
    · simp [className?_of_other single builtin own, builtin, own]

end

/-! ## Types as they stand in a declaration -/

/-- However the tokens of a type are nested and spaced, they are what the parameter keeps of it. -/
theorem typeHint_ofNode {owner : ParameterOwner} {node typeNode : Node} {position : Nat}
    {optional : Bool} {t : TypeExpr} (typed : node.childByField? "type" = some typeNode)
    (spelled : typeNode.leafTexts.map Text.squeeze = t.tokens) :
    (ofNode owner node position optional).typeHint = some t.written := by
  have compact : typeNode.compactText = t.written := by
    rw [Node.compactText, Node.text, Text.squeeze_joinWith (by decide +kernel), spelled]
    rfl
  simp [ofNode, typed, compact]

/-- What the questions about the type of a parameter are answered, by the structure of the type.
Without a type, null is taken and no class is named.  A type as it stands in a declaration, however
nested and spaced, is kept as it is written here. -/
theorem answers_of_type (p : Parameter) :
    (p.typeHint = none →
      p.allowsNull = true ∧ p.isArray = false ∧ p.isCallable = false ∧ p.className? = none) ∧
    (∀ t : TypeExpr, p.typeHint = some t.written →
      (p.allowsNull = true ↔
        t.TakesNull ∨ ∃ d ∈ p.default, Text.sameFolded d.compactText "null" = true) ∧
      (p.isArray = true ↔ ∃ n ∈ t.single?, n.Spells "array") ∧
      (p.isCallable = true ↔ ∃ n ∈ t.single?, n.Spells "callable") ∧
      (p.className? = none ↔ t.single? = none ∨
        ∃ n ∈ t.single?, n.IsBuiltin ∨ (n.IsOwnClass ∧ p.owner.declaringClass = none)) ∧
      ∀ n ∈ t.single?, ¬n.IsBuiltin →
        (n.IsOwnClass → p.className? = p.owner.declaringClass) ∧
        (¬n.IsOwnClass →
          (∀ rest, n.text = "\\" ++ rest → p.className? = some rest) ∧
          ((∀ rest, n.text ≠ "\\" ++ rest) →
            p.className? = some (p.owner.scope.qualify n.text)))) ∧
    ∀ owner node position optional typeNode, ∀ t : TypeExpr,
      node.childByField? "type" = some typeNode →
      typeNode.leafTexts.map Text.squeeze = t.tokens →
      (ofNode owner node position optional).typeHint = some t.written := by
  refine ⟨fun untyped => ?_, fun t typed => ?_, fun _ _ _ _ _ _ => typeHint_ofNode⟩
  · have noType : p.singleType? = none := by rw [singleType?, untyped]; rfl
    simp [allowsNull, isArray, isCallable, className?, noType, untyped]
  · refine ⟨allowsNull_iff typed, any_singleType?_iff typed "array", any_singleType?_iff typed "callable",
      ?_, fun n isName other => ?_⟩
    · cases single : t.single? with
      | none => simp [className?, singleType?_written typed, single]
      | some n =>
        have named : p.singleType? = some n.text := by rw [singleType?_written typed, single]; rfl
        simp [className?_eq_none_iff named]
    · have named : p.singleType? = some n.text := by rw [singleType?_written typed, isName]; rfl
      refine ⟨className?_of_ownClass named other, fun foreign => ?_⟩
      rw [className?_of_other named other foreign]
      refine ⟨fun rest rooted => ?_, fun relative => ?_⟩
      · rw [rooted]
        exact congrArg some (Namespace.resolve_rooted _ rest)
      · rw [Namespace.resolve_of_unrooted _ relative]

/-- The parameters of a function in a namespace, with types of several forms and without one. -/
def typedParameters : List Parameter :=
  let source := Source.evaluated
    "<?php namespace N; function f(X|(Y&Z)|NULL $a, ? \\D $b, E $c, $d)\x7b\x7d"
  match resolveOne 200 source (.ofName .function "N\\f") with
  | .ok (some (.ofFunction f)) => f.parameters
  | _ => []

/-- A declared parameter whose nullable type is written with blanks. -/
def spacedParameter : Node :=
  .mk "simple_parameter" true none none none
    [.mk "optional_type" true (some "type") none none
      [.mk "?" false none none (some "?") [],
        .mk "named_type" true none none none [.mk "name" true none none (some " X ") []]]]

theorem answers_of_type_severalForms :
    ∃ a b c d, typedParameters = [a, b, c, d] ∧
      (a.typeHint = some "X|(Y&Z)|NULL" ∧ a.allowsNull = true ∧ a.className? = none) ∧
      (b.typeHint = some "?\\D" ∧ b.isArray = false ∧ b.className? = some "D") ∧
      (c.typeHint = some "E" ∧ c.className? = some "N\\E") ∧
      (d.typeHint = none ∧ d.allowsNull = true) ∧
      (ofNode a.owner spacedParameter 0 false).typeHint = some "?X" := by
  let x : TypeName := ⟨"X", by decide +kernel⟩
  let y : TypeName := ⟨"Y", by decide +kernel⟩
  let z : TypeName := ⟨"Z", by decide +kernel⟩
  let null : TypeName := ⟨"NULL", by decide +kernel⟩
  let rooted : TypeName := ⟨"\\D", by decide +kernel⟩
  let e : TypeName := ⟨"E", by decide +kernel⟩
  let union : TypeExpr := .union [.name x, .bracketed y [z], .name null] (by simp)
  have kept : typedParameters.map (fun p => (p.typeHint, p.owner.scope)) =
      [(some union.written, ⟨["N"]⟩), (some (TypeExpr.nullable rooted).written, ⟨["N"]⟩),
        (some (TypeExpr.name e).written, ⟨["N"]⟩), (none, ⟨["N"]⟩)] := by
    decide +kernel
  obtain ⟨a, _, first, ofA, kept⟩ := List.map_eq_cons_iff.1 kept
  obtain ⟨b, _, rfl, ofB, kept⟩ := List.map_eq_cons_iff.1 kept
  obtain ⟨c, _, rfl, ofC, kept⟩ := List.map_eq_cons_iff.1 kept
  obtain ⟨d, _, rfl, ofD, kept⟩ := List.map_eq_cons_iff.1 kept
  obtain rfl := List.map_eq_nil_iff.1 kept
  obtain ⟨typeA, -⟩ := Prod.mk.inj ofA
  obtain ⟨typeB, -⟩ := Prod.mk.inj ofB
  obtain ⟨typeC, scopeC⟩ := Prod.mk.inj ofC
  obtain ⟨typeD, -⟩ := Prod.mk.inj ofD
  obtain ⟨-, typedA, declared⟩ := answers_of_type a
  obtain ⟨nullA, -, -, classA, -⟩ := typedA union typeA
  obtain ⟨-, arrayB, -, -, classB⟩ := (answers_of_type b).2.1 (.nullable rooted) typeB
  obtain ⟨-, -, -, -, classC⟩ := (answers_of_type c).2.1 (.name e) typeC
  have noArray : ¬∃ n ∈ (TypeExpr.nullable rooted).single?, n.Spells "array" := by decide +kernel
  have relative : ∀ rest, e.text ≠ "\\" ++ rest := Text.strip?_eq_none_iff.1 (by decide +kernel)
  have inScope : c.className? = some (c.owner.scope.qualify "E") :=
    ((classC e rfl (by decide +kernel)).2 (by decide +kernel)).2 relative
  refine ⟨a, b, c, d, first, ⟨typeA, ?_, classA.2 (.inl rfl)⟩, ⟨typeB, ?_, ?_⟩, ⟨typeC, ?_⟩,
    ⟨typeD, ((answers_of_type d).1 typeD).1⟩, ?_⟩
  · exact nullA.2 (.inl ⟨.name null, by simp, .inl (by decide +kernel)⟩)
  · exact Bool.eq_false_iff.2 (mt arrayB.1 noArray)
  · exact ((classB rooted rfl (by decide +kernel)).2 (by decide +kernel)).1 "D" rfl
  · rw [inScope, scopeC]
    decide +kernel
  · exact declared a.owner spacedParameter 0 false _ (.nullable x) rfl (by decide +kernel)

end Parameter

end Introspect
