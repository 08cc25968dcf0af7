import Mathlib.Order.Bounds.Basic
import Introspect.Proofs.Reflection.BodyReplacement
import Introspect.Proofs.Reflection.Declared

/-! # Required parameters come first

A caller may leave out a parameter only with all parameters behind it:

* `getElem?_optionalFlags` — a flag tells whether all from its place on have default values;
* `optionalFlags_eq_replicate` — required parameters stand before optional ones;
* `parameters_required_first` — the parameters of a function, in order, with the number of required
  ones as the bound between the two;
* `declaresDefault_of_variadic` — a parameter for all remaining arguments has no default value, so
  that behind others it makes all of them required.
-/

namespace Introspect

open Introspect.Syntax

/-! ## Flags -/

theorem optionalFlags_cons (d : Bool) (ds : List Bool) :
    optionalFlags (d :: ds) = (d && (optionalFlags ds).headD true) :: optionalFlags ds := rfl

@[simp] theorem length_optionalFlags (ds : List Bool) : (optionalFlags ds).length = ds.length := by
  induction ds with
  | nil => rfl
  | cons d ds ih => rw [optionalFlags_cons, List.length_cons, List.length_cons, ih]

theorem headD_optionalFlags (ds : List Bool) : (optionalFlags ds).headD true = ds.all id := by
  induction ds with
  | nil => rfl
  | cons d ds ih => rw [optionalFlags_cons, List.headD_cons, ih, List.all_cons, id]

theorem getElem?_optionalFlags (ds : List Bool) (i : Nat) :
    (optionalFlags ds)[i]? = ds[i]?.map fun _ => (ds.drop i).all id := by
  induction ds generalizing i with
  | nil => rfl
  | cons d ds ih =>
    rw [optionalFlags_cons, headD_optionalFlags]
    cases i with
    | zero => rfl
    | succ i => simpa using ih i

theorem optionalFlags_eq_replicate (ds : List Bool) :
    ∃ required optional,
      optionalFlags ds = List.replicate required false ++ List.replicate optional true := by
  induction ds with
  | nil => exact ⟨0, 0, rfl⟩
  | cons d ds ih =>
    obtain ⟨required, optional, eq⟩ := ih
    rw [optionalFlags_cons, eq]
    cases required with
    | zero =>
      -- Nothing behind is required, so that the parameter decides for itself.
      cases d with
      | false => exact ⟨1, optional, rfl⟩
      | true => exact ⟨0, optional + 1, by cases optional <;> rfl⟩
    | succ required => exact ⟨required + 2, optional, by simp [List.replicate_succ]⟩

/-- How many parameters a caller has to give. -/
def requiredIn (ds : List Bool) : Nat := ((optionalFlags ds).filter (!·)).length

theorem optionalFlags_eq (ds : List Bool) :
    optionalFlags ds =
      List.replicate (requiredIn ds) false ++
        List.replicate (ds.length - requiredIn ds) true := by
  obtain ⟨required, optional, eq⟩ := optionalFlags_eq_replicate ds
  have count : requiredIn ds = required := by simp [requiredIn, eq]
  have total : ds.length = required + optional := by
    rw [← length_optionalFlags, eq]
    simp
  rw [count, total, eq, Nat.add_sub_cancel_left]

theorem requiredIn_le_length (ds : List Bool) : requiredIn ds ≤ ds.length := by
  rw [← length_optionalFlags]
  exact List.length_filter_le _ _

theorem getElem?_optionalFlags_eq (ds : List Bool) (i : Nat) :
    (optionalFlags ds)[i]? = ds[i]?.map fun _ => decide (requiredIn ds ≤ i) := by
  have bound := requiredIn_le_length ds
  rw [optionalFlags_eq, List.getElem?_append, List.getElem?_replicate, List.getElem?_replicate,
    List.length_replicate]
  by_cases isRequired : i < requiredIn ds
  · have present : i < ds.length := by omega
    simp [isRequired, present]
  · by_cases present : i < ds.length
    · have inside : i - requiredIn ds < ds.length - requiredIn ds := by omega
      simp [isRequired, present, inside]
      omega
    · have outside : ¬ i - requiredIn ds < ds.length - requiredIn ds := by omega
      simp [isRequired, present, outside]

theorem isLeast_requiredIn (ds : List Bool) :
    IsLeast {k | ∀ i, k ≤ i → ∀ d, ds[i]? = some d → d = true} (requiredIn ds) := by
  have flag (i : Nat) (present : i < ds.length) :
      (ds.drop i).all id = decide (requiredIn ds ≤ i) := by
    have both := (getElem?_optionalFlags ds i).symm.trans (getElem?_optionalFlags_eq ds i)
    simpa [present] using both
  constructor
  · intro i behind d found
    obtain ⟨present, rfl⟩ := List.getElem?_eq_some_iff.1 found
    have all := flag i present
    rw [decide_eq_true behind, List.drop_eq_getElem_cons present, List.all_cons,
      Bool.and_eq_true] at all
    exact all.1
  · intro k defaults
    by_contra before
    have present : k < ds.length := by have := requiredIn_le_length ds; omega
    have all : (ds.drop k).all id = true := by
      rw [List.all_eq_true]
      intro d member
      obtain ⟨j, found⟩ := List.getElem?_of_mem member
      rw [List.getElem?_drop] at found
      exact defaults (k + j) (by omega) d found
    rw [flag k present] at all
    exact before (of_decide_eq_true all)

/-! ## Declarations -/

/-- Does the declaration of a parameter give a default value? -/
def declaresDefault (p : Node) : Bool := (p.childByField? "default_value").isSome

/-- The declaration is a copy of one that the grammar reads. -/
def ReadAsParameter (p : Node) : Prop :=
  ∃ source field rules fuel ctx s t s',
    Grammar.Parser.parameterFor rules fuel ctx s = some (t, s') ∧ p = Node.copy source field t

theorem declaresDefault_of_variadic {p : Node} (read : ReadAsParameter p)
    (variadic : p.kind = "variadic_parameter") : declaresDefault p = false := by
  obtain ⟨source, field, rules, fuel, ctx, s, t, s', ran, rfl⟩ := read
  rw [Node.kind_copy] at variadic
  have bare := Grammar.Parser.restIsBare_parameterFor rules fuel ran variadic
  rw [declaresDefault, Option.isSome_eq_false_iff, Option.isNone_iff_eq_none, Node.childByField?,
    List.find?_eq_none]
  intro c member
  obtain ⟨u, child, rfl⟩ := Node.exists_of_mem_children_copy member
  simpa using bare u child

/-- From the place `k` on, all declarations give default values. -/
def DefaultsFrom (declarations : List Node) (k : Nat) : Prop :=
  ∀ i, k ≤ i → ∀ p, declarations[i]? = some p → declaresDefault p = true

/-! ## Functions -/

namespace Function

theorem sameButBody_afterCalls (f : Function) (rs : List Replacement) :
    SameButBody f (f.afterCalls rs) := by
  have run := afterCalls_cases f rs
  split at run
  · rw [run]
    exact ⟨rfl, rfl, rfl, rfl, rfl, rfl, rfl⟩
  · exact sameButBody_of_replaceBody run

section

variable {f : Function}
  (flags : f.optional = optionalFlags ((parameterNodes f.node).map declaresDefault))
include flags

theorem requiredCount_eq :
    f.requiredCount = requiredIn ((parameterNodes f.node).map declaresDefault) := by
  rw [requiredCount, flags, requiredIn]

theorem parameterCount_eq : f.parameterCount = (parameterNodes f.node).length := by
  rw [parameterCount, flags, length_optionalFlags, List.length_map]

theorem length_parameters : f.parameters.length = f.parameterCount := by
  have counted := parameterCount_eq flags
  rw [parameterCount] at counted ⊢
  simp [parameters, counted]

theorem isLeast_requiredCount :
    IsLeast {k | DefaultsFrom (parameterNodes f.node) k} f.requiredCount := by
  rw [requiredCount_eq flags]
  convert isLeast_requiredIn ((parameterNodes f.node).map declaresDefault) using 3 with k
  simp [DefaultsFrom]

theorem getElem?_parameters (i : Nat) :
    f.parameters[i]? = (parameterNodes f.node)[i]?.map fun p =>
      Parameter.ofNode ⟨f.name, f.declaringClassName?, f.scope⟩ p i
        (decide (f.requiredCount ≤ i)) := by
  have flag := getElem?_optionalFlags_eq ((parameterNodes f.node).map declaresDefault) i
  rw [← flags, ← requiredCount_eq flags, List.getElem?_map] at flag
  rw [parameters, List.getElem?_map, List.getElem?_zipIdx, List.zip, List.getElem?_zipWith, flag]
  cases (parameterNodes f.node)[i]? with
  | none => rfl
  | some p => simp

theorem parameter_at {i : Nat} {q : Parameter} (found : f.parameters[i]? = some q) :
    q.position = i ∧ (q.optional = true ↔ f.requiredCount ≤ i) ∧
      (q.optional = true → q.default.isSome = true) := by
  rw [getElem?_parameters flags, Option.map_eq_some_iff] at found
  obtain ⟨p, declaration, rfl⟩ := found
  refine ⟨rfl, decide_eq_true_iff, fun optional => ?_⟩
  exact (isLeast_requiredCount flags).1 i (of_decide_eq_true optional) p declaration

theorem optional_eq_false_of_last {last : Node}
    (isLast : last ∈ (parameterNodes f.node).getLast?) (bare : declaresDefault last = false) :
    ∀ q ∈ f.parameters, q.optional = false := by
  intro q member
  obtain ⟨i, found⟩ := List.getElem?_of_mem member
  obtain ⟨-, optional, -⟩ := parameter_at flags found
  have inside : i < (parameterNodes f.node).length := by
    rw [← parameterCount_eq flags, ← length_parameters flags]
    exact (List.getElem?_eq_some_iff.1 found).1
  rw [Bool.eq_false_iff, Ne, optional]
  -- All from the place of `q` on would have default values, the last one with them.
  intro behind
  rw [Option.mem_def, List.getLast?_eq_getElem?] at isLast
  have given := (isLeast_requiredCount flags).1 _ (by omega) last isLast
  rw [bare] at given
  cases given

end

end Function

/-- For every declaration of a function or method and behind every run of replaced bodies, let `k` be
the first place from which on all parameters have default values.  Then there are as many parameters
as the declaration has, in its order and with their places; the one at place `i` is optional exactly
if `k ≤ i`, and `k` parameters are required.  An optional parameter has a default value.  If the last
parameter has none, no parameter is optional; and where a lookup found the function, a last parameter
that takes all remaining arguments has none. -/
theorem parameters_required_first {node : Node} {source : Source} {scope : Namespace}
    {doc : Option String} {owner : Option MethodOwner} {f : Function}
    (declared : Function.ofNode? node source scope doc owner = some f) (rs : List Replacement) :
    ∃ k, IsLeast {k | DefaultsFrom (parameterNodes node) k} k ∧
      (f.afterCalls rs).requiredCount = k ∧
      (f.afterCalls rs).parameterCount = (parameterNodes node).length ∧
      (f.afterCalls rs).parameters.length = (f.afterCalls rs).parameterCount ∧
      (∀ i, (f.afterCalls rs).parameters[i]? = (parameterNodes node)[i]?.map fun p =>
        Parameter.ofNode ⟨f.name, f.declaringClassName?, scope⟩ p i (decide (k ≤ i))) ∧
      (∀ i q, (f.afterCalls rs).parameters[i]? = some q →
        q.position = i ∧ (q.optional = true ↔ k ≤ i) ∧
          (q.optional = true → q.default.isSome = true)) ∧
      ∀ last ∈ (parameterNodes node).getLast?,
        (last.kind = "variadic_parameter" → f.Declared ∨ ReadAsParameter last →
          declaresDefault last = false) ∧
        (declaresDefault last = false →
          ∀ q ∈ (f.afterCalls rs).parameters, q.optional = false) := by
  obtain ⟨-, eq⟩ := Function.eq_of_ofNode? declared
  obtain rfl : f.node = node := by rw [eq]
  obtain rfl : f.scope = scope := by rw [eq]
  have flags : f.optional = optionalFlags ((parameterNodes f.node).map declaresDefault) := by
    rw [eq]
    rfl
  have same := f.sameButBody_afterCalls rs
  have required : (f.afterCalls rs).requiredCount = f.requiredCount := by
    rw [Function.requiredCount, same.optional, Function.requiredCount]
  have total : (f.afterCalls rs).parameterCount = f.parameterCount := by
    rw [Function.parameterCount, same.optional, Function.parameterCount]
  refine ⟨f.requiredCount, Function.isLeast_requiredCount flags, required, ?_, ?_, ?_, ?_, ?_⟩
  · rw [total, Function.parameterCount_eq flags]
  · rw [total, same.parameters, Function.length_parameters flags]
  · rw [same.parameters]
    exact Function.getElem?_parameters flags
  · rw [same.parameters]
    exact fun i q => Function.parameter_at flags
  · intro last isLast
    rw [same.parameters]
    refine ⟨fun variadic origin => ?_, Function.optional_eq_false_of_last flags isLast⟩
    rcases origin with found | read
    · rw [declaresDefault, f.bare_of_declared found (List.mem_of_getLast? isLast) variadic]
      rfl
    · exact declaresDefault_of_variadic read variadic

/-- Before a parameter for all remaining arguments, a default value is of no use. -/
theorem parameters_required_first_rest :
    ∃ f, functionIn? "<?php function f($a = 1, ...$rest)\x7b\x7d" "f" = some f ∧ f.Declared ∧
      (parameterNodes f.node).map declaresDefault = [true, false] ∧
      (f.afterCalls [.closure (closureNode [yieldStatement])]).parameterCount = 2 ∧
      ∀ q ∈ (f.afterCalls [.closure (closureNode [yieldStatement])]).parameters,
        q.optional = false := by
  have checked : ((functionIn? "<?php function f($a = 1, ...$rest)\x7b\x7d" "f").any fun f =>
      (parameterNodes f.node).map declaresDefault == [true, false] &&
      (parameterNodes f.node).getLast?.any fun p => p.kind == "variadic_parameter") = true := by
    decide +kernel
  obtain ⟨f, found, checked⟩ := (Option.any_eq_true _ _).1 checked
  obtain ⟨defaults, checked⟩ := Bool.and_eq_true_iff.1 checked
  obtain ⟨last, isLast, isKind⟩ := (Option.any_eq_true _ _).1 checked
  have declared : f.Declared := Function.declared_of_resolveOne (resolveOne_of_functionIn? found)
  have two : (parameterNodes f.node).map declaresDefault = [true, false] := beq_iff_eq.1 defaults
  obtain ⟨k, -, -, total, -, -, -, rest⟩ := parameters_required_first
    (Function.ofNode?_of_declared declared) [.closure (closureNode [yieldStatement])]
  obtain ⟨bare, allRequired⟩ := rest last isLast
  refine ⟨f, found, declared, two, ?_, allRequired (bare (beq_iff_eq.1 isKind) (.inl declared))⟩
  rw [total, ← List.length_map declaresDefault, two]
  rfl

end Introspect
