import Introspect.Grammar.Functions
import Introspect.Proofs.Grammar.Additions
import Introspect.Proofs.Syntax.Copy

/-! # Parameters as the grammar reads them

* `adds_typeExpr`, `AboutFields.adds_attributes` — what types and attributes leave between tokens;
* `RestIsBare`, `restIsBare_parameterFor` — a parameter for all remaining arguments has no default
  value;
* `restIsBare_parameters` — so it is with all parameters in a list.
-/

namespace Introspect.Grammar.Parser

open Introspect.Syntax

/-! ## Types -/

theorem looks_nextIsPrimitive : Looks nextIsPrimitive :=
  looks_read.bind fun _ => looks_next.bind fun _ => looks_pure _

theorem looks_nextJoinsTypes : Looks nextJoinsTypes := by
  refine (looks_nextIs "&").bind fun joined => ?_
  split
  · exact (looks_markAfter 1).bind fun _ => looks_pure _
  · exact looks_pure _

section

variable {q : ParseTree → Prop} (loose : Loose q)
include loose

theorem adds_plainType : Adds q plainType := by
  refine (adds_settle loose).bind fun _ => looks_nextIsPrimitive.adds.bind fun _ =>
    AddsFor.ite ?_ ?_
  · exact looks_read.adds.bind fun _ => looks_get.adds.bind fun _ => adds_takeTo _ _ _
  · exact adds_buildWith loose _

theorem adds_simpleType : Adds q simpleType :=
  (adds_settle loose).bind fun _ => (looks_nextIs "?").adds.bind fun _ =>
    AddsFor.ite (adds_buildWith loose _) (adds_plainType loose)

theorem adds_typeExpr : Adds q typeExpr := by
  refine (adds_settle loose).bind fun _ => (looks_nextIs "(").adds.bind fun _ => AddsFor.ite ?_ ?_
  · exact adds_buildWith loose _
  · refine (adds_simpleType loose).bind fun first => looks_nextJoinsTypes.adds.bind fun _ =>
      AddsFor.ite (adds_extend _ _) ?_
    exact (looks_nextIs "|").adds.bind fun _ =>
      AddsFor.ite (adds_extend _ _) (looks_pure _).adds

end

/-! ## Parameters -/

section

variable {names : List String} {q : ParseTree → Prop} (about : AboutFields names q)
include about

theorem AboutFields.adds_attributes (elsewhere : "attributes" ∉ names) (rules : Rules) :
    Adds q (attributes rules) :=
  (looks_nextIs "#[").adds.bind fun _ =>
    AddsFor.ite (about.adds_field elsewhere (adds_buildWith about.loose _)) (looks_pure _).adds

theorem AboutFields.adds_parameterType (elsewhere : "type" ∉ names) : Adds q parameterType :=
  looks_nextMark.adds.bind fun _ =>
    AddsFor.ite (looks_pure _).adds (about.adds_field elsewhere (adds_typeExpr about.loose))

end

/-- If the tree is a parameter for all remaining arguments, it has no default value. -/
def RestIsBare (t : ParseTree) : Prop :=
  t.kind = "variadic_parameter" → ∀ c ∈ t.children, c.field ≠ some "default_value"

theorem loose_restIsBare : Loose RestIsBare := by
  intro t _ token variadic
  rcases token with childless | page
  · simp [childless]
  · rw [page] at variadic
    exact absurd variadic (by decide)

/-- A parameter that takes all remaining arguments has attributes, a type, the mark of a reference and
a name at most. -/
theorem restIsBare_parameterFor (rules : Rules) (fuel : Nat) :
    Answers RestIsBare (parameterFor rules fuel) := by
  have about : AboutFields ["default_value"] fun c => c.field ≠ some "default_value" :=
    fun _ elsewhere => elsewhere _ List.mem_cons_self
  cases fuel with
  | zero => exact reads_failure.answers
  | succ fuel =>
    refine @AddsFor.children _ (· = "variadic_parameter") _ ?_
    refine (about.adds_attributes (by decide) rules).bind fun _ =>
      looks_nextWord.adds.bind fun _ => AddsFor.ite ?_ ?_
    · -- A parameter that declares a property has another kind, whatever it collects.
      exact Answers.addsFor (.bind fun _ => .bind fun _ => answers_pure (by decide))
    · refine (about.adds_parameterType (by decide)).bind fun _ => (looks_nextIs "&").adds.bind
        fun _ => ?_
      refine AddsFor.stepIf (about.adds_field (by decide) (adds_buildWith about.loose _))
        fun _ => ?_
      refine (looks_nextIs "...").adds.bind fun _ => AddsFor.ite ?_ ?_
      · exact (adds_mark about.loose _).bind fun _ =>
          (about.adds_field (by decide) (adds_buildWith about.loose _)).bind fun _ =>
            (looks_pure _).adds.addsFor
      · exact Answers.addsFor (.bind fun _ => .bind fun _ => answers_pure (by decide))

theorem reads_parameter (rules : Rules) : Reads RestIsBare (parameter rules) := by
  refine .bind looks_rounds.adds fun fuel => ⟨restIsBare_parameterFor rules fuel, ?_⟩
  cases fuel with
  | zero => exact reads_failure.adds
  | succ fuel => exact adds_buildWith loose_restIsBare _

theorem restIsBare_parameters (rules : Rules) :
    Answers (fun list => ∀ p ∈ list.children, RestIsBare p) (parameters rules) :=
  children_build (adds_bracketed loose_restIsBare
    (adds_looseListUntil loose_restIsBare _ (reads_parameter rules).child) _ _)

end Introspect.Grammar.Parser
