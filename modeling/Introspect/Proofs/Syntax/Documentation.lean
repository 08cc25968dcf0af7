import Introspect.Syntax.Doc

/-! # Documentation by position

A tracker that has observed some siblings holds what can be read off those siblings alone:
the last documentation comment in the run of comments that ends them.

* `docBehind` — the documentation that siblings leave for the next one;
* `observe_docBehind` — one observation, in terms of `docBehind`.
-/

namespace Introspect.Syntax

/-- The documentation that siblings, each given by kind and text, leave for the next one: the
last documentation comment in the run of comments at their end. -/
def docBehind (before : List (String × String)) : Option String :=
  ((before.reverse.takeWhile fun s => s.1 == "comment").map Prod.snd).find?
    (Text.startsWith · "/**")

/-- A comment takes the place of the pending documentation if it is documentation itself. -/
theorem docBehind_comment (before : List (String × String)) (text : String) :
    docBehind (before ++ [("comment", text)]) =
      if Text.startsWith text "/**" then some text else docBehind before := by
  simp only [docBehind, List.reverse_append, List.reverse_cons, List.reverse_nil, List.nil_append,
    List.cons_append, List.takeWhile_cons, beq_self_eq_true, if_true, List.map_cons,
    List.find?_cons]
  cases Text.startsWith text "/**" <;> rfl

/-- Nothing is left behind a sibling that is no comment. -/
theorem docBehind_other (before : List (String × String)) {kind : String} (text : String)
    (other : kind ≠ "comment") : docBehind (before ++ [(kind, text)]) = none := by
  have stops : (kind == "comment") = false := by simpa using other
  simp [docBehind, stops]

/-- What a tracker answers and holds, once it has observed the siblings `before`. -/
theorem observe_docBehind (before : List (String × String)) (kind text : String) :
    DocTracker.observe ⟨docBehind before⟩ kind text =
      (if kind == "comment" then none else docBehind before,
        ⟨docBehind (before ++ [(kind, text)])⟩) := by
  by_cases isComment : kind = "comment"
  · subst isComment
    rw [docBehind_comment]
    simp only [DocTracker.observe, beq_self_eq_true, if_true]
    cases Text.startsWith text "/**" <;> rfl
  · rw [docBehind_other before text isComment]
    simp [DocTracker.observe, isComment]

end Introspect.Syntax
