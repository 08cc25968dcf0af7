import Introspect.Proofs.Layout.Composition
import Introspect.Proofs.Layout.Tokens

/-! # Printed code

A print holds the code it was made from, token by token, and nothing else but gaps:

* `IsGap` — nothing, a space, or a line break with the blanks of some levels;
* `Spaced` — texts one after another with gaps between neighbours;
* `SameCode` — nodes that differ in comments, spans, fields and marks only;
* `printStatements_spaced` — statements print as their texts, spaced, and prints of the same code
  are equal.
-/

namespace Introspect.Layout

open Introspect.Syntax

/-! ## Gaps -/

/-- Nothing, a space, or a line break with four blanks for each level. -/
def IsGap (g : String) : Prop :=
  g = "" ∨ g = " " ∨ ∃ levels, g = "\n" ++ String.ofList (List.replicate (4 * levels) ' ')

theorem isGap_text (g : Gap) : IsGap g.text := by
  cases g with
  | touch => exact .inl rfl
  | space => exact .inr (.inl rfl)
  | line depth =>
    refine .inr (.inr ⟨depth, ?_⟩)
    have blanks : (List.replicate depth indentation).flatten = List.replicate (4 * depth) ' ' := by
      have four : indentation = List.replicate 4 ' ' := rfl
      rw [four, List.flatten_replicate_replicate, Nat.mul_comm]
    rw [Gap.text, Gap.chars, blanks, ← List.singleton_append, String.ofList_append]

/-- The text `out` is the texts one after another, with a gap between neighbours. -/
inductive Spaced : List String → String → Prop where
  | nothing : Spaced [] ""
  | last (text : String) : Spaced [text] text
  | next (text : String) {gap : String} {following : String} {rest : List String} {out : String} :
      IsGap gap → Spaced (following :: rest) out →
        Spaced (text :: following :: rest) (text ++ gap ++ out)

theorem Spaced.ne_empty {text : String} {rest : List String} {out : String}
    (spaced : Spaced (text :: rest) out) (nonempty : text ≠ "") : out ≠ "" := by
  cases spaced with
  | last => exact nonempty
  | next _ gap spaced => simp [nonempty]

/-- From any state on, tokens print as their texts with gaps, behind the gap before the first. -/
theorem spaced_placed (s : State) (t : Token) (ts : List Token) :
    ∃ out, render (placed s (t :: ts)) = (s.place t).1.text ++ out ∧
      Spaced ((t :: ts).map Token.text) out := by
  induction ts generalizing s t with
  | nil => exact ⟨t.text, by simp [placed, render], .last t.text⟩
  | cons u ts ih =>
    obtain ⟨out, printed, spaced⟩ := ih (s.place t).2 u
    refine ⟨t.text ++ ((s.place t).2.place u).1.text ++ out, ?_, .next t.text (isGap_text _) spaced⟩
    rw [placed, render_cons, printed]
    simp only [String.append_assoc]

theorem spaced_printTokens (ts : List Token) : Spaced (ts.map Token.text) (printTokens ts) := by
  cases ts with
  | nil => exact .nothing
  | cons t ts =>
    obtain ⟨out, printed, spaced⟩ := spaced_placed {} t ts
    -- Before the first token there is no gap.
    have touch : (({} : State).place t).1 = .touch := rfl
    rw [touch] at printed
    have whole : printTokens (t :: ts) = out := by
      rw [printTokens, printed]
      exact String.empty_append
    rw [whole]
    exact spaced

theorem printStatements_ne_empty {n : Node} (code : codeTexts n ≠ []) :
    printStatements [n] ≠ "" := by
  obtain ⟨text, rest, texts⟩ := List.exists_cons_of_ne_nil code
  have spaced : Spaced (text :: rest) (printStatements [n]) := by
    have printed := spaced_printTokens ([n].flatMap tokensOf)
    rwa [flatMap_tokensOf, map_text_tokensInAll, codeTextsAll, codeTextsAll, List.append_nil,
      texts, ← flatMap_tokensOf] at printed
  apply spaced.ne_empty
  apply ne_empty_of_mem_codeTexts n
  rw [texts]
  exact List.mem_cons_self

theorem printStatements_of_comment {n : Node} (comment : n.isComment = true) :
    printStatements [n] = "" := by
  rw [printStatements, flatMap_tokensOf, tokensInAll, tokensIn_of_comment "" comment]
  rfl

/-! ## The same code -/

/-- Nodes side by side that differ in comments, spans, fields and marks only. -/
def SameCode (xs ys : List Node) : Prop :=
  bareAll (Node.dropComments xs) = bareAll (Node.dropComments ys)

theorem flatMap_tokensOf_of_sameCode {xs ys : List Node} (same : SameCode xs ys) :
    xs.flatMap tokensOf = ys.flatMap tokensOf := by
  have bareTokens (ns : List Node) :
      ns.flatMap tokensOf = tokensInAll "" (bareAll (Node.dropComments ns)) := by
    rw [flatMap_tokensOf, tokensInAll_bareAll, tokensInAll_dropComments]
  rw [bareTokens xs, bareTokens ys, same]

theorem printStatements_map_withoutComments (ns : List Node) :
    printStatements (ns.map Node.withoutComments) = printStatements ns := by
  have same : (fun n => tokensOf (Node.withoutComments n)) = tokensOf := by
    funext n
    rw [tokensOf_eq_tokensIn, tokensOf_eq_tokensIn, tokensIn_withoutComments]
  rw [printStatements, printStatements, List.flatMap_map, same]

/-- Statements print as the texts of their leaves in document order, without comments and empty
leaves, with nothing between them but gaps; and statements that differ in comments, spans, fields
and marks only print to the same text. -/
theorem printStatements_spaced (statements : List Node) :
    Spaced (codeTextsAll statements) (printStatements statements) ∧
    ∀ others, SameCode statements others → printStatements others = printStatements statements := by
  refine ⟨?_, fun others same => ?_⟩
  · rw [printStatements, ← map_text_tokensInAll "" statements, flatMap_tokensOf]
    exact spaced_printTokens _
  · rw [printStatements, printStatements, flatMap_tokensOf_of_sameCode same]

/-- A return with a comment in it, and an empty leaf at its end. -/
def commentedReturn : Node :=
  .mk "return_statement" true none (some ⟨6, 22, 1, 1⟩) none [
    tokenNode "return", .mk "comment" true none none (some "/* one */") [],
    .mk "integer" true (some "value") none (some "1") [], tokenNode ""]

/-- The same return without the comment, its span and its field. -/
def plainReturn : Node :=
  .mk "return_statement" false none none none [
    tokenNode "return", .mk "integer" false none none (some "1") [], tokenNode ""]

theorem printStatements_commentedReturn :
    SameCode [commentedReturn] [plainReturn] ∧
    codeTextsAll [commentedReturn] = ["return", "1"] ∧
    printStatements [plainReturn] = printStatements [commentedReturn] := by
  have same : SameCode [commentedReturn] [plainReturn] := by rfl
  exact ⟨same, by rfl, (printStatements_spaced [commentedReturn]).2 [plainReturn] same⟩

end Introspect.Layout
