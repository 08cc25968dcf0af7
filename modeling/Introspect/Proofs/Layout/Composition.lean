import Introspect.Proofs.Layout.Levels

/-! # Composition of layouts

Statements that are complete in themselves are laid out apart from each other:

* `SelfContained` — brackets, braces and labels of the tokens are complete, the first token does
  not go on with an earlier statement, and the last one ends a line;
* `Settled` — the state between two statements;
* `settled_of_selfContained` — a self-contained list of tokens ends in a settled state;
* `printStatements_of_selfContained` — statements print as their own prints, one a line.

A settled state differs from the state before all tokens only in that a line has ended, so that
all that is left of earlier statements is the line feed before the next one.
-/

namespace Introspect.Layout

open Introspect.Syntax

/-! ## Complete statements -/

/-- Does the token begin a statement, rather than go on with the one before it? -/
def BeginsStatement (t : Token) : Prop :=
  t.text ∉ [";", ",", ")", "]", "\x7d"] ∧
  Text.foldCase t.text ∉ ["catch", "else", "elseif", "finally"] ∧
  ¬ (Text.foldCase t.text = "while" ∧ t.parent = "do_statement")

/-- Is the end of a label prepared by the tokens before it?  It lies inside braces, and directly in
its block a word opens the label, behind every earlier end of a label directly in that block. -/
def LabelOpened (before : List Token) : Prop :=
  0 < level braceStep before ∧
  ∃ outer word inner, before = outer ++ word :: inner ∧ word.opensLabel = true ∧
    Balanced braceStep inner ∧
    ∀ earlier t later, inner = earlier ++ t :: later → level braceStep earlier = 0 →
      t.endsLabel = false

/-- The tokens of a statement that is complete in itself. -/
structure SelfContained (ts : List Token) : Prop where
  braces : Balanced braceStep ts
  brackets : Balanced bracketStep ts
  ending : ∃ t, ts.getLast? = some t ∧ (t.text = ";" ∨ t.text = "\x7d")
  beginning : ∀ t, ts.head? = some t → BeginsStatement t
  labels : ∀ before t after, ts = before ++ t :: after → t.endsLabel = true → LabelOpened before

/-! ## Evaluation

Whether tokens are self-contained can be computed, by going through all cuts of them. -/

/-- The ways to cut a list at one of its members. -/
def cuts : List Token → List (List Token × Token × List Token)
  | [] => []
  | t :: ts => ([], t, ts) :: (cuts ts).map fun (before, u, after) => (t :: before, u, after)

theorem mem_cuts {ts before after : List Token} {t : Token} :
    (before, t, after) ∈ cuts ts ↔ ts = before ++ t :: after := by
  induction ts generalizing before with
  | nil => simp [cuts]
  | cons u ts ih =>
    cases before with
    | nil => simp [cuts, eq_comm]
    | cons v before =>
      rw [List.cons_append, List.cons.injEq, ← ih]
      simp only [cuts, List.mem_cons, List.mem_map, Prod.mk.injEq, Prod.exists]
      constructor
      · rintro (⟨impossible, -⟩ | ⟨front, w, back, member, ⟨rfl, rfl⟩, rfl, rfl⟩)
        · contradiction
        · exact ⟨rfl, member⟩
      · rintro ⟨rfl, member⟩
        exact .inr ⟨before, t, after, member, rfl, rfl, rfl⟩

instance (step : Token → Int) (ts : List Token) : Decidable (Balanced step ts) :=
  decidable_of_iff ((∀ before ∈ ts.inits, 0 ≤ level step before) ∧ level step ts = 0) <| by
    simp only [List.mem_inits]
    exact ⟨fun h => ⟨h.1, h.2⟩, fun h => ⟨h.neverBelow, h.settled⟩⟩

instance (t : Token) : Decidable (BeginsStatement t) :=
  inferInstanceAs (Decidable (_ ∧ _ ∧ ¬ (_ ∧ _)))

instance (before : List Token) : Decidable (LabelOpened before) :=
  decidable_of_iff (0 < level braceStep before ∧ ∃ cut ∈ cuts before,
      cut.2.1.opensLabel = true ∧ Balanced braceStep cut.2.2 ∧
        ∀ inner ∈ cuts cut.2.2, level braceStep inner.1 = 0 → inner.2.1.endsLabel = false) <| by
    simp only [LabelOpened, Prod.exists, Prod.forall, mem_cuts]

instance (ts : List Token) : Decidable (SelfContained ts) :=
  decidable_of_iff (Balanced braceStep ts ∧ Balanced bracketStep ts ∧
      (∃ t ∈ ts.getLast?, t.text = ";" ∨ t.text = "\x7d") ∧
      (∀ t ∈ ts.head?, BeginsStatement t) ∧
      ∀ cut ∈ cuts ts, cut.2.1.endsLabel = true → LabelOpened cut.1) <| by
    simp only [Prod.forall, mem_cuts, Option.mem_def]
    exact ⟨fun ⟨braces, brackets, ending, beginning, labels⟩ =>
        ⟨braces, brackets, ending, beginning, labels⟩,
      fun h => ⟨h.braces, h.brackets, h.ending, h.beginning, h.labels⟩⟩

/-! ## Blocks under a stretch of tokens -/

/-- A token leaves alone the blocks that it does not reach. -/
theorem blocksBehind_above {t : Token} {above : List Bool} (rest : List Bool)
    (stays : 0 ≤ (above.length : Int) + braceStep t)
    (quiet : above = [] → t.endsLabel = false) :
    ∃ above', blocksBehind (above ++ false :: rest) t = above' ++ false :: rest ∧
      (above'.length : Int) = above.length + braceStep t := by
  unfold blocksBehind braceStep at *
  split
  · exact ⟨false :: above, rfl, by simp⟩
  · rename_i notOpen
    split
    · rename_i closes
      cases above with
      | nil => simp [closes] at stays
      | cons block above =>
        refine ⟨above, rfl, ?_⟩
        rw [List.length_cons]
        omega
    · split
      · cases above with
        | nil => exact ⟨[], rfl, rfl⟩
        | cons block above => exact ⟨false :: above, rfl, rfl⟩
      · split
        · rename_i ends
          cases above with
          | nil => exact absurd ends (by simp [quiet rfl])
          | cons block above => exact ⟨true :: above, rfl, rfl⟩
        · exact ⟨above, rfl, by simp⟩

/-- Tokens that close only what they open themselves, and end no label directly in the innermost
block, leave this block out of any case body. -/
theorem State.run_blocks_above {s : State} (proper : s.Proper) {above rest : List Bool}
    (blocks : s.blocks = above ++ false :: rest) (ts : List Token)
    (neverBelow : ∀ before, before <+: ts → 0 ≤ (above.length : Int) + level braceStep before)
    (quiet : ∀ earlier t later, ts = earlier ++ t :: later →
      (above.length : Int) + level braceStep earlier = 0 → t.endsLabel = false) :
    ∃ above', (s.run ts).blocks = above' ++ false :: rest ∧
      (above'.length : Int) = above.length + level braceStep ts := by
  -- The blocks above the innermost one come and go with the tokens, and their number is the level.
  induction ts generalizing s above with
  | nil => exact ⟨above, blocks, by simp⟩
  | cons t ts ih =>
    have first := neverBelow [t] (by simp)
    simp only [level_cons, level_nil, Int.add_zero] at first
    obtain ⟨above₁, blocks₁, length₁⟩ := blocksBehind_above rest first
      (fun empty => quiet [] t ts rfl (by simp [empty]))
    rw [← blocks, ← place_blocks proper] at blocks₁
    obtain ⟨above', blocks', length'⟩ := ih (proper_place s t) blocks₁
      (fun before isPrefix => by
        have below := neverBelow (t :: before) (by simpa using isPrefix)
        rw [level_cons] at below
        omega)
      (fun earlier u later eq zero => by
        refine quiet (t :: earlier) u later (by rw [eq]; rfl) ?_
        rw [level_cons]
        omega)
    refine ⟨above', blocks', ?_⟩
    rw [length', length₁, level_cons]
    omega

/-- Where a label may end, the innermost block is in no case body. -/
theorem blocks_of_labelOpened {before : List Token}
    (neverBelow : ∀ p, p <+: before → 0 ≤ level braceStep p) (h : LabelOpened before) :
    ∃ rest, (({} : State).run before).blocks = false :: rest := by
  obtain ⟨inside, outer, word, inner, rfl, opens, balanced, quiet⟩ := h
  obtain ⟨notOpen, notClose, -⟩ := Token.opensLabel_text opens
  have wordStep : braceStep word = 0 := by simp [braceStep, notOpen, notClose]
  have proper : (({} : State).run outer).Proper := State.proper_run State.proper_start outer
  have length := State.run_blocks_length State.proper_start outer (by
    intro p isPrefix
    simpa using neverBelow p (isPrefix.trans (List.prefix_append _ _)))
  simp only [level_append, level_cons, wordStep, balanced.settled] at inside
  cases blocks : (({} : State).run outer).blocks with
  | nil =>
    -- The word and what follows it leave the level alone, so that it is positive before the word.
    rw [blocks] at length
    simp at length
    omega
  | cons block rest =>
    have cleared : ((({} : State).run outer).place word).2.blocks = [] ++ false :: rest := by
      simp [State.place_blocks proper, blocks, blocksBehind, notOpen, notClose, opens]
    obtain ⟨above, ended, none⟩ := State.run_blocks_above (State.proper_place _ word) cleared
      inner (by simpa using balanced.neverBelow) (by simpa using quiet)
    have empty : above = [] := by
      rw [balanced.settled] at none
      exact List.length_eq_zero_iff.1 (by simpa using none)
    refine ⟨rest, ?_⟩
    rw [State.run_append, State.run_cons, ended, empty]
    rfl

/-- The depth stays exact along tokens whose labels end only where they may. -/
theorem State.level_run {s : State} (proper : s.Proper) (h : s.Level) {ts : List Token}
    (ready : ∀ before t after, ts = before ++ t :: after → t.endsLabel = true →
      ∃ rest, (s.run before).blocks = false :: rest) : (s.run ts).Level := by
  induction ts generalizing s with
  | nil => exact h
  | cons t ts ih =>
    refine ih (proper_place s t) (level_place proper h (ready [] t ts rfl)) ?_
    intro before u after eq ends
    exact ready (t :: before) u after (by rw [eq]; rfl) ends

/-! ## Between statements -/

/-- Nothing is open, and the last token ended a line. -/
structure Settled (s : State) : Prop where
  blocks : s.blocks = []
  depth : s.depth = 0
  brackets : s.brackets = 0
  lineEnded : s.lineEnded = true
  last : s.last ≠ none

/-- A token that ends a statement outside brackets ends a line. -/
theorem State.lineEnded_place {s : State} (proper : s.Proper) {t : Token}
    (h : t.text = ";" ∧ s.brackets = 0 ∨ t.text = "\x7d") : (s.place t).2.lineEnded = true := by
  simp only [place, closeFor_eq_closedBy proper]
  apply advance_lineEnded
  rw [(closedBy_frame s t).1]
  exact h

theorem level_of_selfContained {ts : List Token} (h : SelfContained ts) :
    (({} : State).run ts).Level := by
  refine State.level_run State.proper_start State.level_start ?_
  intro before t after eq ends
  refine blocks_of_labelOpened (fun p isPrefix => ?_) (h.labels before t after eq ends)
  exact h.braces.neverBelow p (isPrefix.trans (eq ▸ List.prefix_append before (t :: after)))

theorem lineEnded_of_selfContained {ts : List Token} (h : SelfContained ts) :
    (({} : State).run ts).lineEnded = true := by
  obtain ⟨t, last, isEnd⟩ := h.ending
  obtain ⟨front, rfl⟩ := List.getLast?_eq_some_iff.1 last
  have proper : (({} : State).run front).Proper := State.proper_run State.proper_start front
  have brackets := State.run_brackets_of_balanced h.brackets
  rw [State.run_append, State.run_cons, State.run_nil] at brackets ⊢
  refine State.lineEnded_place proper (isEnd.imp_left fun semicolon => ⟨semicolon, ?_⟩)
  -- A semicolon does not change the count of brackets, so that it is zero before it as well.
  have count := State.place_brackets proper t
  have stays : bracketStep t = 0 := by simp [bracketStep, semicolon]
  rw [brackets, stays] at count
  omega

/-- Self-contained tokens leave nothing open. -/
theorem settled_of_selfContained {ts : List Token} (h : SelfContained ts) :
    Settled (({} : State).run ts) := by
  have blocks := State.run_blocks_of_balanced h.braces
  have level := level_of_selfContained h
  rw [State.Level, blocks] at level
  obtain ⟨t, last, -⟩ := h.ending
  obtain ⟨front, rfl⟩ := List.getLast?_eq_some_iff.1 last
  refine ⟨blocks, by simpa using level, State.run_brackets_of_balanced h.brackets,
    lineEnded_of_selfContained h, ?_⟩
  rw [State.run_append, State.run_cons, State.run_nil, State.place_last]
  exact Option.some_ne_none t

/-- Between statements a token that begins one opens a line at the left margin, and leads where it
leads as the first of all tokens. -/
theorem place_settled {s : State} (settled : Settled s) {t : Token} (begins : BeginsStatement t) :
    s.place t = (.line 0, (({} : State).place t).2) := by
  -- But for the last token and the ended line, the state is the one before all tokens.
  obtain ⟨blocks, depth, brackets, lineEnded, last⟩ := s
  obtain ⟨rfl, rfl, rfl, rfl, some⟩ := settled
  obtain ⟨prev, rfl⟩ := Option.ne_none_iff_exists'.1 some
  obtain ⟨notEnd, notWord, notWhile⟩ := begins
  simp only [List.mem_cons, List.not_mem_nil, or_false, not_or] at notEnd
  have whileWord : Text.foldCase "while" = "while" := by decide
  have closed : State.closeFor ⟨[], 0, 0, true, Option.some prev⟩ t =
      ⟨[], 0, 0, true, Option.some prev⟩ := by
    simp [State.closeFor, State.closeCase, notEnd]
  have gap : State.gapBefore ⟨[], 0, 0, true, Option.some prev⟩ t = .line 0 := by
    have notContinued : continuationWords.contains (Text.foldCase t.text) = false := by
      simpa [continuationWords] using notWord
    have notLoop : (Text.sameFolded t.text "while" && t.parent == "do_statement") = false := by
      simpa [Text.sameFolded, whileWord] using notWhile
    simp only [State.gapBefore, notContinued, notLoop]
    simp [notEnd]
  simp only [State.place, closed, gap]
  rfl

/-! ## Printing -/

theorem placed_append (s : State) (xs ys : List Token) :
    placed s (xs ++ ys) = placed s xs ++ placed (s.run xs) ys := by
  induction xs generalizing s with
  | nil => rfl
  | cons x xs ih => simp [placed, ih]

theorem render_append (xs ys : List (Gap × Token)) : render (xs ++ ys) = render xs ++ render ys := by
  simp [render]

theorem render_cons (gap : Gap) (t : Token) (rest : List (Gap × Token)) :
    render ((gap, t) :: rest) = gap.text ++ t.text ++ render rest := by
  simp [render]

/-- Between statements a self-contained statement prints as on its own, on a line of its own, and
leads where it leads on its own. -/
theorem print_settled {s : State} (settled : Settled s) {ts : List Token}
    (h : SelfContained ts) :
    render (placed s ts) = "\n" ++ printTokens ts ∧ s.run ts = ({} : State).run ts := by
  cases ts with
  | nil =>
    obtain ⟨t, last, -⟩ := h.ending
    simp at last
  | cons t ts =>
    have placedFirst := place_settled settled (h.beginning t rfl)
    have newline : (Gap.line 0).text = "\n" := by decide
    have touch : (({} : State).place t).1.text = "" := by
      have first : (({} : State).place t).1 = .touch := rfl
      rw [first]
      decide
    refine ⟨?_, by rw [State.run_cons, State.run_cons, placedFirst]⟩
    rw [printTokens, placed, placed, placedFirst, render_cons, render_cons, newline, touch]
    simp [String.append_assoc]

theorem print_all_settled {s : State} (settled : Settled s) {statements : List Node}
    (h : ∀ n ∈ statements, SelfContained (tokensOf n)) :
    render (placed s (statements.flatMap tokensOf)) =
      String.join (statements.map fun n => "\n" ++ printStatements [n]) := by
  induction statements generalizing s with
  | nil => rfl
  | cons n statements ih =>
    have first := h n (by simp)
    obtain ⟨printed, behind⟩ := print_settled settled first
    have settled' := settled_of_selfContained first
    rw [List.flatMap_cons, placed_append, render_append, printed, behind,
      ih settled' (fun m member => h m (by simp [member]))]
    simp [printStatements]

theorem joinWith_cons (gap first : String) (rest : List String) :
    Text.joinWith gap (first :: rest) = first ++ String.join (rest.map fun s => gap ++ s) := by
  induction rest generalizing first with
  | nil => simp [Text.joinWith]
  | cons second rest ih =>
    have step : Text.joinWith gap (first :: second :: rest) =
        first ++ gap ++ Text.joinWith gap (second :: rest) := String.intercalate_cons_cons
    rw [step, ih]
    simp [String.append_assoc]

/-- Self-contained statements print as their own prints, one below the other: no level, bracket,
case body or token of one statement shows in the next. -/
theorem printStatements_of_selfContained (statements : List Node)
    (h : ∀ n ∈ statements, SelfContained (tokensOf n)) :
    printStatements statements =
      Text.joinWith "\n" (statements.map fun n => printStatements [n]) := by
  cases statements with
  | nil => rfl
  | cons n statements =>
    have settled := settled_of_selfContained (h n (by simp))
    have rest := print_all_settled settled fun m member => h m (List.mem_cons_of_mem n member)
    rw [List.map_cons, joinWith_cons, List.map_map]
    simp only [printStatements, printTokens, List.flatMap_cons, List.flatMap_nil, List.append_nil,
      placed_append, render_append, rest]
    rfl

/-- A leaf that is no named node. -/
def tokenNode (text : String) : Node := .mk text false none none (some text) []

/-- A choice between two cases, the first of which opens a block of its own. -/
def switchNode : Node :=
  .mk "switch_statement" true none none none [
    tokenNode "switch", tokenNode "(", tokenNode "$a", tokenNode ")", tokenNode "\x7b",
    .mk "case_statement" true none none none [
      tokenNode "case", tokenNode "1", tokenNode ":", tokenNode "\x7b", tokenNode "$b",
      tokenNode ";", tokenNode "\x7d"],
    .mk "default_statement" true none none none [
      tokenNode "default", tokenNode ":", tokenNode "return", tokenNode ";"],
    tokenNode "\x7d"]

theorem printStatements_two_switches :
    (∀ n ∈ [switchNode, switchNode], SelfContained (tokensOf n)) ∧
    printStatements [switchNode, switchNode] =
      Text.joinWith "\n" ([switchNode, switchNode].map fun n => printStatements [n]) := by
  have complete : ∀ n ∈ [switchNode, switchNode], SelfContained (tokensOf n) := by
    decide +kernel
  exact ⟨complete, printStatements_of_selfContained _ complete⟩

end Introspect.Layout
