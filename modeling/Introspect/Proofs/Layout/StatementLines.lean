import Introspect.Proofs.Syntax.Body
import Introspect.Proofs.Layout.Places
import Introspect.Proofs.Layout.Separation

/-! # Statements and lines

Lines end at tokens, not at statements, so that a statement begins a line exactly if the token
before it has ended one:

* `EndsLine`, `GoesOn` — the tokens behind which a line is over, and those that take it up again;
* `State.place_eq_line_iff`, `State.lineEnded_run_iff` — what the layout makes of them;
* `StatementAt` — the statements of a list and of the blocks beneath;
* `Orderly` — a statement behind complete ones, outside all brackets;
* `statement_begins_line` — where the first token of a statement stands in the print.
-/

namespace Introspect.Layout

open Introspect.Syntax

/-! ## Ends of lines -/

/-- How many brackets are open behind the tokens.  One that closes nothing does not count. -/
def openBrackets (ts : List Token) : Int := ts.foldl (fun k t => max 0 (k + bracketStep t)) 0

/-- A line is over behind a brace, behind the end of a label, and behind a semicolon that stands in
no brackets. -/
def EndsLine (front : List Token) (p : Token) : Prop :=
  p.text = "\x7b" ∨ p.text = "\x7d" ∨ p.text = ";" ∧ openBrackets front = 0 ∨ p.endsLabel = true

/-- Behind a closing brace some tokens belong to what the brace closes. -/
def GoesOn (p t : Token) : Prop :=
  p.text = "\x7d" ∧ (t.text ∈ [";", ",", ")", "]"] ∨ Text.foldCase t.text ∈ continuationWords ∨
    Text.foldCase t.text = "while" ∧ t.parent = "do_statement")

theorem BeginsStatement.not_goesOn {t : Token} (begins : BeginsStatement t) (p : Token) :
    ¬ GoesOn p t := by
  obtain ⟨notEnd, notWord, notLoop⟩ := begins
  rintro ⟨-, isEnd | isWord | isLoop⟩
  · exact notEnd (List.mem_append_left ["\x7d"] isEnd)
  · exact notWord isWord
  · exact notLoop isLoop

namespace State

theorem brackets_run (ts : List Token) :
    ((({} : State).run ts).brackets : Int) = openBrackets ts := by
  have along {s : State} (proper : s.Proper) {k : Int} (same : (s.brackets : Int) = k) :
      ((s.run ts).brackets : Int) = ts.foldl (fun k t => max 0 (k + bracketStep t)) k := by
    induction ts generalizing s k with
    | nil => exact same
    | cons t ts ih => exact ih (proper_place s t) (by rw [place_brackets proper, same])
  exact along proper_start rfl

theorem lineEnded_place_iff (s : State) (t : Token) :
    (s.place t).2.lineEnded = true ↔
      t.text = "\x7b" ∨ t.text = "\x7d" ∨ t.text = ";" ∧ s.brackets = 0 ∨ t.endsLabel = true := by
  have brackets := (closeFor_frame s t).1
  cases ends : t.endsLabel with
  | true => simp [place, advance_of_endsLabel _ ends, openCase]
  | false =>
    -- Of all other tokens braces and semicolons end a line.
    simp only [place]
    unfold advance
    split <;> simp_all [Token.endsLabel]

theorem lineEnded_run_iff (front : List Token) (p : Token) :
    (({} : State).run (front ++ [p])).lineEnded = true ↔ EndsLine front p := by
  have counted := brackets_run front
  rw [run_append, run_cons, run_nil, lineEnded_place_iff, EndsLine, ← counted]
  simp

theorem last_run (front : List Token) (p : Token) :
    (({} : State).run (front ++ [p])).last = some p := by
  rw [run_append, run_cons, run_nil, place_last]

theorem place_eq_line_iff {s : State} {p t : Token} (last : s.last = some p)
    (notClose : t.text ≠ "\x7d") (depth : Nat) :
    (s.place t).1 = .line depth ↔
      (s.lineEnded = true ∧ ¬ GoesOn p t) ∧ (s.closeFor t).depth = depth := by
  obtain ⟨-, sameEnd, sameLast⟩ := closeFor_frame s t
  have whileWord : Text.foldCase "while" = "while" := by decide
  -- The tests of the layout, in the words of the definition.
  have goesOn : GoesOn p t ↔ p.text = "\x7d" ∧ ([";", ",", ")", "]"].contains t.text = true ∨
      (continuationWords.contains (Text.foldCase t.text) ||
        (Text.sameFolded t.text "while" && t.parent == "do_statement")) = true) := by
    simp only [GoesOn, List.contains_iff_mem, Bool.or_eq_true, Bool.and_eq_true, Text.sameFolded,
      whileWord, beq_iff_eq]
  simp only [place, gapBefore, sameLast, sameEnd, last, goesOn, beq_iff_eq, notClose, if_false]
  -- What remains are the alternatives of the layout, each with the gap it leads to.
  generalize [";", ",", ")", "]"].contains t.text = touching
  generalize (continuationWords.contains (Text.foldCase t.text) ||
    (Text.sameFolded t.text "while" && t.parent == "do_statement")) = spaced
  cases s.lineEnded with
  | false => cases touches p t <;> simp
  | true => by_cases closed : p.text = "\x7d" <;> cases touching <;> cases spaced <;>
      simp [closed]

end State

/-! ## Starts of lines -/

/-- Do only blanks stand on the last line of the text? -/
def atLineStart (text : String) : Bool :=
  match text.toList.reverse.dropWhile (· == ' ') with
  | [] => true
  | c :: _ => c == '\n'

/-- The text ends with a character that shows. -/
def Solid (text : String) : Prop := ∃ c, text.toList.getLast? = some c ∧ c ≠ ' ' ∧ c ≠ '\n'

theorem atLineStart_line (text : String) (depth : Nat) :
    atLineStart (text ++ (Gap.line depth).text) = true := by
  have blanks : ∀ c ∈ (List.replicate depth indentation).flatten.reverse, (c == ' ') = true := by
    simp [indentation]
  simp [atLineStart, Gap.text, Gap.chars, List.dropWhile_append_of_pos blanks]

theorem atLineStart_solid (text : String) {last : String} (solid : Solid last) {gap : Gap}
    (noLine : ∀ depth, gap ≠ .line depth) : atLineStart (text ++ last ++ gap.text) = false := by
  obtain ⟨c, isLast, notBlank, notBreak⟩ := solid
  obtain ⟨front, chars⟩ := List.getLast?_eq_some_iff.1 isLast
  cases gap with
  | touch => simp [atLineStart, Gap.text, Gap.chars, chars, notBlank, notBreak]
  | space => simp [atLineStart, Gap.text, Gap.chars, chars, notBlank, notBreak]
  | line depth => exact absurd rfl (noLine depth)

/-- What is printed before a token that follows others. -/
def lead (before : List Token) (t : Token) : String :=
  printTokens before ++ ((({} : State).run before).place t).1.text

theorem printTokens_eq_lead (before : List Token) (t : Token) (after : List Token) :
    ∃ rest, printTokens (before ++ t :: after) = lead before t ++ t.text ++ rest := by
  refine ⟨render (placed ((({} : State).run before).place t).2 after), ?_⟩
  rw [printTokens_append, placed, render_cons, lead]
  simp only [String.append_assoc]

theorem lead_nil (t : Token) : lead [] t = "" := rfl

/-- A token begins a line of the print if the one before it has ended a line with which it does not
go on, and, where that one ends with a character that shows, not otherwise. -/
theorem atLineStart_lead (front : List Token) (p : Token) {t : Token} (notClose : t.text ≠ "\x7d") :
    (EndsLine front p ∧ ¬ GoesOn p t → atLineStart (lead (front ++ [p]) t) = true) ∧
    (Solid p.text → atLineStart (lead (front ++ [p]) t) = true →
      EndsLine front p ∧ ¬ GoesOn p t) := by
  have opens := State.place_eq_line_iff (State.last_run front p) notClose
  simp only [State.lineEnded_run_iff] at opens
  refine ⟨fun ended => ?_, fun solid starts => ?_⟩
  · rw [lead, (opens _).2 ⟨ended, rfl⟩]
    exact atLineStart_line _ _
  · by_contra otherwise
    have noLine (depth : Nat) : ((({} : State).run (front ++ [p])).place t).1 ≠ .line depth :=
      fun line => otherwise ((opens depth).1 line).1
    -- Without a line break, what stands before the token ends with the one before it.
    have printed : printTokens (front ++ [p]) =
        printTokens front ++ ((({} : State).run front).place p).1.text ++ p.text := by
      rw [printTokens_append, placed, placed, render_cons]
      simp [render, String.append_assoc]
    rw [lead, printed, atLineStart_solid _ solid noLine] at starts
    contradiction

/-! ## Statements -/

/-- A statement: a member of the list, or one in a block anywhere beneath a member. -/
inductive StatementAt (statements : List Node) : Place → Prop where
  | listed {i : Nat} {p : Place} (found : Place.listed? statements i = some p) :
      StatementAt statements p
  | inBlock {block p : Place} {i : Nat} (above : Stands statements block)
      (isBlock : block.node.kind = "compound_statement") (found : block.child? i = some p)
      (isStatement : p.node.isStatement = true) : StatementAt statements p

theorem StatementAt.stands {statements : List Node} {p : Place} (h : StatementAt statements p) :
    Stands statements p := by
  cases h with
  | listed found => exact .listed found
  | inBlock above _ found _ => exact .child above found

/-! ## Complete statements in a row -/

/-- The tokens close their brackets, and the last one ends a statement. -/
structure Complete (ts : List Token) : Prop where
  brackets : Balanced bracketStep ts
  ending : ∃ t, ts.getLast? = some t ∧ (t.text = ";" ∨ t.text = "\x7d")

/-- A comment, or a complete statement. -/
def Passable (parent : String) (n : Node) : Prop :=
  tokensIn parent n = [] ∨ Complete (tokensIn parent n)

instance (ts : List Token) : Decidable (Complete ts) :=
  decidable_of_iff (Balanced bracketStep ts ∧
      ∃ t ∈ ts.getLast?, t.text = ";" ∨ t.text = "\x7d") <| by
    simp only [Option.mem_def]
    exact ⟨fun h => ⟨h.1, h.2⟩, fun h => ⟨h.brackets, h.ending⟩⟩

instance (parent : String) (n : Node) : Decidable (Passable parent n) :=
  inferInstanceAs (Decidable (_ ∨ _))

/-- A statement behind complete ones only, outside all brackets: in the list itself, or in a block
that opens with a brace. -/
inductive Orderly (statements : List Node) : Place → Prop where
  | listed {i : Nat} {p : Place} (found : Place.listed? statements i = some p)
      (earlier : ∀ n ∈ statements.take i, Passable "" n) : Orderly statements p
  | inBlock {block p : Place} {i : Nat} {brace : Node} {inner : List Node}
      (above : Stands statements block) (outside : openBrackets block.before = 0)
      (found : block.child? i = some p) (split : block.node.children.take i = brace :: inner)
      (opens : tokensIn block.node.kind brace = [⟨block.node.kind, "\x7b"⟩])
      (earlier : ∀ n ∈ inner, Passable block.node.kind n) : Orderly statements p

namespace State

/-- No bracket is open, and the last token, if there is one, has ended a line. -/
structure Between (s : State) : Prop where
  brackets : s.brackets = 0
  lineEnded : s.last ≠ none → s.lineEnded = true

theorem between_run {s : State} (proper : s.Proper) (outside : s.brackets = 0) {ts : List Token}
    (complete : Complete ts) : (s.run ts).Between := by
  have brackets : (s.run ts).brackets = 0 := by
    have count := run_brackets proper ts (by simpa [outside] using complete.brackets.neverBelow)
    rw [outside, complete.brackets.settled] at count
    simpa using count
  refine ⟨brackets, fun _ => ?_⟩
  obtain ⟨t, last, isEnd⟩ := complete.ending
  obtain ⟨front, rfl⟩ := List.getLast?_eq_some_iff.1 last
  rw [run_append, run_cons, run_nil] at brackets ⊢
  refine lineEnded_place (proper_run proper front) (isEnd.imp_left fun semicolon => ⟨semicolon, ?_⟩)
  -- A semicolon does not change the count of brackets, so that it is zero before it as well.
  have count := place_brackets (proper_run proper front) t
  have stays : bracketStep t = 0 := by simp [bracketStep, semicolon]
  rw [brackets, stays] at count
  omega

theorem between_runAll {s : State} (proper : s.Proper) (between : s.Between) {parent : String}
    {ns : List Node} (passable : ∀ n ∈ ns, Passable parent n) :
    (s.run (tokensInAll parent ns)).Between := by
  induction ns generalizing s with
  | nil => exact between
  | cons n ns ih =>
    obtain ⟨first, rest⟩ := List.forall_mem_cons.1 passable
    rw [tokensInAll, run_append]
    refine ih (proper_run proper _) ?_ rest
    rcases first with nothing | complete
    · rwa [nothing, run_nil]
    · exact between_run proper between.brackets complete

end State

theorem Orderly.between {statements : List Node} {p : Place} (orderly : Orderly statements p) :
    (({} : State).run p.before).Between := by
  cases orderly with
  | listed found earlier =>
    obtain ⟨n, -, rfl⟩ := Option.map_eq_some_iff.1 found
    exact State.between_runAll State.proper_start ⟨rfl, fun none => absurd rfl none⟩ earlier
  | @inBlock block _ i brace inner above outside found split opens earlier =>
    obtain ⟨-, -, -, before⟩ := Place.child?_eq_some_iff.1 found
    have proper := State.proper_run State.proper_start block.before
    rw [before, split, State.run_append, tokensInAll, opens, State.run_append]
    refine State.between_runAll (State.proper_run proper _) ?_ earlier
    -- The brace ends a line and leaves the brackets alone.
    rw [State.run_cons, State.run_nil]
    refine ⟨?_, fun _ => (State.lineEnded_place_iff _ _).2 (.inl rfl)⟩
    have count := State.place_brackets proper ⟨block.node.kind, "\x7b"⟩
    rw [State.brackets_run, outside] at count
    simpa [bracketStep] using count

/-! ## Statements in the print -/

/-- The print of a list of statements cut at any statement, be it in the list or in a block beneath.
Nothing but blanks stands before the statement on its line if the token before it has ended a line
with which it does not go on; where that token ends with a character that shows, this is the only
way.  It is so for every statement behind complete ones that stands in no brackets. -/
theorem statement_begins_line {statements : List Node} {p : Place} {t : Token} {rest : List Token}
    (isStatement : StatementAt statements p) (first : p.tokens = t :: rest)
    (notClose : t.text ≠ "\x7d") :
    (∃ after, printStatements statements = lead p.before t ++ t.text ++ after) ∧
    (p.before = [] → lead p.before t = "") ∧
    (∀ front prev, p.before = front ++ [prev] →
      (EndsLine front prev ∧ ¬ GoesOn prev t → atLineStart (lead p.before t) = true) ∧
      (Solid prev.text → atLineStart (lead p.before t) = true →
        EndsLine front prev ∧ ¬ GoesOn prev t)) ∧
    (Orderly statements p → (∀ front prev, p.before = front ++ [prev] → ¬ GoesOn prev t) →
      atLineStart (lead p.before t) = true) := by
  refine ⟨?_, ?_, ?_, ?_⟩
  · obtain ⟨after, whole⟩ := isStatement.stands.tokens
    rw [printStatements, whole, first, List.append_assoc]
    exact printTokens_eq_lead p.before t (rest ++ after)
  · intro start
    rw [start, lead_nil]
  · intro front prev before
    rw [before]
    exact atLineStart_lead front prev notClose
  · intro orderly notOn
    have between := orderly.between
    rcases List.eq_nil_or_concat' p.before with start | ⟨front, prev, before⟩
    · rw [start]
      rfl
    · rw [before] at between ⊢
      have ended := between.lineEnded (by simp [State.last_run])
      exact (atLineStart_lead front prev notClose).1
        ⟨(State.lineEnded_run_iff front prev).1 ended, notOn front prev before⟩

def secondStatement : Node :=
  .mk "expression_statement" true none none none [tokenNode "$c", tokenNode ";"]

def twoStatements : Node :=
  .mk "compound_statement" true none none none [
    tokenNode "\x7b",
    .mk "expression_statement" true none none none [tokenNode "$b", tokenNode ";"],
    secondStatement,
    tokenNode "\x7d"]

/-- A loop over a block of two statements. -/
def loopNode : Node :=
  .mk "while_statement" true none none none [
    tokenNode "while", tokenNode "(", tokenNode "$a", tokenNode ")", twoStatements]

def loopBlock : Place :=
  ⟨tokensInAll "while_statement" (loopNode.children.take 4), "while_statement", twoStatements⟩

def loopSecond : Place :=
  ⟨loopBlock.before ++ tokensInAll "compound_statement" (twoStatements.children.take 2),
    "compound_statement", secondStatement⟩

theorem statement_begins_line_loop :
    StatementAt [loopNode] loopSecond ∧ Orderly [loopNode] loopSecond ∧
    ∃ t rest, loopSecond.tokens = t :: rest ∧ t.text ≠ "\x7d" ∧
      lead loopSecond.before t = "while ($a) \x7b\n    $b;\n    " ∧
      atLineStart (lead loopSecond.before t) = true := by
  have block : Stands [loopNode] loopBlock := (Stands.root loopNode).child (i := 4) rfl
  have isStatement : StatementAt [loopNode] loopSecond := .inBlock (i := 2) block rfl rfl rfl
  have orderly : Orderly [loopNode] loopSecond :=
    .inBlock (i := 2) block (by decide +kernel) rfl rfl rfl (by decide +kernel)
  have first : loopSecond.tokens =
      [⟨"expression_statement", "$c"⟩, ⟨"expression_statement", ";"⟩] := rfl
  have notClose : (⟨"expression_statement", "$c"⟩ : Token).text ≠ "\x7d" := by decide
  obtain ⟨-, -, -, begins⟩ := statement_begins_line isStatement first notClose
  refine ⟨isStatement, orderly, _, _, first, notClose, by decide +kernel, begins orderly ?_⟩
  intro front prev _
  exact BeginsStatement.not_goesOn (by decide) prev

/-- Two statements of a function among the arguments of a call. -/
def crampedCode : String := "<?php f(function()\x7ba;b;\x7d);"

/-- The second statement of that function follows the first one on its line: the semicolon between
them stands in the brackets of the call. -/
theorem statement_on_line_of_another :
    ∃ p t rest, StatementAt (statementsOf crampedCode) p ∧ p.tokens = t :: rest ∧
      lead p.before t = "f(function () \x7b\n    a; " ∧ atLineStart (lead p.before t) = false := by
  -- The path leads from the call through its argument to the block of the function.
  have checked : ((Place.listed? (statementsOf crampedCode) 0).bind
      (·.follow? [0, 1, 1, 0, 2])).any (fun block =>
        block.node.kind == "compound_statement" && (block.child? 2).any fun p =>
          p.node.isStatement && p.tokens.head?.any fun t =>
            lead p.before t == "f(function () \x7b\n    a; ") = true := by
    decide +kernel
  simp only [Option.any_eq_true, Bool.and_eq_true, beq_iff_eq] at checked
  obtain ⟨block, found, isBlock, p, isChild, isStatement, t, first, printed⟩ := checked
  obtain ⟨call, listed, followed⟩ := Option.bind_eq_some_iff.1 found
  obtain ⟨rest, tokens⟩ := List.head?_eq_some_iff.1 first
  refine ⟨p, t, rest, .inBlock (.follow (.listed listed) followed) isBlock isChild isStatement,
    tokens, printed, ?_⟩
  rw [printed]
  decide +kernel

end Introspect.Layout
