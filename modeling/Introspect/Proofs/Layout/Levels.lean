import Mathlib.Data.List.Infix
import Introspect.Layout.Basic

/-! # Levels of a layout

What the layout remembers, in terms of the tokens placed so far:

* `level` — how many more tokens of one sort open than close;
* `State.Proper` — a state that some tokens led to, or the state before all tokens;
* `blocksBehind` — the open blocks behind a token;
* `State.run_blocks_length`, `State.run_brackets` — blocks and brackets follow their levels;
* `State.Level` — the depth counts the open blocks and the case bodies in them.

The counters of a state stop at zero.  Where no token closes what was never opened, they are exact.
-/

namespace Introspect.Layout

/-! ## Levels of tokens -/

def braceStep (t : Token) : Int :=
  if t.text = "\x7b" then 1 else if t.text = "\x7d" then -1 else 0

def bracketStep (t : Token) : Int :=
  if t.text = "(" ∨ t.text = "[" then 1 else if t.text = ")" ∨ t.text = "]" then -1 else 0

/-- How many more of the tokens open than close. -/
def level (step : Token → Int) : List Token → Int
  | [] => 0
  | t :: ts => step t + level step ts

@[simp] theorem level_nil (step : Token → Int) : level step [] = 0 := rfl

@[simp] theorem level_cons (step : Token → Int) (t : Token) (ts : List Token) :
    level step (t :: ts) = step t + level step ts := rfl

@[simp] theorem level_append (step : Token → Int) (xs ys : List Token) :
    level step (xs ++ ys) = level step xs + level step ys := by
  induction xs with
  | nil => simp
  | cons x xs ih =>
    rw [List.cons_append, level_cons, level_cons, ih]
    omega

/-- Every closing token has its opening token before it, and none is left open. -/
structure Balanced (step : Token → Int) (ts : List Token) : Prop where
  neverBelow : ∀ before, before <+: ts → 0 ≤ level step before
  settled : level step ts = 0

/-! ## One token -/

/-- The open blocks behind a token. -/
def blocksBehind (blocks : List Bool) (t : Token) : List Bool :=
  if t.text = "\x7b" then false :: blocks
  else if t.text = "\x7d" then blocks.tail
  else if t.opensLabel then blocks.modifyHead fun _ => false
  else if t.endsLabel then blocks.modifyHead fun _ => true
  else blocks

theorem Token.opensLabel_text {t : Token} (h : t.opensLabel = true) :
    t.text ≠ "\x7b" ∧ t.text ≠ "\x7d" ∧ t.text ≠ ":" := by
  simp only [Token.opensLabel, Bool.and_eq_true] at h
  refine ⟨?_, ?_, ?_⟩ <;> intro eq <;> rw [eq] at h <;> exact absurd h.2 (by decide)

/-- Neither a brace nor a colon opens a label. -/
theorem Token.opensLabel_eq_false {t : Token}
    (h : t.text = "\x7b" ∨ t.text = "\x7d" ∨ t.text = ":") : t.opensLabel = false := by
  cases label : t.opensLabel with
  | false => rfl
  | true =>
    obtain ⟨notOpen, notClose, notColon⟩ := Token.opensLabel_text label
    obtain eq | eq | eq := h
    · exact absurd eq notOpen
    · exact absurd eq notClose
    · exact absurd eq notColon

theorem Token.text_of_endsLabel {t : Token} (h : t.endsLabel = true) : t.text = ":" := by
  simp only [Token.endsLabel, Bool.and_eq_true, beq_iff_eq] at h
  exact h.2

namespace State

/-- Some tokens led to the state, or it is the state before all tokens. -/
def Proper (s : State) : Prop := s.last = none → s = {}

theorem proper_start : Proper {} := fun _ => rfl

/-- What a token ends, whether or not it is the first. -/
def closedBy (s : State) (t : Token) : State :=
  if t.text == "\x7d" then s.closeBlock
  else if t.opensLabel then s.closeCase
  else s

/-- Before all tokens there is nothing to close, so that the first token is no exception. -/
theorem closeFor_eq_closedBy {s : State} (proper : s.Proper) (t : Token) :
    s.closeFor t = s.closedBy t := by
  unfold closeFor
  split
  · rename_i fresh
    rw [proper (by simpa using fresh), closedBy]
    split
    · rfl
    · split <;> rfl
  · rfl

@[simp] theorem advance_last (s : State) (t : Token) : (s.advance t).last = some t := by
  unfold advance
  split <;> try rfl
  split <;> rfl

@[simp] theorem place_last (s : State) (t : Token) : (s.place t).2.last = some t :=
  advance_last _ t

theorem proper_place (s : State) (t : Token) : (s.place t).2.Proper := by
  intro none
  rw [place_last] at none
  contradiction

/-- The end of a label opens a case body. -/
theorem advance_of_endsLabel (s : State) {t : Token} (ends : t.endsLabel = true) :
    s.advance t = ({ s with lineEnded := false, last := some t } : State).openCase := by
  have inLabel : t.inLabel = true := by
    simp only [Token.endsLabel, Bool.and_eq_true] at ends
    exact ends.1
  simp [advance, Token.text_of_endsLabel ends, inLabel]

theorem advance_blocks (s : State) (t : Token) :
    (s.advance t).blocks =
      if t.text = "\x7b" then false :: s.blocks
      else if t.endsLabel then s.blocks.modifyHead fun _ => true
      else s.blocks := by
  cases ends : t.endsLabel with
  | true =>
    rw [advance_of_endsLabel s ends, Token.text_of_endsLabel ends]
    cases s.blocks <;> simp [openCase]
  | false =>
    -- Of all other tokens only an opening brace changes the blocks.
    unfold advance
    split <;> simp_all [Token.endsLabel]

theorem advance_depth (s : State) (t : Token) :
    (s.advance t).depth = if t.text = "\x7b" ∨ t.endsLabel then s.depth + 1 else s.depth := by
  cases ends : t.endsLabel with
  | true =>
    rw [advance_of_endsLabel s ends]
    simp [openCase]
  | false =>
    unfold advance
    split <;> simp_all [Token.endsLabel]

theorem advance_brackets (s : State) (t : Token) :
    ((s.advance t).brackets : Int) = max 0 (s.brackets + bracketStep t) := by
  cases ends : t.endsLabel with
  | true =>
    rw [advance_of_endsLabel s ends, bracketStep, Token.text_of_endsLabel ends]
    simp [openCase]
  | false =>
    -- The subtraction of a closing bracket stops at zero, which is what the maximum says.
    unfold advance bracketStep
    split <;> simp_all [Token.endsLabel] <;> omega

/-- A semicolon ends a line outside brackets, a closing brace everywhere. -/
theorem advance_lineEnded (s : State) {t : Token}
    (h : t.text = ";" ∧ s.brackets = 0 ∨ t.text = "\x7d") : (s.advance t).lineEnded = true := by
  obtain ⟨isEnd, outside⟩ | isEnd := h
  · simp [advance, isEnd, outside]
  · simp [advance, isEnd]

/-- Closing touches nothing but the blocks and the depth. -/
theorem closedBy_frame (s : State) (t : Token) :
    (s.closedBy t).brackets = s.brackets ∧ (s.closedBy t).lineEnded = s.lineEnded ∧
      (s.closedBy t).last = s.last := by
  unfold closedBy closeBlock closeCase
  split
  · split <;> exact ⟨rfl, rfl, rfl⟩
  · split
    · split <;> exact ⟨rfl, rfl, rfl⟩
    · exact ⟨rfl, rfl, rfl⟩

theorem closedBy_blocks (s : State) (t : Token) :
    (s.closedBy t).blocks =
      if t.text = "\x7d" then s.blocks.tail
      else if t.opensLabel then s.blocks.modifyHead fun _ => false
      else s.blocks := by
  unfold closedBy closeBlock closeCase
  simp only [beq_iff_eq]
  split
  · cases s.blocks <;> rfl
  · split
    · rcases blocks : s.blocks with _ | ⟨_ | _, rest⟩ <;> simp [blocks]
    · rfl

theorem place_blocks {s : State} (proper : s.Proper) (t : Token) :
    (s.place t).2.blocks = blocksBehind s.blocks t := by
  simp only [place, closeFor_eq_closedBy proper, advance_blocks, closedBy_blocks, blocksBehind]
  -- No token closes and opens at once, so that the two changes never meet.
  by_cases opens : t.text = "\x7b"
  · simp [opens, Token.opensLabel_eq_false (.inl opens)]
  · by_cases closes : t.text = "\x7d"
    · simp [closes, Token.endsLabel]
    · by_cases label : t.opensLabel = true
      · have noEnd : t.endsLabel = false := by
          simp [Token.endsLabel, (Token.opensLabel_text label).2.2]
        simp [opens, closes, label, noEnd]
      · simp [opens, closes, label]

theorem place_brackets {s : State} (proper : s.Proper) (t : Token) :
    ((s.place t).2.brackets : Int) = max 0 (s.brackets + bracketStep t) := by
  simp only [place, closeFor_eq_closedBy proper, advance_brackets, (closedBy_frame s t).1]

/-! ### Depth -/

/-- The depth counts the open blocks, and those of them that are in a case body once more. -/
def Level (s : State) : Prop := s.depth = s.blocks.length + s.blocks.count true

theorem level_start : Level {} := rfl

theorem level_closeBlock {s : State} (h : s.Level) : s.closeBlock.Level := by
  unfold Level at h ⊢
  unfold closeBlock
  split
  · rename_i empty
    simp [empty] at h ⊢
    omega
  · rename_i indented rest blocks
    rw [blocks] at h
    cases indented <;> simp at h ⊢ <;> omega

theorem level_closeCase {s : State} (h : s.Level) : s.closeCase.Level := by
  unfold Level at h ⊢
  unfold closeCase
  split
  · rename_i rest blocks
    rw [blocks] at h
    simp at h ⊢
    omega
  · exact h

theorem level_closedBy {s : State} (h : s.Level) (t : Token) : (s.closedBy t).Level := by
  unfold closedBy
  split
  · exact level_closeBlock h
  · split
    · exact level_closeCase h
    · exact h

/-- A label may end only where the innermost block is in no case body yet. -/
theorem level_place {s : State} (proper : s.Proper) (h : s.Level) {t : Token}
    (ready : t.endsLabel = true → ∃ rest, s.blocks = false :: rest) : (s.place t).2.Level := by
  simp only [place, closeFor_eq_closedBy proper]
  have closed := level_closedBy h t
  unfold Level at closed ⊢
  rw [advance_depth, advance_blocks]
  by_cases opens : t.text = "\x7b"
  · simp [opens, closed]
    omega
  · by_cases ends : t.endsLabel = true
    · -- The mark of the innermost block turns from false to true, and the depth grows with it.
      obtain ⟨rest, blocks⟩ := ready ends
      have text := Token.text_of_endsLabel ends
      have untouched : s.closedBy t = s := by
        simp [closedBy, text, Token.opensLabel_eq_false (.inr (.inr text))]
      rw [untouched, blocks] at closed
      rw [untouched, blocks]
      simp [opens, ends] at closed ⊢
      omega
    · simp [opens, ends, closed]

/-! ## Many tokens -/

@[simp] theorem run_nil (s : State) : s.run [] = s := rfl

@[simp] theorem run_cons (s : State) (t : Token) (ts : List Token) :
    s.run (t :: ts) = (s.place t).2.run ts := rfl

theorem run_append (s : State) (xs ys : List Token) : s.run (xs ++ ys) = (s.run xs).run ys := by
  simp [run]

theorem proper_run {s : State} (proper : s.Proper) (ts : List Token) : (s.run ts).Proper := by
  induction ts generalizing s with
  | nil => exact proper
  | cons t ts ih => exact ih (proper_place s t)

/-- A counter that stops at zero follows the level of its tokens, as long as that level does not
fall below zero. -/
theorem run_counter {step : Token → Int} (count : State → Nat)
    (follows : ∀ s t, s.Proper → (count (s.place t).2 : Int) = max 0 (count s + step t))
    {s : State} (proper : s.Proper) {ts : List Token}
    (neverBelow : ∀ before, before <+: ts → 0 ≤ count s + level step before) :
    (count (s.run ts) : Int) = count s + level step ts := by
  induction ts generalizing s with
  | nil => simp
  | cons t ts ih =>
    have first : (0 : Int) ≤ count s + step t := by
      simpa using neverBelow [t] (by simp)
    have counted : (count (s.place t).2 : Int) = count s + step t := by
      rw [follows s t proper]
      omega
    rw [run_cons, ih (proper_place s t), counted, level_cons]
    · omega
    · intro before isPrefix
      have below := neverBelow (t :: before) (by simpa using isPrefix)
      rw [level_cons] at below
      omega

theorem place_blocks_length {s : State} (proper : s.Proper) (t : Token) :
    ((s.place t).2.blocks.length : Int) = max 0 (s.blocks.length + braceStep t) := by
  rw [place_blocks proper, blocksBehind, braceStep]
  split
  · simp
    omega
  · split
    · simp
      omega
    · split
      · simp
      · split <;> simp

theorem run_blocks_length {s : State} (proper : s.Proper) (ts : List Token)
    (neverBelow : ∀ before, before <+: ts → 0 ≤ s.blocks.length + level braceStep before) :
    ((s.run ts).blocks.length : Int) = s.blocks.length + level braceStep ts :=
  run_counter (fun s => s.blocks.length) (fun _ t proper => place_blocks_length proper t) proper
    neverBelow

theorem run_brackets {s : State} (proper : s.Proper) (ts : List Token)
    (neverBelow : ∀ before, before <+: ts → 0 ≤ s.brackets + level bracketStep before) :
    ((s.run ts).brackets : Int) = s.brackets + level bracketStep ts :=
  run_counter State.brackets (fun _ t proper => place_brackets proper t) proper neverBelow

/-- Behind balanced braces no block is open. -/
theorem run_blocks_of_balanced {ts : List Token} (h : Balanced braceStep ts) :
    (({} : State).run ts).blocks = [] := by
  have length := run_blocks_length proper_start ts (by simpa using h.neverBelow)
  rw [h.settled] at length
  exact List.length_eq_zero_iff.1 (by simpa using length)

/-- Behind balanced brackets no bracket is open. -/
theorem run_brackets_of_balanced {ts : List Token} (h : Balanced bracketStep ts) :
    (({} : State).run ts).brackets = 0 := by
  have count := run_brackets proper_start ts (by simpa using h.neverBelow)
  rw [h.settled] at count
  simpa using count

end State

end Introspect.Layout
