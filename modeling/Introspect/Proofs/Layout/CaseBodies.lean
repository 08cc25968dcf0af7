import Introspect.Proofs.Layout.Composition

/-! # Case bodies

The end of a label indents what follows it.  The block around the label is what remembers this, and
where there is no block, nobody does:

* `unbraced` — the tokens that stand in no braces of their own;
* `caseBehind` — whether a block is in a case body behind tokens that stand directly in it;
* `LabelsPaired` — every end of a label has its own word before it;
* `State.extra` — by how much the depth exceeds what blocks and case bodies account for;
* `State.place_extra`, `State.run_extra` — what changes it, for one token and for many;
* `State.run_depth`, `State.run_keeps` — the depth behind tokens whose braces are balanced.
-/

namespace Introspect.Layout

/-! ## Tokens outside braces -/

/-- The tokens that stand in no braces, where `inside` braces are open before the first one. -/
def unbracedFrom (inside : Int) : List Token → List Token
  | [] => []
  | t :: ts => (if inside = 0 then [t] else []) ++ unbracedFrom (inside + braceStep t) ts

/-- The tokens that stand in no braces of their own. -/
def unbraced (ts : List Token) : List Token := unbracedFrom 0 ts

theorem mem_unbracedFrom {inside : Int} {ts : List Token} {t : Token}
    (member : t ∈ unbracedFrom inside ts) :
    ∃ before after, ts = before ++ t :: after ∧ inside + level braceStep before = 0 := by
  induction ts generalizing inside with
  | nil => cases member
  | cons u ts ih =>
    rw [unbracedFrom, List.mem_append] at member
    rcases member with here | later
    · split at here
      · rename_i outside
        rw [List.mem_singleton.1 here]
        exact ⟨[], ts, rfl, by simpa using outside⟩
      · cases here
    · obtain ⟨before, after, rfl, outside⟩ := ih later
      exact ⟨u :: before, after, rfl, by rw [level_cons]; omega⟩

theorem unbracedFrom_eq_nil {inside : Int} {ts : List Token}
    (stays : ∀ before, before <+: ts → 0 < inside + level braceStep before) :
    unbracedFrom inside ts = [] := by
  rw [List.eq_nil_iff_forall_not_mem]
  intro t member
  obtain ⟨before, after, rfl, outside⟩ := mem_unbracedFrom member
  have inner := stays before (List.prefix_append _ _)
  omega

/-! ## Labels -/

/-- Whether a block is in a case body behind tokens that stand directly in it. -/
def caseBehind (indented : Bool) (ts : List Token) : Bool :=
  ts.foldl (fun b t => if t.opensLabel then false else if t.endsLabel then true else b) indented

theorem caseBehind_of_no_end {ts : List Token} (quiet : ∀ t ∈ ts, t.endsLabel = false) :
    caseBehind false ts = false := by
  induction ts with
  | nil => rfl
  | cons t ts ih =>
    obtain ⟨first, rest⟩ := List.forall_mem_cons.1 quiet
    have step : caseBehind false (t :: ts) = caseBehind false ts := by
      simp [caseBehind, first]
    rw [step]
    exact ih rest

theorem caseBehind_of_no_label {indented : Bool} {ts : List Token}
    (quiet : ∀ t ∈ ts, t.opensLabel = false ∧ t.endsLabel = false) :
    caseBehind indented ts = indented := by
  induction ts with
  | nil => rfl
  | cons t ts ih =>
    obtain ⟨⟨noWord, noEnd⟩, rest⟩ := List.forall_mem_cons.1 quiet
    have step : caseBehind indented (t :: ts) = caseBehind indented ts := by
      simp [caseBehind, noWord, noEnd]
    rw [step]
    exact ih rest

/-- A label up to its end: a word, then a value whose braces are balanced and outside of which no
other label ends. -/
def LabelHead : List Token → Prop
  | [] => False
  | word :: value => word.opensLabel = true ∧ Balanced braceStep value ∧
      ∀ t ∈ unbraced value, t.endsLabel = false

instance : (ts : List Token) → Decidable (LabelHead ts)
  | [] => inferInstanceAs (Decidable False)
  | _ :: _ => inferInstanceAs (Decidable (_ ∧ _ ∧ _))

/-- Every end of a label stands directly behind a word with its value. -/
def LabelsPaired (ts : List Token) : Prop :=
  ∀ before t after, ts = before ++ t :: after → t.endsLabel = true →
    ∃ outer label, before = outer ++ label ∧ LabelHead label

namespace State

/-! ## Blocks -/

/-- A token that stands directly in a block marks it, or opens another one above it. -/
theorem blocksBehind_direct {t : Token} (indented : Bool) (rest : List Bool)
    (stays : 0 ≤ braceStep t) :
    ∃ above, blocksBehind (indented :: rest) t = above ++ caseBehind indented [t] :: rest ∧
      (above.length : Int) = braceStep t := by
  by_cases opens : t.text = "\x7b"
  · have noWord := Token.opensLabel_eq_false (.inl opens)
    refine ⟨[false], ?_, by simp [braceStep, opens]⟩
    simp [blocksBehind, caseBehind, opens, noWord, Token.endsLabel]
  · have notClose : t.text ≠ "\x7d" := by
      intro closes
      simp [braceStep, closes] at stays
    refine ⟨[], ?_, by simp [braceStep, opens, notClose]⟩
    cases word : t.opensLabel <;> cases ends : t.endsLabel <;>
      simp [blocksBehind, caseBehind, opens, notClose, word, ends]

theorem blocksBehind_above_cons (block : Bool) (above lower : List Bool) (t : Token) :
    ∃ above', blocksBehind (block :: above ++ lower) t = above' ++ lower ∧
      (above'.length : Int) = (above.length : Int) + 1 + braceStep t := by
  rw [blocksBehind, braceStep]
  split
  · exact ⟨false :: block :: above, rfl, by simp⟩
  · split
    · exact ⟨above, rfl, by omega⟩
    · split
      · exact ⟨false :: above, rfl, by simp⟩
      · split
        · exact ⟨true :: above, rfl, by simp⟩
        · exact ⟨block :: above, rfl, by simp⟩

/-- Behind tokens that close only what they open themselves, the innermost block is still there, in
a case body or not as the labels directly in it have it. -/
theorem run_blocks_over {s : State} (proper : s.Proper) {above : List Bool} {indented : Bool}
    {rest : List Bool} (blocks : s.blocks = above ++ indented :: rest) (ts : List Token)
    (neverBelow : ∀ before, before <+: ts → 0 ≤ (above.length : Int) + level braceStep before) :
    ∃ above', (s.run ts).blocks =
        above' ++ caseBehind indented (unbracedFrom above.length ts) :: rest ∧
      (above'.length : Int) = above.length + level braceStep ts := by
  -- The blocks above it come and go with the braces.  While there are none, a token stands directly
  -- in the block and may mark it; otherwise the token does not reach it.
  induction ts generalizing s above indented with
  | nil => exact ⟨above, blocks, by simp⟩
  | cons t ts ih =>
    have first := neverBelow [t] (by simp)
    simp only [level_cons, level_nil, Int.add_zero] at first
    have later (above₁ : List Bool) (length₁ : (above₁.length : Int) = above.length + braceStep t)
        (before : List Token) (isPrefix : before <+: ts) :
        0 ≤ (above₁.length : Int) + level braceStep before := by
      have below := neverBelow (t :: before) (by simpa using isPrefix)
      rw [level_cons] at below
      omega
    cases above with
    | nil =>
      obtain ⟨above₁, blocks₁, length₁⟩ := blocksBehind_direct indented rest (by simpa using first)
      rw [← List.nil_append (indented :: rest), ← blocks, ← place_blocks proper] at blocks₁
      obtain ⟨above', blocks', length'⟩ := ih (proper_place s t) blocks₁
        (later above₁ (by simpa using length₁))
      refine ⟨above', ?_, ?_⟩
      · rw [run_cons, blocks', length₁, List.length_nil, unbracedFrom]
        simp [caseBehind]
      · rw [length', length₁, level_cons, List.length_nil]
        omega
    | cons block above =>
      obtain ⟨above₁, blocks₁, length₁⟩ := blocksBehind_above_cons block above (indented :: rest) t
      rw [← blocks, ← place_blocks proper] at blocks₁
      obtain ⟨above', blocks', length'⟩ := ih (proper_place s t) blocks₁
        (later above₁ (by simpa using length₁))
      have oneMore : ((block :: above).length : Int) = above.length + 1 := by
        rw [List.length_cons]
        omega
      refine ⟨above', ?_, ?_⟩
      · rw [run_cons, blocks', length₁, unbracedFrom, oneMore, if_neg (by omega),
          List.nil_append]
      · rw [length', length₁, level_cons, oneMore]
        omega

theorem head_blocks_of_labelHead {s : State} (proper : s.Proper) {outer label : List Token}
    (head : LabelHead label) {block : Bool} {rest : List Bool}
    (blocks : (s.run (outer ++ label)).blocks = block :: rest) : block = false := by
  cases label with
  | nil => exact absurd head id
  | cons word value =>
    obtain ⟨opens, balanced, quiet⟩ := head
    obtain ⟨notOpen, notClose, -⟩ := Token.opensLabel_text opens
    have properOuter := proper_run proper outer
    rw [run_append, run_cons] at blocks
    have behindWord := place_blocks properOuter word
    simp only [blocksBehind, notOpen, notClose, opens, if_true, if_false] at behindWord
    cases outerBlocks : (s.run outer).blocks with
    | nil =>
      -- Without a block there is none behind the value either.
      rw [outerBlocks, List.modifyHead_nil] at behindWord
      have count := run_blocks_length (proper_place (s.run outer) word) value (by
        simpa [behindWord] using balanced.neverBelow)
      rw [blocks, behindWord, balanced.settled] at count
      simp at count
      omega
    | cons outerBlock outerRest =>
      rw [outerBlocks, List.modifyHead_cons] at behindWord
      have cleared : ((s.run outer).place word).2.blocks = [] ++ false :: outerRest := behindWord
      obtain ⟨above, ended, length⟩ := run_blocks_over (proper_place _ word) cleared value
        (by simpa using balanced.neverBelow)
      have empty : above = [] := by
        rw [balanced.settled] at length
        exact List.length_eq_zero_iff.1 (by simpa using length)
      have same : block = caseBehind false (unbraced value) := by
        rw [ended, empty, List.nil_append, List.cons.injEq] at blocks
        exact blocks.1.symm
      rw [same, caseBehind_of_no_end quiet]

/-! ## Depth -/

/-- By how much the depth exceeds what the open blocks and the case bodies in them account for. -/
def extra (s : State) : Int := s.depth - (s.blocks.length + s.blocks.count true : Nat)

theorem extra_closedBy {s : State} (enough : 0 ≤ s.extra) (t : Token) :
    (s.closedBy t).extra =
      if t.text = "\x7d" ∧ s.blocks = [] then max 0 (s.extra - 1) else s.extra := by
  unfold extra at *
  by_cases closes : t.text = "\x7d"
  · cases blocks : s.blocks with
    | nil =>
      simp [closedBy, closeBlock, closes, blocks]
      omega
    | cons indented rest =>
      -- A closed block takes its own level and that of its case body along.
      cases indented <;> simp [closedBy, closeBlock, closes, blocks] at enough ⊢ <;> omega
  · by_cases word : t.opensLabel = true
    · rcases blocks : s.blocks with _ | ⟨_ | _, rest⟩
      · simp [closedBy, closeCase, closes, word, blocks]
      · simp [closedBy, closeCase, closes, word, blocks]
      · simp [closedBy, closeCase, closes, word, blocks] at enough ⊢
        omega
    · simp [closedBy, closes, word]

/-- The end of a label raises the depth for good unless the block around it takes note; a brace that
closes nothing lowers it; no other token has a part in it. -/
theorem place_extra {s : State} (proper : s.Proper) (enough : 0 ≤ s.extra) (t : Token) :
    (s.place t).2.extra =
      if t.text = "\x7d" ∧ s.blocks = [] then max 0 (s.extra - 1)
      else if t.endsLabel = true ∧ s.blocks.head? ≠ some false then s.extra + 1
      else s.extra := by
  have closed := extra_closedBy enough t
  simp only [place, closeFor_eq_closedBy proper]
  by_cases ends : t.endsLabel = true
  · -- A colon closes nothing, so that the end of a label finds the blocks as they are.
    have text := Token.text_of_endsLabel ends
    have untouched : s.closedBy t = s := by
      simp [closedBy, text, Token.opensLabel_eq_false (.inr (.inr text))]
    rw [untouched, extra, extra, advance_depth, advance_blocks]
    rcases blocks : s.blocks with _ | ⟨_ | _, rest⟩ <;> simp [ends, text] <;> omega
  · have same : ((s.closedBy t).advance t).extra = (s.closedBy t).extra := by
      rw [extra, extra, advance_depth, advance_blocks]
      by_cases opens : t.text = "\x7b"
      · simp [opens]
        omega
      · simp [opens, ends]
    rw [same, closed]
    simp [ends]

theorem extra_place_nonneg {s : State} (proper : s.Proper) (enough : 0 ≤ s.extra) (t : Token) :
    0 ≤ (s.place t).2.extra := by
  rw [place_extra proper enough]
  split
  · omega
  · split <;> omega

theorem extra_run_nonneg (ts : List Token) : 0 ≤ (({} : State).run ts).extra := by
  have along {s : State} (proper : s.Proper) (enough : 0 ≤ s.extra) : 0 ≤ (s.run ts).extra := by
    induction ts generalizing s with
    | nil => exact enough
    | cons t ts ih => exact ih (proper_place s t) (extra_place_nonneg proper enough t)
  exact along proper_start (by decide)

/-- Along tokens that close only what is open, what stays of the labels are those that end where no
block is open. -/
theorem run_extra {s : State} (proper : s.Proper) (enough : 0 ≤ s.extra) {ts : List Token}
    (neverBelow : ∀ before, before <+: ts → 0 ≤ (s.blocks.length : Int) + level braceStep before)
    (ready : ∀ before t after, ts = before ++ t :: after → t.endsLabel = true →
      ∀ block rest, (s.run before).blocks = block :: rest → block = false) :
    (s.run ts).extra = s.extra + (unbracedFrom s.blocks.length ts).countP Token.endsLabel := by
  -- As many braces are open before the first token as there are blocks, which is what makes the
  -- tokens without a block those outside braces.
  induction ts generalizing s with
  | nil => simp [unbracedFrom]
  | cons t ts ih =>
    have first := neverBelow [t] (by simp)
    simp only [level_cons, level_nil, Int.add_zero] at first
    have length : ((s.place t).2.blocks.length : Int) = s.blocks.length + braceStep t := by
      rw [place_blocks_length proper]
      omega
    have later := ih (proper_place s t) (extra_place_nonneg proper enough t)
      (fun before isPrefix => by
        have below := neverBelow (t :: before) (by simpa using isPrefix)
        rw [level_cons] at below
        omega)
      (fun before u after eq ends => ready (t :: before) u after (by rw [eq]; rfl) ends)
    have closesSome : ¬ (t.text = "\x7d" ∧ s.blocks = []) := by
      rintro ⟨closes, none⟩
      simp [braceStep, closes, none] at first
    rw [run_cons, later, place_extra proper enough, if_neg closesSome, length, unbracedFrom,
      List.countP_append]
    cases blocks : s.blocks with
    | nil =>
      cases ends : t.endsLabel with
      | false => simp [ends]
      | true =>
        simp [ends]
        omega
    | cons block rest =>
      have inside : ¬ (((block :: rest).length : Int) = 0) := by
        rw [List.length_cons]
        omega
      -- The block around the label takes note of it.
      have noted : ¬ (t.endsLabel = true ∧ (block :: rest).head? ≠ some false) := by
        rintro ⟨ends, unmarked⟩
        exact unmarked (by rw [ready [] t ts rfl ends block rest blocks]; rfl)
      rw [if_neg noted, if_neg inside]
      simp

/-- Tokens whose braces are balanced and whose labels are paired leave the blocks as they were, but
for the mark that the last label directly among them sets.  The depth follows that mark; where there
is no block to mark, it rises with every label. -/
theorem run_depth {s : State} (proper : s.Proper) (enough : 0 ≤ s.extra) {ts : List Token}
    (braces : Balanced braceStep ts) (labels : LabelsPaired ts) :
    (s.blocks = [] → (s.run ts).blocks = [] ∧
      (s.run ts).depth = s.depth + (unbraced ts).countP Token.endsLabel) ∧
    ∀ indented rest, s.blocks = indented :: rest →
      (s.run ts).blocks = caseBehind indented (unbraced ts) :: rest ∧
      (s.run ts).depth + indented.toNat = s.depth + (caseBehind indented (unbraced ts)).toNat := by
  have total : (s.run ts).extra =
      s.extra + (unbracedFrom s.blocks.length ts).countP Token.endsLabel := by
    refine run_extra proper enough (fun before isPrefix => ?_) ?_
    · have below := braces.neverBelow before isPrefix
      omega
    · intro before t after eq ends block rest blocks
      obtain ⟨outer, label, rfl, head⟩ := labels before t after eq ends
      exact head_blocks_of_labelHead proper head blocks
  refine ⟨fun none => ?_, fun indented rest blocks => ?_⟩
  · have count := run_blocks_length proper ts (by simpa [none] using braces.neverBelow)
    have empty : (s.run ts).blocks = [] := by
      rw [none, braces.settled] at count
      exact List.length_eq_zero_iff.1 (by simpa using count)
    refine ⟨empty, ?_⟩
    rw [extra, extra, empty, none] at total
    simp at total
    rw [unbraced]
    omega
  · have direct : s.blocks = [] ++ indented :: rest := blocks
    obtain ⟨above, behindAll, length⟩ := run_blocks_over proper direct ts
      (by simpa using braces.neverBelow)
    have empty : above = [] := by
      rw [braces.settled] at length
      exact List.length_eq_zero_iff.1 (by simpa using length)
    have behind : (s.run ts).blocks = caseBehind indented (unbraced ts) :: rest := by
      rw [behindAll, empty]
      rfl
    have nothing : unbracedFrom s.blocks.length ts = [] := by
      refine unbracedFrom_eq_nil fun before isPrefix => ?_
      have below := braces.neverBelow before isPrefix
      rw [blocks, List.length_cons]
      omega
    have marks (block : Bool) : (block :: rest).count true = rest.count true + block.toNat := by
      cases block <;> simp
    refine ⟨behind, ?_⟩
    rw [extra, extra, nothing, behind, blocks, marks, marks] at total
    simp only [List.length_cons, List.countP_nil] at total
    omega

theorem run_keeps {s : State} (proper : s.Proper) (enough : 0 ≤ s.extra) {ts : List Token}
    (braces : Balanced braceStep ts) (labels : LabelsPaired ts)
    (quiet : ∀ t ∈ unbraced ts, t.opensLabel = false ∧ t.endsLabel = false) :
    (s.run ts).blocks = s.blocks ∧ (s.run ts).depth = s.depth := by
  obtain ⟨noBlock, inBlock⟩ := run_depth proper enough braces labels
  cases blocks : s.blocks with
  | nil =>
    obtain ⟨none, depth⟩ := noBlock blocks
    have noEnd : (unbraced ts).countP Token.endsLabel = 0 := by
      rw [List.countP_eq_zero]
      intro t member
      simp [(quiet t member).2]
    exact ⟨none, by rw [depth, noEnd, Nat.add_zero]⟩
  | cons indented rest =>
    have behind := inBlock indented rest blocks
    rw [caseBehind_of_no_label quiet] at behind
    exact ⟨behind.1, Nat.add_right_cancel behind.2⟩

end State

end Introspect.Layout
