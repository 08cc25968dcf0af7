import Introspect.Proofs.Layout.Spacing

/-! # Separation of tokens

Two tokens that would be read as one, or as a different one, are never printed side by side:

* `WouldMerge` — what the end of a token and the start of the next one would grow into;
* `touches_eq_false` — no rule for tokens that touch applies to such a pair;
* `State.gapBefore_ne_touch` — nor does anything else put them together;
* `printTokens_separates` — wherever the two are neighbours, blanks stand between them.
-/

namespace Introspect.Layout

/-! ## Tokens that would merge -/

/-- A character of a name or a number. -/
def isIdentifierChar (c : Char) : Bool := Text.isWordChar c || c == '_'

/-- The tokens would run into each other: two names would become one, two signs a step.  An arrow
may follow a minus sign. -/
def WouldMerge (p t : Token) : Prop :=
  ∃ c d, p.text.toList.getLast? = some c ∧ t.text.toList.head? = some d ∧
    (isIdentifierChar c = true ∧ isIdentifierChar d = true ∨ c = '+' ∧ d = '+' ∨
      c = '-' ∧ d = '-' ∧ t.text ≠ "->")

/-- A mark of ASCII that merges with no other character. -/
def isMark (c : Char) : Bool :=
  decide (c.toNat < 0xaa) && !c.isAlphanum && c != '_' && c != '+' && c != '-'

theorem isMark_of_mem_openers :
    ∀ text ∈ openers, text.toList.getLast?.all isMark = true := by
  decide

theorem isMark_of_mem_closers :
    ∀ text ∈ closers, text ≠ "->" → text.toList.head?.all isMark = true := by
  decide

theorem isMark_of_mem_marks :
    ∀ text ∈ [":", "(", "[", "\x7d", ";", ",", ")", "]", "~"],
      text.toList.head?.all isMark = true ∧ text.toList.getLast?.all isMark = true := by
  decide

/-- The ranges of other scripts begin behind ASCII. -/
theorem isWordChar_of_lt {c : Char} (ascii : c.toNat < 0xaa) :
    Text.isWordChar c = c.isAlphanum := by
  have beyond : Text.wordRanges.all (fun r => decide (0xaa ≤ r.1)) = true := by decide +kernel
  have outside : Text.wordRanges.any (fun r => r.1 ≤ c.toNat && c.toNat ≤ r.2) = false := by
    rw [List.any_eq_false]
    intro r member
    have start := of_decide_eq_true (List.all_eq_true.1 beyond r member)
    simp only [Bool.and_eq_true, decide_eq_true_eq, not_and]
    omega
  rw [Text.isWordChar, outside, Bool.or_false]

theorem isIdentifierChar_of_isMark {c : Char} (mark : isMark c = true) :
    isIdentifierChar c = false := by
  simp only [isMark, Bool.and_eq_true, decide_eq_true_eq, Bool.not_eq_true', bne_iff_ne] at mark
  obtain ⟨⟨⟨⟨ascii, notWord⟩, notUnderscore⟩, -⟩, -⟩ := mark
  simp [isIdentifierChar, isWordChar_of_lt ascii, notWord, notUnderscore]

theorem isIdentifierChar_of_sign {c : Char} (sign : c = '+' ∨ c = '-') :
    isIdentifierChar c = false := by
  rcases sign with rfl | rfl <;> rw [isIdentifierChar, isWordChar_of_lt (by decide)] <;> decide

namespace WouldMerge

variable {p t : Token}

/-- Where the tokens meet, neither of them has a mark. -/
theorem not_isMark (h : WouldMerge p t) :
    (∃ c, p.text.toList.getLast? = some c ∧ isMark c = false) ∧
      ∃ d, t.text.toList.head? = some d ∧ isMark d = false := by
  obtain ⟨c, d, last, first, merge⟩ := h
  have noMark {e : Char} (word : isIdentifierChar e = true) : isMark e = false := by
    rw [Bool.eq_false_iff]
    intro mark
    rw [isIdentifierChar_of_isMark mark] at word
    contradiction
  refine ⟨⟨c, last, ?_⟩, d, first, ?_⟩
  · rcases merge with ⟨word, -⟩ | ⟨rfl, -⟩ | ⟨rfl, -⟩
    · exact noMark word
    · rfl
    · rfl
  · rcases merge with ⟨-, word⟩ | ⟨-, rfl⟩ | ⟨-, rfl, -⟩
    · exact noMark word
    · rfl
    · rfl

theorem last_ne {text : String} (h : WouldMerge p t)
    (marks : text.toList.getLast?.all isMark = true) : p.text ≠ text := by
  rintro rfl
  obtain ⟨c, last, noMark⟩ := h.not_isMark.1
  rw [last, Option.all_some, noMark] at marks
  contradiction

theorem first_ne {text : String} (h : WouldMerge p t)
    (marks : text.toList.head?.all isMark = true) : t.text ≠ text := by
  rintro rfl
  obtain ⟨d, first, noMark⟩ := h.not_isMark.2
  rw [first, Option.all_some, noMark] at marks
  contradiction

/-- A sign merges with the same sign only. -/
theorem first_of_sign {c : Char} (h : WouldMerge p t) (sign : c = '+' ∨ c = '-')
    (last : p.text.toList.getLast? = some c) : t.text.toList.head? = some c := by
  obtain ⟨c', d, last', first, merge⟩ := h
  obtain rfl : c' = c := Option.some.inj (last'.symm.trans last)
  rcases merge with ⟨word, -⟩ | ⟨rfl, rfl⟩ | ⟨rfl, rfl, -⟩
  · rw [isIdentifierChar_of_sign sign] at word
    contradiction
  · exact first
  · exact first

theorem last_of_sign {d : Char} (h : WouldMerge p t) (sign : d = '+' ∨ d = '-')
    (first : t.text.toList.head? = some d) : p.text.toList.getLast? = some d := by
  obtain ⟨c, d', last, first', merge⟩ := h
  obtain rfl : d' = d := Option.some.inj (first'.symm.trans first)
  rcases merge with ⟨-, word⟩ | ⟨rfl, rfl⟩ | ⟨rfl, rfl, -⟩
  · rw [isIdentifierChar_of_sign sign] at word
    contradiction
  · exact last
  · exact last

theorem ne_arrow (h : WouldMerge p t) : t.text ≠ "->" := by
  intro arrow
  obtain ⟨c, d, -, first, merge⟩ := h
  have minus : d = '-' := by
    rw [arrow] at first
    exact (Option.some.inj first).symm
  rcases merge with ⟨-, word⟩ | ⟨-, plus⟩ | ⟨-, -, notArrow⟩
  · rw [isIdentifierChar_of_sign (.inr minus)] at word
    contradiction
  · rw [minus] at plus
    contradiction
  · exact notArrow arrow

end WouldMerge

/-! ## The rules for tokens that touch -/

theorem startsWith_of_head? {s : String} {c : Char} (first : s.toList.head? = some c) :
    Text.startsWith s (String.ofList [c]) = true := by
  obtain ⟨rest, chars⟩ := List.head?_eq_some_iff.1 first
  simp [Text.startsWith, chars, Text.stripChars]

theorem startsWith_dollar_of_sign {s : String} {c : Char} (sign : c = '+' ∨ c = '-')
    (first : s.toList.head? = some c) : Text.startsWith s "$" = false := by
  obtain ⟨rest, chars⟩ := List.head?_eq_some_iff.1 first
  rcases sign with rfl | rfl <;> simp [Text.startsWith, chars, Text.stripChars]

theorem isWordEnd_of_sign {s : String} {c : Char} (sign : c = '+' ∨ c = '-')
    (last : s.toList.getLast? = some c) : isWordEnd s = false := by
  have notWord : Text.isWordChar c = false := by
    have outside := isIdentifierChar_of_sign sign
    simp only [isIdentifierChar, Bool.or_eq_false_iff] at outside
    exact outside.1
  rcases sign with rfl | rfl <;> simp [isWordEnd, last, notWord]

/-- No rule lets the second of two tokens touch the first if they would merge. -/
theorem touches_eq_false {p t : Token} (h : WouldMerge p t) : touches p t = false := by
  have notOpener : openers.contains p.text = false := by
    rw [Bool.eq_false_iff, ne_eq, List.contains_iff_mem]
    exact fun member => h.last_ne (isMark_of_mem_openers p.text member) rfl
  have notCloser : closers.contains t.text = false := by
    rw [Bool.eq_false_iff, ne_eq, List.contains_iff_mem]
    exact fun member => h.first_ne (isMark_of_mem_closers t.text member h.ne_arrow) rfl
  have notMark : t.text ≠ ":" ∧ t.text ≠ "(" ∧ t.text ≠ "[" :=
    ⟨h.first_ne (isMark_of_mem_marks ":" (by decide)).1,
      h.first_ne (isMark_of_mem_marks "(" (by decide)).1,
      h.first_ne (isMark_of_mem_marks "[" (by decide)).1⟩
  have notTilde : p.text ≠ "~" := h.last_ne (isMark_of_mem_marks "~" (by decide)).2
  -- What is left are the rules for signs, one for each side on which a sign can stand.
  have unary : ["-", "+", "~"].contains p.text = true → Text.startsWith t.text p.text = true := by
    intro member
    simp only [List.contains_cons, List.contains_nil, Bool.or_false, Bool.or_eq_true,
      beq_iff_eq] at member
    rcases member with minus | plus | tilde
    · rw [minus]
      exact startsWith_of_head? (h.first_of_sign (.inr rfl) (by rw [minus]; rfl))
    · rw [plus]
      exact startsWith_of_head? (h.first_of_sign (.inl rfl) (by rw [plus]; rfl))
    · exact absurd tilde notTilde
  have before : t.text = "++" ∨ t.text = "--" → isWordEnd p.text = false := by
    rintro (plus | minus)
    · exact isWordEnd_of_sign (.inl rfl) (h.last_of_sign (.inl rfl) (by rw [plus]; rfl))
    · exact isWordEnd_of_sign (.inr rfl) (h.last_of_sign (.inr rfl) (by rw [minus]; rfl))
  have behind : p.text = "++" ∨ p.text = "--" → Text.startsWith t.text "$" = false := by
    rintro (plus | minus)
    · exact startsWith_dollar_of_sign (.inl rfl) (h.first_of_sign (.inl rfl) (by rw [plus]; rfl))
    · exact startsWith_dollar_of_sign (.inr rfl) (h.first_of_sign (.inr rfl) (by rw [minus]; rfl))
  unfold touches
  rw [notOpener, notCloser]
  simp only [Bool.false_eq_true, if_false, beq_iff_eq, notMark, or_self,
    Bool.or_eq_true, Bool.and_eq_true, false_and]
  split
  · rename_i sign
    simp [notTilde, unary sign.2]
  · split
    · rename_i step
      exact before step
    · split
      · rename_i step
        exact behind step
      · rfl

/-! ## Any state -/

namespace State

/-- Whatever the layout remembers, it does not put a token next to one with which it would
merge. -/
theorem gapBefore_ne_touch {s : State} {p t : Token} (last : s.last = some p)
    (h : WouldMerge p t) : s.gapBefore t ≠ .touch := by
  have notMark (text : String) (mark : text ∈ [":", "(", "[", "\x7d", ";", ",", ")", "]", "~"]) :
      t.text ≠ text := h.first_ne (isMark_of_mem_marks text mark).1
  have notEnd : [";", ",", ")", "]"].contains t.text = false := by
    have marks : [";", ",", ")", "]"] ⊆ [":", "(", "[", "\x7d", ";", ",", ")", "]", "~"] := by
      decide
    rw [Bool.eq_false_iff, ne_eq, List.contains_iff_mem]
    exact fun member => notMark t.text (marks member) rfl
  have notBrace : t.text ≠ "\x7d" := notMark "\x7d" (by decide)
  simp only [gapBefore, last, beq_iff_eq, notBrace, notEnd, touches_eq_false h, Bool.and_false,
    Bool.false_eq_true, if_false]
  split
  · split <;> exact Gap.noConfusion
  · exact Gap.noConfusion

theorem closeFor_frame (s : State) (t : Token) :
    (s.closeFor t).brackets = s.brackets ∧ (s.closeFor t).lineEnded = s.lineEnded ∧
      (s.closeFor t).last = s.last := by
  unfold closeFor
  split
  · exact ⟨rfl, rfl, rfl⟩
  · exact closedBy_frame s t

theorem place_ne_touch {s : State} {p t : Token} (last : s.last = some p) (h : WouldMerge p t) :
    (s.place t).1 ≠ .touch :=
  gapBefore_ne_touch ((closeFor_frame s t).2.2.trans last) h

end State

/-! ## Printing -/

/-- A gap in which something stands. -/
def IsBlankGap (g : String) : Prop :=
  g = " " ∨ ∃ levels, g = "\n" ++ String.ofList (List.replicate (4 * levels) ' ')

theorem isBlankGap_text {g : Gap} (h : g ≠ .touch) : IsBlankGap g.text := by
  rcases isGap_text g with empty | blank
  · cases g with
    | touch => exact absurd rfl h
    | space => exact absurd empty (by decide)
    | line depth => exact absurd empty (by simp [Gap.text, Gap.chars])
  · exact blank

theorem printTokens_append (xs ys : List Token) :
    printTokens (xs ++ ys) = printTokens xs ++ render (placed (({} : State).run xs) ys) := by
  rw [printTokens, placed_append, render_append, printTokens]

/-- Wherever two tokens that would merge are neighbours, a space or a line break stands between
them. -/
theorem printTokens_separates (before after : List Token) {p t : Token} (h : WouldMerge p t) :
    ∃ lead gap rest,
      printTokens (before ++ [p]) = printTokens before ++ lead ++ p.text ∧
      printTokens (before ++ [p, t]) = printTokens (before ++ [p]) ++ gap ++ t.text ∧
      printTokens (before ++ p :: t :: after) = printTokens (before ++ [p, t]) ++ rest ∧
      IsGap lead ∧ IsBlankGap gap := by
  let s := ({} : State).run before
  have last : ((s.place p).2).last = some p := State.place_last s p
  refine ⟨(s.place p).1.text, ((s.place p).2.place t).1.text,
    render (placed ((s.place p).2.place t).2 after), ?_, ?_, ?_, isGap_text _,
    isBlankGap_text (State.place_ne_touch last h)⟩
  · simp [printTokens_append, placed, render, s, String.append_assoc]
  · simp [printTokens_append, placed, render, s, String.append_assoc]
  · simp [printTokens_append, placed, render, s, String.append_assoc]

theorem printTokens_stackedSigns :
    WouldMerge ⟨"unary_op_expression", "-"⟩ ⟨"update_expression", "--"⟩ ∧
    ∃ gap, printTokens [⟨"unary_op_expression", "-"⟩, ⟨"update_expression", "--"⟩] =
      "-" ++ gap ++ "--" ∧ IsBlankGap gap := by
  have merge : WouldMerge ⟨"unary_op_expression", "-"⟩ ⟨"update_expression", "--"⟩ :=
    ⟨'-', '-', by decide, by decide, .inr (.inr ⟨rfl, rfl, by decide⟩)⟩
  obtain ⟨lead, gap, rest, -, printed, -, -, blank⟩ := printTokens_separates [] [] merge
  exact ⟨merge, gap, printed, blank⟩

end Introspect.Layout
