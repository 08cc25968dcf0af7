import Mathlib.Data.List.TakeWhile
import Introspect.Proofs.Text.Split

/-! # Lines and their ends

* `AllBlank`, `Trimmed` — white space only, and no white space at either end;
* `trim_eq_iff` — what is left of a text is the trimmed text between white space;
* `exists_split_append_left`, `exists_split_append_right` — what is put before or behind a text that
  is cut stays with the first or the last piece;
* `map_trim_lines` — but for white space, the lines of a text are what stands between its line
  feeds, unless the text ends with one.
-/

namespace Introspect.Text

/-! ## White space at the ends -/

/-- Nothing but white space. -/
def AllBlank (s : String) : Prop := ∀ c ∈ s.toList, isBlank c = true

/-- No white space at either end. -/
structure Trimmed (s : String) : Prop where
  first : ∀ c ∈ s.toList.head?, isBlank c = false
  last : ∀ c ∈ s.toList.getLast?, isBlank c = false

instance (s : String) : Decidable (AllBlank s) :=
  decidable_of_iff (s.toList.all isBlank = true) List.all_eq_true

theorem allBlank_empty : AllBlank "" := by decide

theorem AllBlank.append {s t : String} (front : AllBlank s) (back : AllBlank t) :
    AllBlank (s ++ t) := by
  rw [AllBlank, String.toList_append]
  exact List.forall_mem_append.2 ⟨front, back⟩

theorem dropWhile_of_head? {cs : List Char} (first : ∀ c ∈ cs.head?, isBlank c = false) :
    cs.dropWhile isBlank = cs := by
  cases cs with
  | nil => rfl
  | cons c cs => rw [List.dropWhile_cons_of_neg (by simp [first c rfl])]

theorem isBlank_head?_dropWhile (cs : List Char) :
    ∀ c ∈ (cs.dropWhile isBlank).head?, isBlank c = false := by
  intro c member
  have stops := List.head?_dropWhile_not isBlank cs
  rw [member] at stops
  exact stops

theorem trimChars_append {before middle behind : List Char}
    (blankBefore : ∀ c ∈ before, isBlank c = true) (blankBehind : ∀ c ∈ behind, isBlank c = true)
    (first : ∀ c ∈ middle.head?, isBlank c = false)
    (last : ∀ c ∈ middle.getLast?, isBlank c = false) :
    trimChars (before ++ middle ++ behind) = middle := by
  have fromStart :
      trimStartChars (before ++ middle ++ behind) = trimStartChars (middle ++ behind) := by
    rw [trimStartChars, List.append_assoc, List.dropWhile_append_of_pos blankBefore, trimStartChars]
  cases middle with
  | nil =>
    have nothing : trimStartChars behind = [] := List.dropWhile_eq_nil_iff.2 blankBehind
    rw [trimChars, fromStart, List.nil_append, nothing]
    rfl
  | cons c middle =>
    have kept : trimStartChars (c :: middle ++ behind) = c :: middle ++ behind :=
      dropWhile_of_head? (by simpa using first)
    have fromEnd : trimStartChars (c :: middle ++ behind).reverse = (c :: middle).reverse := by
      rw [List.reverse_append, trimStartChars,
        List.dropWhile_append_of_pos (by simpa using blankBehind)]
      exact dropWhile_of_head? (by rwa [List.head?_reverse])
    rw [trimChars, fromStart, kept, fromEnd, List.reverse_reverse]

theorem exists_trim (s : String) :
    ∃ before behind, s = before ++ trim s ++ behind ∧ AllBlank before ∧ AllBlank behind ∧
      Trimmed (trim s) := by
  have front : s.toList.takeWhile isBlank ++ trimStartChars s.toList = s.toList :=
    List.takeWhile_append_dropWhile
  have back : (trimStartChars s.toList).reverse.takeWhile isBlank ++
      trimStartChars (trimStartChars s.toList).reverse = (trimStartChars s.toList).reverse :=
    List.takeWhile_append_dropWhile
  have rest : trimStartChars s.toList =
      trimChars s.toList ++ ((trimStartChars s.toList).reverse.takeWhile isBlank).reverse := by
    rw [trimChars, ← List.reverse_append, back, List.reverse_reverse]
  refine ⟨String.ofList (s.toList.takeWhile isBlank),
    String.ofList ((trimStartChars s.toList).reverse.takeWhile isBlank).reverse, ?_, ?_, ?_, ?_, ?_⟩
  · rw [← String.toList_inj]
    simp only [trim, String.toList_append, String.toList_ofList]
    rw [List.append_assoc, ← rest]
    exact front.symm
  · intro c member
    rw [String.toList_ofList] at member
    exact List.mem_takeWhile_imp member
  · intro c member
    rw [String.toList_ofList, List.mem_reverse] at member
    exact List.mem_takeWhile_imp member
  · -- The first character that is left is the first one behind the white space in front.
    intro c member
    rw [trim, String.toList_ofList] at member
    apply isBlank_head?_dropWhile s.toList
    have longer : (trimStartChars s.toList).head? = some c := by
      rw [rest, List.head?_append, Option.mem_def.1 member]
      rfl
    exact longer
  · intro c member
    rw [trim, String.toList_ofList, trimChars, List.getLast?_reverse] at member
    exact isBlank_head?_dropWhile _ c member

theorem trim_eq_iff {s t : String} :
    trim s = t ↔ Trimmed t ∧ ∃ before behind, s = before ++ t ++ behind ∧
      AllBlank before ∧ AllBlank behind := by
  constructor
  · rintro rfl
    obtain ⟨before, behind, eq, blankBefore, blankBehind, trimmed⟩ := exists_trim s
    exact ⟨trimmed, before, behind, eq, blankBefore, blankBehind⟩
  · rintro ⟨trimmed, before, behind, rfl, blankBefore, blankBehind⟩
    rw [trim, String.toList_append, String.toList_append,
      trimChars_append blankBefore blankBehind trimmed.first trimmed.last, String.ofList_toList]

theorem trimmed_trim (s : String) : Trimmed (trim s) := (trim_eq_iff.1 rfl).1

theorem trim_of_trimmed {s : String} (trimmed : Trimmed s) : trim s = s :=
  trim_eq_iff.2 ⟨trimmed, "", "", by simp, allBlank_empty, allBlank_empty⟩

/-- White space around a text is not seen. -/
theorem trim_blank {before behind : String} (blankBefore : AllBlank before)
    (blankBehind : AllBlank behind) (s : String) : trim (before ++ s ++ behind) = trim s := by
  obtain ⟨front, back, eq, blankFront, blankBack, trimmed⟩ := exists_trim s
  refine trim_eq_iff.2 ⟨trimmed, before ++ front, back ++ behind, ?_, blankBefore.append blankFront,
    blankBack.append blankBehind⟩
  conv => lhs; rw [eq]
  simp only [String.append_assoc]

theorem trim_append_left {before : String} (blank : AllBlank before) (s : String) :
    trim (before ++ s) = trim s := by
  simpa using trim_blank blank allBlank_empty s

theorem trim_append_right {behind : String} (blank : AllBlank behind) (s : String) :
    trim (s ++ behind) = trim s := by
  simpa using trim_blank allBlank_empty blank s

theorem mem_of_mem_trim {s : String} {c : Char} (member : c ∈ (trim s).toList) : c ∈ s.toList := by
  obtain ⟨before, behind, eq, -⟩ := exists_trim s
  rw [eq]
  simp [member]

/-- A character that shows is left. -/
theorem trim_ne_empty {s : String} {c : Char} (member : c ∈ s.toList) (shows : isBlank c = false) :
    trim s ≠ "" := by
  intro empty
  obtain ⟨before, behind, eq, blankBefore, blankBehind, -⟩ := exists_trim s
  rw [empty, String.append_empty] at eq
  rw [eq] at member
  rw [blankBefore.append blankBehind c member] at shows
  cases shows

/-! ## Pieces at the ends -/

section

variable {c : Char} {gap : String} (single : gap.toList = [c])
include single

theorem exists_split_append_left {front : String} (free : c ∉ front.toList) (s : String) :
    ∃ first rest, split c s = first :: rest ∧ split c (front ++ s) = (front ++ first) :: rest := by
  obtain ⟨first, rest, pieces⟩ := List.exists_cons_of_ne_nil (split_ne_nil c s)
  have inPieces : ∀ piece ∈ split c s, c ∉ piece.toList := fun _ => not_mem_of_mem_split
  rw [pieces, List.forall_mem_cons] at inPieces
  have longer : front ++ s = joinWith gap ((front ++ first) :: rest) := by
    rw [joinWith, String.intercalate_cons_append, ← joinWith, ← pieces, joinWith_split single]
  refine ⟨first, rest, pieces, ?_⟩
  rw [longer, split_joinWith single (List.cons_ne_nil _ _)]
  rw [List.forall_mem_cons, String.toList_append, List.mem_append, not_or]
  exact ⟨⟨free, inPieces.1⟩, inPieces.2⟩

theorem exists_split_append_right {back : String} (free : c ∉ back.toList) (s : String) :
    ∃ before last, split c s = before ++ [last] ∧
      split c (s ++ back) = before ++ [last ++ back] := by
  obtain ⟨before, last, pieces⟩ : ∃ before last, split c s = before ++ [last] :=
    ⟨_, _, (List.dropLast_concat_getLast (split_ne_nil c s)).symm⟩
  have inPieces : ∀ piece ∈ split c s, c ∉ piece.toList := fun _ => not_mem_of_mem_split
  rw [pieces, List.forall_mem_append, List.forall_mem_singleton] at inPieces
  have longer : s ++ back = joinWith gap (before ++ [last ++ back]) := by
    rw [← joinWith_split single s, pieces]
    cases before with
    | nil => simp
    | cons first before =>
      rw [joinWith_append (List.cons_ne_nil _ _) (List.cons_ne_nil _ _),
        joinWith_append (List.cons_ne_nil _ _) (List.cons_ne_nil _ _)]
      simp only [joinWith_singleton, String.append_assoc]
  refine ⟨before, last, pieces, ?_⟩
  rw [longer, split_joinWith single (by simp)]
  rw [List.forall_mem_append, List.forall_mem_singleton, String.toList_append, List.mem_append,
    not_or]
  exact ⟨inPieces.1, inPieces.2, free⟩

end

/-! ## Lines -/

/-- A line without one carriage return at its end. -/
def chomp (line : String) : String := String.ofList (dropReturn line.toList.reverse).reverse

theorem exists_chomp (line : String) : ∃ rest, line = chomp line ++ rest ∧ AllBlank rest := by
  unfold chomp dropReturn
  split
  · rename_i front reversed
    refine ⟨"\r", ?_, by decide⟩
    rw [← String.toList_inj, ← List.reverse_inj]
    simp [reversed]
  · exact ⟨"", by simp, allBlank_empty⟩

theorem trim_chomp (line : String) : trim (chomp line) = trim line := by
  obtain ⟨rest, eq, blank⟩ := exists_chomp line
  conv => rhs; rw [eq]
  rw [trim_append_right blank]

theorem chomp_of_trimmed {line : String} (trimmed : ∀ c ∈ line.toList.getLast?, isBlank c = false) :
    chomp line = line := by
  unfold chomp dropReturn
  split
  · rename_i front reversed
    have isLast : line.toList.getLast? = some '\r' := by
      rw [← List.head?_reverse, reversed]
      rfl
    exact absurd (trimmed '\r' isLast) (by decide)
  · simp

theorem linesFrom_append {piece : List Char} (free : '\n' ∉ piece) (line rest : List Char) :
    linesFrom line (piece ++ rest) = linesFrom (piece.reverse ++ line) rest := by
  induction piece generalizing line with
  | nil => rfl
  | cons c piece ih =>
    rw [List.mem_cons, not_or] at free
    rw [List.cons_append, linesFrom, ih free.2]
    · simp
    · rintro rfl
      exact free.1 rfl

theorem lines_of_free {line : String} (free : '\n' ∉ line.toList) :
    lines line = if line = "" then [] else [line] := by
  have whole := linesFrom_append free [] []
  rw [List.append_nil, List.append_nil] at whole
  rw [lines, whole, linesFrom]
  simp [apply_ite]

theorem lines_append {line : String} (free : '\n' ∉ line.toList) (rest : String) :
    lines (line ++ "\n" ++ rest) = chomp line :: lines rest := by
  have feed : (line ++ "\n" ++ rest).toList = line.toList ++ '\n' :: rest.toList := by simp
  rw [lines, feed, linesFrom_append free, linesFrom, List.append_nil]
  rfl

/-- All lines but the last one lose a carriage return, and an empty last one is none. -/
theorem lines_joinWith {before : List String} {last : String}
    (free : ∀ line ∈ before ++ [last], '\n' ∉ line.toList) (closed : last ≠ "") :
    lines (joinWith "\n" (before ++ [last])) = before.map chomp ++ [last] := by
  induction before with
  | nil =>
    rw [List.nil_append, joinWith_singleton, lines_of_free (free last (by simp)), if_neg closed]
    rfl
  | cons line before ih =>
    rw [List.cons_append, List.forall_mem_cons] at free
    obtain ⟨second, more, eq⟩ := List.exists_cons_of_ne_nil (List.append_ne_nil_of_right_ne_nil
      before (List.cons_ne_nil last []))
    rw [List.cons_append, eq, joinWith_cons_cons, lines_append free.1, ← eq, ih free.2]
    rfl

theorem exists_lines (s : String) :
    ∃ before last, s = joinWith "\n" (before ++ [last]) ∧ split '\n' s = before ++ [last] ∧
      ∀ line ∈ before ++ [last], '\n' ∉ line.toList := by
  have pieces := List.dropLast_concat_getLast (split_ne_nil '\n' s)
  refine ⟨_, _, ?_, pieces.symm, ?_⟩ <;> rw [pieces]
  · exact (joinWith_split rfl s).symm
  · exact fun _ => not_mem_of_mem_split

/-- Where no line has white space at its end, the lines are what stands between line feeds. -/
theorem lines_eq_split {s : String} (closed : (split '\n' s).getLast? ≠ some "")
    (ends : ∀ line ∈ split '\n' s, ∀ c ∈ line.toList.getLast?, isBlank c = false) :
    lines s = split '\n' s := by
  obtain ⟨before, last, whole, pieces, free⟩ := exists_lines s
  rw [pieces, List.forall_mem_append] at ends
  rw [pieces, List.getLast?_concat] at closed
  have unchanged : before.map chomp = before := by
    conv => rhs; rw [← List.map_id before]
    exact List.map_congr_left fun line member => chomp_of_trimmed (ends.1 line member)
  rw [pieces, whole, lines_joinWith free (by simpa using closed), unchanged]

theorem map_trim_lines {s : String} (closed : (split '\n' s).getLast? ≠ some "") :
    (lines s).map trim = (split '\n' s).map trim := by
  obtain ⟨before, last, whole, pieces, free⟩ := exists_lines s
  rw [pieces, List.getLast?_concat] at closed
  rw [pieces, whole, lines_joinWith free (by simpa using closed)]
  simp [trim_chomp]

end Introspect.Text
