import Mathlib.Logic.Relation
import Introspect.Syntax.Doc
import Introspect.Proofs.Text.Lines

/-! # Documentation at the left margin

How deep a comment was nested shows in the white space at the ends of its lines, and in nothing
else:

* `MarginEdit`, `Respaced` — white space put at the end of a line or in front of a later one, and
  all that such edits and their reversal lead to;
* `bareLines` — the lines of a text without white space at their ends;
* `reindentDoc_of_closed` — where the last line shows, the comment at the left margin is read off
  them;
* `reindentDoc_normal_form` — it is the one respaced comment that has no other margins.

An edit keeps `bareLines`, so everything else follows from what these lines are.
-/

namespace Introspect.Syntax

open Introspect.Text

/-! ## Edits of white space -/

/-- White space that breaks no line. -/
structure Margin (blanks : String) : Prop where
  blank : AllBlank blanks
  inLine : '\n' ∉ blanks.toList

/-- White space is added at the start of a line that is not the first or at the end of any line, or
a carriage return to a line end. -/
inductive MarginEdit : String → String → Prop where
  | indent (before after : String) {blanks : String} : Margin blanks →
      MarginEdit (before ++ "\n" ++ after) (before ++ "\n" ++ blanks ++ after)
  | trail (before after : String) {blanks : String} : Margin blanks →
      MarginEdit (before ++ "\n" ++ after) (before ++ blanks ++ "\n" ++ after)
  | trailLast (text : String) {blanks : String} : Margin blanks → MarginEdit text (text ++ blanks)
  | lineEnd (before after : String) :
      MarginEdit (before ++ "\n" ++ after) (before ++ "\r\n" ++ after)

/-- The texts differ by white space added or removed at the ends of their lines. -/
def Respaced : String → String → Prop := Relation.EqvGen MarginEdit

/-! ## Lines without white space at their ends -/

def bareLines (s : String) : List String := (split '\n' s).map trim

theorem bareLines_append (before after : String) :
    bareLines (before ++ "\n" ++ after) = bareLines before ++ bareLines after := by
  rw [bareLines, split_append rfl, List.map_append]
  rfl

theorem bareLines_margin_left {blanks : String} (margin : Margin blanks) (s : String) :
    bareLines (blanks ++ s) = bareLines s := by
  obtain ⟨first, rest, pieces, longer⟩ :=
    exists_split_append_left (c := '\n') (show "\n".toList = ['\n'] from rfl) margin.inLine s
  rw [bareLines, bareLines, pieces, longer, List.map_cons, List.map_cons,
    trim_append_left margin.blank]

theorem bareLines_margin_right {blanks : String} (margin : Margin blanks) (s : String) :
    bareLines (s ++ blanks) = bareLines s := by
  obtain ⟨before, last, pieces, longer⟩ :=
    exists_split_append_right (c := '\n') (show "\n".toList = ['\n'] from rfl) margin.inLine s
  rw [bareLines, bareLines, pieces, longer, List.map_append, List.map_append, List.map_singleton,
    List.map_singleton, trim_append_right margin.blank]

theorem MarginEdit.bareLines_eq {s t : String} (edit : MarginEdit s t) :
    bareLines s = bareLines t := by
  cases edit with
  | @indent before after blanks margin =>
    rw [bareLines_append]
    have apart : before ++ "\n" ++ blanks ++ after = before ++ "\n" ++ (blanks ++ after) :=
      String.append_assoc
    rw [apart, bareLines_append, bareLines_margin_left margin]
  | trail before after margin =>
    rw [bareLines_append, bareLines_append, bareLines_margin_right margin]
  | trailLast text margin => rw [bareLines_margin_right margin]
  | lineEnd before after =>
    have margin : Margin "\r" := ⟨by decide, by decide⟩
    have apart : before ++ "\r\n" ++ after = before ++ "\r" ++ "\n" ++ after := by
      have ending : "\r\n" = "\r" ++ "\n" := by decide
      rw [ending, ← String.append_assoc]
    rw [apart, bareLines_append, bareLines_append, bareLines_margin_right margin]

theorem Respaced.bareLines_eq {s t : String} (respaced : Respaced s t) :
    bareLines s = bareLines t := by
  induction respaced with
  | rel s t edit => exact edit.bareLines_eq
  | refl s => rfl
  | symm s t _ ih => exact ih.symm
  | trans s t u _ _ first second => exact first.trans second

/-! ## The comment at the left margin -/

/-- A later line behind its margin. -/
def starred (line : String) : String := if startsWith line "*" then " " ++ line else line

/-- Lines behind their margins, of which the first one has none. -/
def withMargins : List String → List String
  | [] => []
  | first :: rest => first :: rest.map starred

theorem reindentLine_eq (line : String) : reindentLine line = starred (trim line) := by
  unfold reindentLine starred
  rfl

theorem reindentDoc_eq (s : String) :
    reindentDoc s = joinWith "\n" (withMargins ((lines s).map trim)) := by
  unfold reindentDoc
  cases lines s with
  | nil => rfl
  | cons first rest =>
    have later : rest.map reindentLine = (rest.map trim).map starred := by
      rw [List.map_map]
      exact List.map_congr_left fun line _ => by rw [Function.comp_apply, reindentLine_eq]
    dsimp only
    rw [List.map_cons, withMargins, later]

/-- Something shows on the last line. -/
def Closed (s : String) : Prop := (bareLines s).getLast? ≠ some ""

theorem Closed.split {s : String} (closed : Closed s) : (split '\n' s).getLast? ≠ some "" := by
  intro empty
  rw [Closed, bareLines, List.getLast?_map, empty] at closed
  exact closed rfl

theorem reindentDoc_of_closed {s : String} (closed : Closed s) :
    reindentDoc s = joinWith "\n" (withMargins (bareLines s)) := by
  rw [reindentDoc_eq, map_trim_lines closed.split, bareLines]

theorem exists_bareLines (s : String) :
    ∃ first rest, bareLines s = first :: rest ∧ Trimmed first ∧ '\n' ∉ first.toList ∧
      ∀ line ∈ rest, Trimmed line ∧ '\n' ∉ line.toList := by
  have bare : ∀ line ∈ bareLines s, Trimmed line ∧ '\n' ∉ line.toList := by
    intro line member
    obtain ⟨piece, listed, rfl⟩ := List.mem_map.1 member
    exact ⟨trimmed_trim piece, fun feed => not_mem_of_mem_split listed (mem_of_mem_trim feed)⟩
  have nonempty : bareLines s ≠ [] := by simp [bareLines, split_ne_nil]
  obtain ⟨first, rest, eq⟩ := List.exists_cons_of_ne_nil nonempty
  rw [eq, List.forall_mem_cons] at bare
  exact ⟨first, rest, eq, bare.1.1, bare.1.2, bare.2⟩

section

variable {line : String} (trimmed : Trimmed line)
include trimmed

theorem trim_starred : trim (starred line) = line := by
  unfold starred
  split
  · have blank : AllBlank " " := by decide
    rw [trim_append_left blank, trim_of_trimmed trimmed]
  · exact trim_of_trimmed trimmed

/-- A later line behind its margin opens with the margin and a star, or with a character that shows
and is no star, or it is empty. -/
theorem starred_cases :
    startsWith (starred line) " *" = true ∨ starred line = "" ∨
      ∃ c rest, (starred line).toList = c :: rest ∧ isBlank c = false ∧ c ≠ '*' := by
  unfold starred
  split
  · rename_i star
    obtain ⟨rest, eq⟩ := startsWith_iff.1 star
    have opening : " " ++ "*" = " *" := by decide
    refine .inl (startsWith_iff.2 ⟨rest, ?_⟩)
    rw [eq, ← String.append_assoc, opening]
  · rename_i noStar
    cases chars : line.toList with
    | nil => exact .inr (.inl (String.toList_eq_nil_iff.1 chars))
    | cons c rest =>
      refine .inr (.inr ⟨c, rest, rfl, trimmed.first c (by rw [chars]; rfl), ?_⟩)
      rintro rfl
      refine noStar (startsWith_iff.2 ⟨String.ofList rest, ?_⟩)
      rw [← String.toList_inj, chars]
      simp

theorem getLast?_starred : ∀ c ∈ (starred line).toList.getLast?, isBlank c = false := by
  unfold starred
  split
  · rename_i star
    obtain ⟨rest, rfl⟩ := startsWith_iff.1 star
    intro c isLast
    apply trimmed.last c
    simpa [List.getLast?_append] using isLast
  · exact trimmed.last

end

theorem not_mem_starred {line : String} (inLine : '\n' ∉ line.toList) :
    '\n' ∉ (starred line).toList := by
  unfold starred
  split
  · rw [String.toList_append, List.mem_append, not_or]
    exact ⟨by decide, inLine⟩
  · exact inLine

/-! ## Lines of the result -/

section

variable {s : String} (closed : Closed s)
include closed

theorem split_reindentDoc : split '\n' (reindentDoc s) = withMargins (bareLines s) := by
  obtain ⟨first, rest, eq, -, inFirst, inRest⟩ := exists_bareLines s
  rw [reindentDoc_of_closed closed, eq, withMargins]
  refine split_joinWith rfl (List.cons_ne_nil _ _) ?_
  rw [List.forall_mem_cons, List.forall_mem_map]
  exact ⟨inFirst, fun line member => not_mem_starred (inRest line member).2⟩

/-- Only margins change. -/
theorem bareLines_reindentDoc : bareLines (reindentDoc s) = bareLines s := by
  obtain ⟨first, rest, eq, trimmed, -, inRest⟩ := exists_bareLines s
  have later : (rest.map starred).map trim = rest := by
    rw [List.map_map]
    conv => rhs; rw [← List.map_id rest]
    refine List.map_congr_left fun line member => ?_
    rw [Function.comp_apply, trim_starred (inRest line member).1, id]
  rw [bareLines, split_reindentDoc closed, eq, withMargins, List.map_cons, trim_of_trimmed trimmed,
    later]

theorem closed_reindentDoc : Closed (reindentDoc s) := by
  rw [Closed, bareLines_reindentDoc closed]
  exact closed

theorem reindentDoc_reindentDoc : reindentDoc (reindentDoc s) = reindentDoc s := by
  rw [reindentDoc_of_closed (closed_reindentDoc closed), bareLines_reindentDoc closed,
    ← reindentDoc_of_closed closed]

theorem reindentDoc_of_respaced {t : String} (respaced : Respaced s t) :
    reindentDoc t = reindentDoc s := by
  have same := respaced.bareLines_eq
  have closed' : Closed t := by
    rw [Closed, ← same]
    exact closed
  rw [reindentDoc_of_closed closed', reindentDoc_of_closed closed, same]

theorem length_lines : (lines s).length = (bareLines s).length := by
  rw [← List.length_map trim, map_trim_lines closed.split, bareLines]

/-- No line of the result has white space at its end. -/
theorem ends_reindentDoc : ∀ line ∈ split '\n' (reindentDoc s),
    ∀ c ∈ line.toList.getLast?, isBlank c = false := by
  obtain ⟨first, rest, eq, trimmed, -, inRest⟩ := exists_bareLines s
  rw [split_reindentDoc closed, eq, withMargins, List.forall_mem_cons, List.forall_mem_map]
  exact ⟨trimmed.last, fun line member => getLast?_starred (inRest line member).1⟩

theorem lines_reindentDoc : lines (reindentDoc s) = split '\n' (reindentDoc s) :=
  lines_eq_split (closed_reindentDoc closed).split (ends_reindentDoc closed)

end

/-! ## From a comment to the left margin by edits -/

theorem joinWith_line_append (front line : String) (rest : List String) :
    joinWith "\n" ((front ++ line) :: rest) = front ++ joinWith "\n" (line :: rest) :=
  String.intercalate_cons_append

theorem joinWith_two_lines (front line : String) (rest : List String) :
    joinWith "\n" (front :: line :: rest) = joinWith "\n" ((front ++ "\n" ++ line) :: rest) := by
  rw [joinWith_cons_cons, joinWith_line_append]

theorem marginEdit_trail (line : String) (rest : List String) {blanks : String}
    (margin : Margin blanks) :
    MarginEdit (joinWith "\n" (line :: rest)) (joinWith "\n" ((line ++ blanks) :: rest)) := by
  cases rest with
  | nil =>
    rw [joinWith_singleton, joinWith_singleton]
    exact .trailLast line margin
  | cons second rest =>
    rw [joinWith_cons_cons, joinWith_cons_cons]
    exact .trail line _ margin

theorem exists_margins {line : String} (inLine : '\n' ∉ line.toList) :
    ∃ before behind, line = before ++ trim line ++ behind ∧ Margin before ∧ Margin behind := by
  obtain ⟨before, behind, eq, blankBefore, blankBehind, -⟩ := exists_trim line
  rw [eq] at inLine
  simp only [String.toList_append, List.mem_append, not_or] at inLine
  exact ⟨before, behind, eq, ⟨blankBefore, inLine.1.1⟩, ⟨blankBehind, inLine.2⟩⟩

/-- A later line gets its white space back in two edits. -/
theorem respaced_line (front : String) (rest : List String) {line : String}
    (inLine : '\n' ∉ line.toList) :
    Respaced (joinWith "\n" ((front ++ "\n" ++ trim line) :: rest))
      (joinWith "\n" ((front ++ "\n" ++ line) :: rest)) := by
  obtain ⟨before, behind, eq, marginBefore, marginBehind⟩ := exists_margins inLine
  have indented : MarginEdit (joinWith "\n" ((front ++ "\n" ++ trim line) :: rest))
      (joinWith "\n" ((front ++ "\n" ++ before ++ trim line) :: rest)) := by
    rw [joinWith_line_append, joinWith_line_append]
    exact .indent front _ marginBefore
  have complete : front ++ "\n" ++ line = front ++ "\n" ++ before ++ trim line ++ behind := by
    conv => lhs; rw [eq]
    simp only [String.append_assoc]
  rw [complete]
  exact .trans _ _ _ (.rel _ _ indented) (.rel _ _ (marginEdit_trail _ rest marginBehind))

theorem respaced_lines (front : String) {xs ys : List String} (same : xs.map trim = ys.map trim)
    (inXs : ∀ x ∈ xs, '\n' ∉ x.toList) (inYs : ∀ y ∈ ys, '\n' ∉ y.toList) :
    Respaced (joinWith "\n" (front :: xs)) (joinWith "\n" (front :: ys)) := by
  induction xs generalizing front ys with
  | nil =>
    rw [List.map_nil, eq_comm, List.map_eq_nil_iff] at same
    rw [same]
    exact .refl _
  | cons x xs ih =>
    cases ys with
    | nil => cases same
    | cons y ys =>
      rw [List.map_cons, List.map_cons, List.cons.injEq] at same
      rw [List.forall_mem_cons] at inXs inYs
      rw [joinWith_two_lines, joinWith_two_lines front y]
      -- Both lines come from the same one without white space; the lines behind are still those of
      -- `xs`.
      have bare := respaced_line front xs inXs.1
      have changed := respaced_line front xs inYs.1
      rw [← same.1] at changed
      exact .trans _ _ _ (.symm _ _ bare) (.trans _ _ _ changed (ih _ same.2 inXs.2 inYs.2))

/-! ## Comments -/

/-- A documentation comment from its opening to its end. -/
structure IsDocComment (s : String) : Prop where
  opens : startsWith s "/**" = true
  closes : ∃ body, s = body ++ "*/"

theorem IsDocComment.closed {s : String} (doc : IsDocComment s) : Closed s := by
  obtain ⟨body, rfl⟩ := doc.closes
  obtain ⟨before, last, -, pieces⟩ :=
    exists_split_append_right (c := '\n') (show "\n".toList = ['\n'] from rfl)
      (show '\n' ∉ "*/".toList by decide) body
  have shows : trim (last ++ "*/") ≠ "" := trim_ne_empty (c := '/') (by simp) (by decide)
  simpa [Closed, bareLines, pieces] using shows

/-- The first line of a comment has white space at its end only. -/
theorem IsDocComment.exists_first {s : String} (doc : IsDocComment s) :
    ∃ first behind rest, split '\n' s = (trim first ++ behind) :: rest ∧ Margin behind ∧
      first = trim first ++ behind := by
  obtain ⟨text, rfl⟩ := startsWith_iff.1 doc.opens
  obtain ⟨first, rest, -, pieces⟩ :=
    exists_split_append_left (c := '\n') (show "\n".toList = ['\n'] from rfl)
      (show '\n' ∉ "/**".toList by decide) text
  have inLine : '\n' ∉ ("/**" ++ first).toList := not_mem_of_mem_split (pieces ▸ List.mem_cons_self)
  obtain ⟨before, behind, eq, marginBefore, marginBehind⟩ := exists_margins inLine
  have nothing : before = "" := by
    rw [← String.toList_eq_nil_iff]
    cases chars : before.toList with
    | nil => rfl
    | cons c more =>
      -- The text would start with white space instead of its opening.
      have starts := congrArg (fun s => s.toList.head?) eq
      have blank := marginBefore.blank c (by rw [chars]; exact List.mem_cons_self)
      have opening : some '/' = some c := by simpa [chars] using starts
      rw [← Option.some.inj opening] at blank
      exact absurd blank (by decide)
  rw [nothing, String.empty_append] at eq
  exact ⟨"/**" ++ first, behind, rest, by rw [pieces, ← eq], marginBehind, eq⟩

theorem respaced_reindentDoc {s : String} (doc : IsDocComment s) : Respaced s (reindentDoc s) := by
  obtain ⟨first, behind, rest, pieces, margin, eq⟩ := doc.exists_first
  have inLine : ∀ line ∈ rest, '\n' ∉ line.toList := fun line member =>
    not_mem_of_mem_split (pieces ▸ List.mem_cons_of_mem _ member)
  have whole : s = joinWith "\n" ((trim first ++ behind) :: rest) := by
    rw [← pieces]
    exact (joinWith_split rfl s).symm
  have result : reindentDoc s = joinWith "\n" (trim first :: (rest.map trim).map starred) := by
    rw [reindentDoc_of_closed doc.closed, bareLines, pieces, List.map_cons, withMargins, ← eq]
  have later : rest.map trim = ((rest.map trim).map starred).map trim := by
    rw [List.map_map, List.map_map]
    refine List.map_congr_left fun line _ => ?_
    rw [Function.comp_apply, Function.comp_apply, trim_starred (trimmed_trim line)]
  rw [result, whole]
  refine .trans _ _ _ (.symm _ _ (.rel _ _ (marginEdit_trail (trim first) rest margin)))
    (respaced_lines (trim first) later inLine ?_)
  rw [List.forall_mem_map, List.forall_mem_map]
  exact fun line member => not_mem_starred fun feed => inLine line member (mem_of_mem_trim feed)

/-- At the left margin a documentation comment has its normal form: to move it there again changes
nothing, it has as many lines as before, and any comment that differs from it by white space at the
ends of lines, or by carriage returns, is moved to the same text.  Nothing but such white space is
changed.  Every line but the first one opens with the margin and a star, or with a character that
shows and is no star, or is empty; and no line has white space at its end. -/
theorem reindentDoc_normal_form {s : String} (doc : IsDocComment s) :
    reindentDoc (reindentDoc s) = reindentDoc s ∧
    (lines (reindentDoc s)).length = (lines s).length ∧
    (∀ t, Respaced s t → reindentDoc t = reindentDoc s) ∧
    Respaced s (reindentDoc s) ∧
    lines (reindentDoc s) = split '\n' (reindentDoc s) ∧
    (∀ line ∈ (lines (reindentDoc s)).tail,
      startsWith line " *" = true ∨ line = "" ∨
        ∃ c rest, line.toList = c :: rest ∧ isBlank c = false ∧ c ≠ '*') ∧
    ∀ line ∈ lines (reindentDoc s), ∀ c ∈ line.toList.getLast?, isBlank c = false := by
  have closed := doc.closed
  refine ⟨reindentDoc_reindentDoc closed, ?_, fun t => reindentDoc_of_respaced closed,
    respaced_reindentDoc doc, lines_reindentDoc closed, ?_, ?_⟩
  · rw [length_lines (closed_reindentDoc closed), bareLines_reindentDoc closed, length_lines closed]
  · obtain ⟨first, rest, eq, -, -, inRest⟩ := exists_bareLines s
    rw [lines_reindentDoc closed, split_reindentDoc closed, eq, withMargins, List.tail_cons,
      List.forall_mem_map]
    exact fun line member => starred_cases (inRest line member).1
  · rw [lines_reindentDoc closed]
    exact ends_reindentDoc closed

/-- A comment as it stands in a class, with a line that has no star and an empty one. -/
def nestedDoc : String := "/**" ++ "\n" ++ "\t * One \n\n\ttwo.\n\t */"

/-- The same comment with another line end behind its opening. -/
theorem reindentDoc_nestedDoc :
    IsDocComment nestedDoc ∧
    Respaced nestedDoc ("/**" ++ "\r\n" ++ "\t * One \n\n\ttwo.\n\t */") ∧
    reindentDoc ("/**" ++ "\r\n" ++ "\t * One \n\n\ttwo.\n\t */") = "/**\n * One\n\ntwo.\n */" := by
  have doc : IsDocComment nestedDoc :=
    ⟨by decide, "/**" ++ "\n" ++ "\t * One \n\n\ttwo.\n\t ", by decide⟩
  have respaced : Respaced nestedDoc ("/**" ++ "\r\n" ++ "\t * One \n\n\ttwo.\n\t */") :=
    .rel _ _ (.lineEnd "/**" "\t * One \n\n\ttwo.\n\t */")
  obtain ⟨-, -, same, -⟩ := reindentDoc_normal_form doc
  exact ⟨doc, respaced, (same _ respaced).trans (by decide)⟩

end Introspect.Syntax
