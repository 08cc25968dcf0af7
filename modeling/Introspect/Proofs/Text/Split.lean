import Introspect.Text.Basic

/-! # Texts in pieces

* `Text.strip?_eq_some_iff`, `Text.strip?_eq_none_iff`, `Text.startsWith_iff` — what follows a front,
  if there is one;
* `Text.mem_joinWith_iff` — where the characters of joined texts come from;
* `Text.joinWith_split`, `Text.split_joinWith` — to cut at a character undoes to join with it, as far
  as the pieces are free of it, and to join undoes to cut;
* `Text.split_append` — texts with that character between them are cut each on its own.
-/

namespace Introspect.Text

theorem stripChars_eq_some_iff {front s rest : List Char} :
    stripChars front s = some rest ↔ s = front ++ rest := by
  fun_induction stripChars front s with
  | case1 s => simp
  | case2 => simp
  | case3 c front d s same ih =>
    rw [ih, beq_iff_eq.1 same]
    simp
  | case4 c front d s other =>
    have differs : ¬d = c := fun same => other (beq_iff_eq.2 same.symm)
    simp [differs]

theorem strip?_eq_some_iff {front s rest : String} :
    strip? front s = some rest ↔ s = front ++ rest := by
  rw [strip?, Option.map_eq_some_iff]
  constructor
  · rintro ⟨chars, stripped, rfl⟩
    rw [← String.toList_inj, stripChars_eq_some_iff.1 stripped]
    simp
  · rintro rfl
    exact ⟨rest.toList, stripChars_eq_some_iff.2 (by simp), by simp⟩

theorem strip?_eq_none_iff {front s : String} : strip? front s = none ↔ ∀ rest, s ≠ front ++ rest := by
  simp [Option.eq_none_iff_forall_ne_some, strip?_eq_some_iff]

theorem startsWith_iff {s front : String} : startsWith s front = true ↔ ∃ rest, s = front ++ rest := by
  have isSome : startsWith s front = (strip? front s).isSome := by simp [strip?, startsWith]
  rw [isSome, Option.isSome_iff_exists]
  simp only [strip?_eq_some_iff]

theorem dropLeading_of_not_mem {c : Char} {s : String} (free : c ∉ s.toList) :
    dropLeading c s = s := by
  rw [dropLeading]
  cases chars : s.toList with
  | nil => rw [List.dropWhile_nil, ← chars, String.ofList_toList]
  | cons d rest =>
    have differs : ¬(d == c) = true := fun same => free (by simp [chars, beq_iff_eq.1 same])
    rw [List.dropWhile_cons, if_neg differs, ← chars, String.ofList_toList]

theorem splitChars_eq (c : Char) (cs : List Char) : splitChars c cs = cs.splitOn c := by
  induction cs with
  | nil => rfl
  | cons d rest ih =>
    rw [splitChars, ih, List.splitOn_cons_eq_if_modifyHead]
    obtain ⟨piece, more, eq⟩ := List.exists_cons_of_ne_nil (List.splitOn_ne_nil c rest)
    rw [eq]
    cases d == c <;> rfl

theorem ne_and_mem_of_mem_splitOn {c : Char} {cs piece : List Char}
    (member : piece ∈ cs.splitOn c) : ∀ d ∈ piece, d ≠ c ∧ d ∈ cs := by
  induction cs generalizing piece with
  | nil =>
    rw [List.mem_singleton.1 member]
    exact List.forall_mem_nil _
  | cons e rest ih =>
    rw [List.splitOn_cons_eq_if_modifyHead] at member
    split at member
    case isTrue =>
      rcases List.mem_cons.1 member with rfl | later
      · exact List.forall_mem_nil _
      · exact fun d inPiece => (ih later d inPiece).imp_right (List.mem_cons_of_mem e)
    case isFalse other =>
      obtain ⟨first, more, eq⟩ := List.exists_cons_of_ne_nil (List.splitOn_ne_nil c rest)
      rw [eq] at ih member
      rcases List.mem_cons.1 member with rfl | later
      · have differs : e ≠ c := fun same => other (beq_iff_eq.2 same)
        have inRest := ih List.mem_cons_self
        exact List.forall_mem_cons.2 ⟨⟨differs, List.mem_cons_self⟩, fun d inFirst =>
          (inRest d inFirst).imp_right (List.mem_cons_of_mem e)⟩
      · have inRest := ih (List.mem_cons_of_mem first later)
        exact fun d inPiece => (inRest d inPiece).imp_right (List.mem_cons_of_mem e)

/-- A piece is free of the character that was cut at, and holds nothing that was not there. -/
theorem ne_and_mem_of_mem_split {c : Char} {s piece : String} (member : piece ∈ split c s) :
    ∀ d ∈ piece.toList, d ≠ c ∧ d ∈ s.toList := by
  obtain ⟨chars, listed, rfl⟩ := List.mem_map.1 member
  rw [String.toList_ofList]
  exact ne_and_mem_of_mem_splitOn (splitChars_eq c s.toList ▸ listed)

theorem not_mem_of_mem_split {c : Char} {s piece : String} (member : piece ∈ split c s) :
    c ∉ piece.toList :=
  fun inPiece => (ne_and_mem_of_mem_split member c inPiece).1 rfl

theorem split_ne_nil (c : Char) (s : String) : split c s ≠ [] := by
  simp [split, splitChars_eq]

theorem split_of_not_mem {c : Char} {s : String} (free : c ∉ s.toList) : split c s = [s] := by
  rw [split, splitChars_eq, List.splitOn_eq_singleton free]
  simp

@[simp] theorem joinWith_singleton (gap part : String) : joinWith gap [part] = part :=
  String.intercalate_singleton

theorem joinWith_append {gap : String} {front back : List String} (inFront : front ≠ [])
    (inBack : back ≠ []) :
    joinWith gap (front ++ back) = joinWith gap front ++ gap ++ joinWith gap back :=
  String.intercalate_append_of_ne_nil inFront inBack

theorem joinWith_cons_cons (gap first second : String) (rest : List String) :
    joinWith gap (first :: second :: rest) = first ++ gap ++ joinWith gap (second :: rest) :=
  String.intercalate_cons_cons

theorem mem_joinWith_iff {c : Char} {gap : String} {parts : List String} :
    c ∈ (joinWith gap parts).toList ↔
      (∃ part ∈ parts, c ∈ part.toList) ∨ (c ∈ gap.toList ∧ 2 ≤ parts.length) := by
  induction parts with
  | nil => simp [joinWith]
  | cons first rest ih =>
    cases rest with
    | nil => simp
    | cons second rest =>
      rw [joinWith_cons_cons, String.toList_append, String.toList_append, List.mem_append,
        List.mem_append, ih]
      simp only [List.mem_cons, exists_eq_or_imp, List.length_cons]
      grind

theorem join_intercalate (gap : String) (parts : List (List String)) :
    String.join ([gap].intercalate parts) = joinWith gap (parts.map String.join) := by
  induction parts with
  | nil => rfl
  | cons first rest ih =>
    cases rest with
    | nil => simp [List.intercalate]
    | cons second rest =>
      rw [List.map_cons, List.map_cons, joinWith_cons_cons, ← List.map_cons, ← ih]
      simp [List.intercalate, String.join_append, String.append_assoc]

/-- White space between the parts does not show when it is squeezed out. -/
theorem squeeze_joinWith {gap : String} (blank : squeeze gap = "") (parts : List String) :
    squeeze (joinWith gap parts) = String.join (parts.map squeeze) := by
  induction parts with
  | nil => rfl
  | cons first rest ih =>
    cases rest with
    | nil => simp
    | cons second rest =>
      rw [joinWith_cons_cons, squeeze_append, squeeze_append, blank, ih]
      simp only [List.map_cons, String.join_cons, String.append_empty]

theorem exists_joinWith_concat_eq (gap : String) (before : List String) (last : String) :
    ∃ front, joinWith gap (before ++ [last]) = front ++ last := by
  cases before with
  | nil => exact ⟨"", by simp⟩
  | cons first rest =>
    exact ⟨_, by rw [joinWith_append (by simp) (by simp), joinWith_singleton]⟩

theorem joinWith_joinWith (gap : String) (before : List String) {parts : List String}
    (nonempty : parts ≠ []) :
    joinWith gap (before ++ [joinWith gap parts]) = joinWith gap (before ++ parts) := by
  by_cases alone : before = []
  · simp [alone]
  · rw [joinWith_append alone (by simp), joinWith_append alone nonempty, joinWith_singleton]

section

variable {c : Char} {gap : String} (single : gap.toList = [c])
include single

theorem joinWith_split (s : String) : joinWith gap (split c s) = s := by
  rw [← String.toList_inj, joinWith, String.toList_intercalate, single, split, splitChars_eq,
    List.map_map]
  simp [Function.comp_def, List.intercalate_splitOn]

theorem split_append (front back : String) :
    split c (front ++ gap ++ back) = split c front ++ split c back := by
  simp [split, splitChars_eq, single, List.splitOn_append_cons_self]

theorem split_joinWith {parts : List String} (nonempty : parts ≠ [])
    (free : ∀ part ∈ parts, c ∉ part.toList) : split c (joinWith gap parts) = parts := by
  have cut : ([c].intercalate (parts.map String.toList)).splitOn c = parts.map String.toList :=
    List.splitOn_intercalate c (by simpa using free) (by simpa using nonempty)
  rw [split, splitChars_eq, joinWith, String.toList_intercalate, single, cut, List.map_map]
  simp [Function.comp_def]

end

end Introspect.Text
