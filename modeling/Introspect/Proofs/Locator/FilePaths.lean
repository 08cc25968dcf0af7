import Mathlib.Data.List.TakeWhile
import Introspect.Locator.Autoload
import Introspect.Proofs.Text.Split

/-! # Files of class names

What is left of a class name under its namespace becomes a path, segment by segment:

* `IsSegment` — a segment that can stand in a path as it is;
* `Path.exists_join_eq` — a path under a directory, as pieces with slashes between them;
* `Path.foldl_join`, `Path.withExtension_joinWith` — more directories, and an extension;
* `Autoload.filePath_segments` — segments become directories, and the last one a file.
-/

namespace Introspect

/-- The segment is not empty, and no character in it means anything in a path or a name. -/
structure IsSegment (s : String) : Prop where
  nonempty : s ≠ ""
  noSlash : '/' ∉ s.toList
  noPoint : '.' ∉ s.toList
  noSeparator : '\\' ∉ s.toList

instance (s : String) : Decidable (IsSegment s) :=
  decidable_of_iff (s ≠ "" ∧ '/' ∉ s.toList ∧ '.' ∉ s.toList ∧ '\\' ∉ s.toList)
    ⟨fun ⟨a, b, c, d⟩ => ⟨a, b, c, d⟩, fun ⟨a, b, c, d⟩ => ⟨a, b, c, d⟩⟩

namespace Path

theorem isAbsolute_eq (path : String) : isAbsolute path = (path.toList.head? == some '/') := by
  unfold isAbsolute Text.startsWith
  cases path.toList with
  | nil => rfl
  | cons c rest =>
    by_cases slash : c = '/'
    · simp [Text.stripChars, slash]
    · simp [Text.stripChars, slash, Ne.symm slash]

/-- A path that begins with a segment is relative. -/
theorem isAbsolute_append {s : String} (segment : IsSegment s) (rest : String) :
    isAbsolute (s ++ rest) = false := by
  rw [isAbsolute_eq, String.toList_append]
  cases chars : s.toList with
  | nil => exact absurd (String.toList_eq_nil_iff.1 chars) segment.nonempty
  | cons c more =>
    have other : c ≠ '/' := by
      rintro rfl
      exact segment.noSlash (chars ▸ List.mem_cons_self)
    simpa using other

theorem isAbsolute_joinWith {s : String} (segment : IsSegment s) (more : List String) :
    isAbsolute (Text.joinWith "/" (s :: more)) = false := by
  cases more with
  | nil => simpa using isAbsolute_append segment ""
  | cons next more =>
    rw [← List.singleton_append, Text.joinWith_append (by simp) (by simp), String.append_assoc,
      Text.joinWith_singleton]
    exact isAbsolute_append segment _

/-- What joins a path to another depends on the first one alone. -/
theorem exists_join_eq (a : String) :
    ∃ before : List String, (∀ piece ∈ before, '/' ∉ piece.toList) ∧
      ∀ b, isAbsolute b = false → join a b = Text.joinWith "/" (before ++ [b]) := by
  have pieced (front b : String) :
      Text.joinWith "/" (Text.split '/' front ++ [b]) = front ++ "/" ++ b := by
    have slash : "/".toList = ['/'] := rfl
    rw [Text.joinWith_append (Text.split_ne_nil '/' front) (by simp), Text.joinWith_split slash,
      Text.joinWith_singleton]
  by_cases empty : a = ""
  · refine ⟨[], by simp, fun b relative => ?_⟩
    simp [join, relative, empty]
  by_cases closed : a.toList.getLast? = some '/'
  · obtain ⟨front, eq⟩ := List.getLast?_eq_some_iff.1 closed
    refine ⟨Text.split '/' (String.ofList front), fun _ => Text.not_mem_of_mem_split, ?_⟩
    intro b relative
    have whole : a = String.ofList front ++ "/" := by
      rw [← String.toList_inj, eq]
      simp
    rw [pieced, ← whole]
    simp [join, relative, closed]
  · refine ⟨Text.split '/' a, fun _ => Text.not_mem_of_mem_split, fun b relative => ?_⟩
    simp [join, relative, empty, closed, pieced]

/-- Behind a segment, a path needs a slash. -/
theorem join_joinWith (before : List String) {s t : String} (segment : IsSegment s)
    (next : IsSegment t) :
    join (Text.joinWith "/" (before ++ [s])) t = Text.joinWith "/" (before ++ [s] ++ [t]) := by
  obtain ⟨front, eq⟩ := Text.exists_joinWith_concat_eq "/" before s
  have relative : isAbsolute t = false := by simpa using isAbsolute_append next ""
  have ending : s.toList.getLast? ≠ some '/' := fun slash =>
    segment.noSlash (List.mem_of_getLast? slash)
  rw [Text.joinWith_append (List.append_ne_nil_of_right_ne_nil before (by simp)) (by simp),
    Text.joinWith_singleton, eq, join, relative]
  simp [segment.nonempty, ending]

theorem foldl_join (before : List String) {s : String} (segment : IsSegment s)
    {segments : List String} (all : ∀ t ∈ segments, IsSegment t) :
    segments.foldl join (Text.joinWith "/" (before ++ [s])) =
      Text.joinWith "/" (before ++ s :: segments) := by
  induction segments generalizing before s with
  | nil => rfl
  | cons t segments ih =>
    obtain ⟨next, others⟩ := List.forall_mem_cons.1 all
    have deeper := ih (before ++ [s]) next others
    rw [List.foldl_cons, join_joinWith before segment next, deeper, List.append_assoc]
    rfl

theorem stem_of_noPoint {fileName : String} (noPoint : '.' ∉ fileName.toList) :
    stem fileName = fileName := by
  have dropped : fileName.toList.reverse.dropWhile (· != '.') = [] := by
    rw [List.dropWhile_eq_nil_iff]
    intro c member
    have other : c ≠ '.' := by
      rintro rfl
      exact noPoint (List.mem_reverse.1 member)
    simpa using other
  rw [stem, dropped]

theorem withExtension_joinWith (extension : String) {before : List String}
    (pieces : ∀ piece ∈ before, '/' ∉ piece.toList) {s : String} (segment : IsSegment s) :
    withExtension extension (Text.joinWith "/" (before ++ [s])) =
      Text.joinWith "/" (before ++ [s ++ "." ++ extension]) := by
  have noSlash : ∀ piece ∈ before ++ [s], '/' ∉ piece.toList := by
    simpa [or_imp, forall_and, segment.noSlash] using pieces
  have notPoint : s ≠ "." := fun eq => segment.noPoint (by simp [eq])
  have notUp : s ≠ ".." := fun eq => segment.noPoint (by simp [eq])
  have named : namedPieces (Text.joinWith "/" (before ++ [s])) = s :: before.reverse := by
    have slash : "/".toList = ['/'] := rfl
    rw [namedPieces, Path.pieces, Text.split_joinWith slash (by simp) noSlash]
    simp [isIdle, segment.nonempty, notPoint]
  simp [withExtension, named, notUp, stem_of_noPoint segment.noPoint, ofPieces]

end Path

/-- Segments become directories, and the last one becomes a file. -/
theorem Autoload.filePath_segments (directory : String) {front : List String} {last : String}
    (all : ∀ s ∈ front ++ [last], IsSegment s) :
    filePath directory (Text.joinWith "\\" (front ++ [last])) =
      Path.join directory (Text.joinWith "/" (front ++ [last ++ ".php"])) := by
  obtain ⟨before, pieces, joined⟩ := Path.exists_join_eq directory
  have separator : "\\".toList = ['\\'] := rfl
  have cut : Text.split '\\' (Text.joinWith "\\" (front ++ [last])) = front ++ [last] :=
    Text.split_joinWith separator (by simp) fun s member => (all s member).noSeparator
  obtain ⟨inFront, atEnd⟩ := List.forall_mem_append.1 all
  have segment : IsSegment last := atEnd last (by simp)
  have relative : Path.isAbsolute (Text.joinWith "/" (front ++ [last ++ ".php"])) = false := by
    cases front with
    | nil => simpa using Path.isAbsolute_append segment ".php"
    | cons first rest => exact Path.isAbsolute_joinWith (inFront first (by simp)) _
  have walked : (front ++ [last]).foldl Path.join directory =
      Text.joinWith "/" (before ++ (front ++ [last])) := by
    obtain ⟨first, rest, eq⟩ := List.exists_cons_of_ne_nil (List.concat_ne_nil last front)
    rw [eq] at all ⊢
    obtain ⟨begins, others⟩ := List.forall_mem_cons.1 all
    have under := joined first (by simpa using Path.isAbsolute_joinWith begins [])
    rw [List.foldl_cons, under, Path.foldl_join before begins others]
  have noSlash : ∀ piece ∈ before ++ front, '/' ∉ piece.toList :=
    List.forall_mem_append.2 ⟨pieces, fun s member => (inFront s member).noSlash⟩
  rw [filePath, cut, walked, ← List.append_assoc, Path.withExtension_joinWith "php" noSlash segment,
    joined _ relative, Text.joinWith_joinWith "/" before (by simp), List.append_assoc,
    String.append_assoc]
  rfl

end Introspect
