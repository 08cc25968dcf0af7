import Introspect.Namespace
import Introspect.Proofs.Text.Split

/-! # Namespaces, written and read

What is read of texts with separators between them is read of each text in turn.  From this follow
the laws of namespaces:

* `Namespace.Plain`, `Namespace.plain_ofName` — the namespaces that can be read;
* `Namespace.ofName_name` — these are read again from their names;
* `Namespace.segments_ofName_qualify`, `Namespace.split_qualify` — the segments of a full name;
* `Namespace.resolve_rooted`, `Namespace.resolve_of_unrooted` — what a written name refers to.
-/

namespace Introspect

/-- A text that stands between separators: not empty, and without separators and white space. -/
def PlainSegment (s : String) : Prop :=
  s ≠ "" ∧ ∀ c ∈ s.toList, c ≠ Namespace.separator ∧ Text.isBlank c = false

instance (s : String) : Decidable (PlainSegment s) :=
  decidable_of_iff
    (s ≠ "" ∧ s.toList.all (fun c => c != Namespace.separator && !Text.isBlank c) = true)
    (by simp [PlainSegment])

attribute [ext] Namespace

namespace Namespace

theorem segments_ofName (name : String) :
    (ofName name).segments = (Text.split separator (Text.squeeze name)).filter (· != "") := by
  rw [ofName]

theorem toList_singleton_separator : (String.singleton separator).toList = [separator] := rfl

/-! ## Segments that are read -/

/-- The segments are such as can be read. -/
def Plain (n : Namespace) : Prop := ∀ s ∈ n.segments, PlainSegment s

theorem plain_global : global.Plain := List.forall_mem_nil _

theorem plain_ofName (name : String) : (ofName name).Plain := by
  intro s member
  rw [segments_ofName, List.mem_filter] at member
  obtain ⟨piece, nonempty⟩ := member
  refine ⟨by simpa using nonempty, fun c inPiece => ?_⟩
  obtain ⟨differs, inName⟩ := Text.ne_and_mem_of_mem_split piece c inPiece
  exact ⟨differs, Text.isBlank_of_mem_squeeze inName⟩

/-- A text in two parts with a separator between them has the segments of both. -/
theorem segments_ofName_append (front back : String) :
    (ofName (front ++ String.singleton separator ++ back)).segments =
      (ofName front).segments ++ (ofName back).segments := by
  have kept : Text.squeeze (String.singleton separator) = String.singleton separator := by
    decide +kernel
  simp only [segments_ofName, Text.squeeze_append, kept, List.filter_append,
    Text.split_append toList_singleton_separator]

theorem segments_ofName_joinWith (parts : List String) :
    (ofName (Text.joinWith (String.singleton separator) parts)).segments =
      parts.flatMap fun p => (ofName p).segments := by
  induction parts with
  | nil => rfl
  | cons first rest ih =>
    cases rest with
    | nil => simp
    | cons second rest =>
      rw [Text.joinWith_cons_cons, segments_ofName_append, ih]
      simp only [List.flatMap_cons]

theorem segments_ofName_of_plainSegment {s : String} (segment : PlainSegment s) :
    (ofName s).segments = [s] := by
  obtain ⟨nonempty, free⟩ := segment
  have whole : Text.split separator s = [s] :=
    Text.split_of_not_mem fun inside => (free separator inside).1 rfl
  rw [segments_ofName, Text.squeeze_of_free fun c member => (free c member).2, whole]
  simpa using nonempty

theorem flatMap_segments {parts : List String} (segments : ∀ s ∈ parts, PlainSegment s) :
    (parts.flatMap fun p => (ofName p).segments) = parts := by
  induction parts with
  | nil => rfl
  | cons first rest ih =>
    obtain ⟨isPlain, segments⟩ := List.forall_mem_cons.1 segments
    rw [List.flatMap_cons, segments_ofName_of_plainSegment isPlain, ih segments]
    rfl

/-! ## Names -/

/-- A full name is what a name would be that has one segment more. -/
theorem qualify_eq_joinWith (n : Namespace) (s : String) :
    n.qualify s = Text.joinWith (String.singleton separator) (n.segments ++ [s]) := by
  by_cases isGlobal : n.segments = []
  · simp [qualify, Namespace.isGlobal, isGlobal]
  · rw [Text.joinWith_append isGlobal (by simp), Text.joinWith_singleton]
    simp [qualify, Namespace.isGlobal, isGlobal, name]

theorem ofName_name {n : Namespace} (plain : n.Plain) : ofName n.name = n := by
  ext1
  rw [name, segments_ofName_joinWith, flatMap_segments plain]

theorem segments_ofName_qualify {n : Namespace} (plain : n.Plain) (s : String) :
    (ofName (n.qualify s)).segments = n.segments ++ (ofName s).segments := by
  rw [qualify_eq_joinWith, segments_ofName_joinWith, List.flatMap_append, flatMap_segments plain,
    List.flatMap_singleton]

theorem split_qualify {n : Namespace} (plain : n.Plain) {s : String} (segment : PlainSegment s) :
    Text.split separator (n.qualify s) = n.segments ++ [s] := by
  rw [qualify_eq_joinWith]
  -- No part holds a separator, so that the cut gives the parts back.
  refine Text.split_joinWith toList_singleton_separator (by simp) fun part member inside => ?_
  have isPlain : PlainSegment part := by
    rcases List.mem_append.1 member with inNamespace | last
    · exact plain part inNamespace
    · exact List.mem_singleton.1 last ▸ segment
  exact (isPlain.2 separator inside).1 rfl

/-! ## References -/

theorem resolve_rooted (n : Namespace) (s : String) :
    n.resolve (String.singleton separator ++ s) = s := by
  rw [resolve, Text.strip?_eq_some_iff.2 rfl, Option.getD_some]

theorem resolve_of_unrooted (n : Namespace) {s : String}
    (unrooted : ∀ rest, s ≠ String.singleton separator ++ rest) :
    n.resolve s = n.qualify s := by
  rw [resolve, Text.strip?_eq_none_iff.2 unrooted, Option.getD_none]

end Namespace

end Introspect
