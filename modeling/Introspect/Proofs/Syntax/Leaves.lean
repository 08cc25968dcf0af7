import Mathlib.Data.String.Basic
import Introspect.Proofs.Syntax.Copy
import Introspect.Proofs.Syntax.Preorder

/-! # Leaves of copies

What the leaves of a copied tree hold, and that nothing else holds a text:

* `Covers` — the part of a text between two byte offsets;
* `slice_cases` — a slice is that part, or empty where there is none;
* `TextAtLeaves` — a text stands at the leaves of a node and nowhere else;
* `ofTree_eq_recursive_copy` — the walk over a tree gives its recursive copy, spelled out node by
  node.
-/

namespace Introspect

/-! ## Slices -/

namespace Text

/-- The text `part` is what stands in `s` from the byte `start` up to the byte `stop`. -/
def Covers (s : String) (start stop : Nat) (part : String) : Prop :=
  ∃ before after, s = before ++ part ++ after ∧ before.utf8ByteSize = start ∧
    start + part.utf8ByteSize = stop

theorem isValid_of_append (before after : String) :
    (⟨before.utf8ByteSize⟩ : String.Pos.Raw).isValid (before ++ after) = true := by
  rw [String.Pos.Raw.isValid_eq_true_iff, String.Pos.Raw.isValid_iff_exists_append]
  exact ⟨before, after, rfl, rfl⟩

theorem slice_of_covers {s part : String} {start stop : Nat} (h : Covers s start stop part) :
    slice s start stop = part := by
  obtain ⟨before, after, rfl, rfl, rfl⟩ := h
  have startsRight : (⟨before.utf8ByteSize⟩ : String.Pos.Raw).isValid (before ++ part ++ after) =
      true := by
    rw [String.append_assoc]
    exact isValid_of_append before (part ++ after)
  have stopsRight : (⟨before.utf8ByteSize + part.utf8ByteSize⟩ : String.Pos.Raw).isValid
      (before ++ part ++ after) = true := by
    rw [← String.utf8ByteSize_append]
    exact isValid_of_append (before ++ part) after
  have extracted := String.extract_of_valid before.toList part.toList after.toList
  simp only [String.ofList_append, String.ofList_toList, String.utf8Len_toList] at extracted
  simp [slice, startsRight, stopsRight, extracted]

/-- Between two offsets that lie between characters there is a part of the text. -/
theorem exists_covers {s : String} {start stop : Nat}
    (starts : (⟨start⟩ : String.Pos.Raw).isValid s = true)
    (stops : (⟨stop⟩ : String.Pos.Raw).isValid s = true) (ordered : start ≤ stop) :
    ∃ part, Covers s start stop part := by
  rw [String.Pos.Raw.isValid_eq_true_iff] at starts stops
  obtain ⟨front, after, rfl, atStop⟩ := String.Pos.Raw.isValid_iff_exists_append.1 stops
  have stopSize : stop = front.utf8ByteSize := congrArg String.Pos.Raw.byteIdx atStop
  rcases String.Pos.Raw.isValid_append.1 starts with inFront | ⟨behind, -⟩
  · obtain ⟨before, part, rfl, atStart⟩ := String.Pos.Raw.isValid_iff_exists_append.1 inFront
    have startSize : start = before.utf8ByteSize := congrArg String.Pos.Raw.byteIdx atStart
    refine ⟨part, before, after, rfl, startSize.symm, ?_⟩
    rw [stopSize, startSize, String.utf8ByteSize_append]
  · -- Both offsets are the same, and nothing lies between them.
    have sizeLe : front.utf8ByteSize ≤ start := behind
    refine ⟨"", front, after, by simp, by omega, by simp; omega⟩

/-- A slice is the part of the text between the offsets, and empty where there is none. -/
theorem slice_cases (s : String) (start stop : Nat) :
    Covers s start stop (slice s start stop) ∨
      slice s start stop = "" ∧ ∀ part, ¬ Covers s start stop part := by
  by_cases covered : ∃ part, Covers s start stop part
  · obtain ⟨part, covers⟩ := covered
    exact .inl (slice_of_covers covers ▸ covers)
  · refine .inr ⟨?_, fun part covers => covered ⟨part, covers⟩⟩
    simp only [slice]
    split
    · rename_i valid
      simp only [Bool.and_eq_true, decide_eq_true_eq] at valid
      exact absurd (exists_covers valid.1.1 valid.1.2 valid.2) covered
    · rfl

end Text

/-! ## Texts of nodes -/

namespace Syntax.Node

/-- At the node and beneath it, a text stands exactly where there are no children. -/
def TextAtLeaves (n : Node) : Prop :=
  ∀ m ∈ n.preorder, (m.leafText.isSome = true ↔ m.children = [])

theorem textAtLeaves_iff (n : Node) :
    n.TextAtLeaves ↔
      (n.leafText.isSome = true ↔ n.children = []) ∧ ∀ c ∈ n.children, c.TextAtLeaves :=
  forall_mem_preorder

mutual

theorem textAtLeaves_copy (source : String) (field : Option String) :
    ∀ t, (copy source field t).TextAtLeaves
  | .node kind named own extent children => by
    rw [textAtLeaves_iff, copy]
    split
    · simp
    · rename_i inner
      simp only [leafText_mk, children_mk, Option.isSome_none, Bool.false_eq_true, false_iff]
      refine ⟨?_, textAtLeaves_copyAll source children⟩
      -- A node that is no leaf has a child, and so has its copy.
      cases children with
      | nil => simp at inner
      | cons t ts => simp [copyAll]

theorem textAtLeaves_copyAll (source : String) :
    ∀ ts, ∀ c ∈ copyAll source ts, c.TextAtLeaves
  | [] => by simp [copyAll]
  | t :: ts => by
    rw [copyAll, List.forall_mem_cons]
    exact ⟨textAtLeaves_copy source t.field t, textAtLeaves_copyAll source ts⟩

end

/-! ## The copy, node by node -/

/-- The walk of the cursor over a tree gives its recursive copy.  The node at which the walk starts
is in no field, and every other one keeps its field; kind, mark as a named node and span are kept,
with lines counted from one.  A node without children or of an atomic kind becomes a leaf with the
text of its byte range, which is empty if the range is no part of the source; any other node has no
text and the copies of all its children in order.  So a text stands exactly where there are no
children. -/
theorem ofTree_eq_recursive_copy (source : String) (t : ParseTree) :
    ofTree source t = copy source none t ∧
    (∀ field kind named own extent children,
      copy source field (.node kind named own extent children) =
        if children = [] ∨ kind ∈ atomicKinds then
          mk kind named field (some ⟨extent.startByte, extent.endByte, extent.startRow + 1,
            extent.endRow + 1⟩) (some (Text.slice source extent.startByte extent.endByte)) []
        else
          mk kind named field (some ⟨extent.startByte, extent.endByte, extent.startRow + 1,
            extent.endRow + 1⟩) none (children.map fun c => copy source c.field c)) ∧
    (∀ start stop, Text.Covers source start stop (Text.slice source start stop) ∨
      Text.slice source start stop = "" ∧ ∀ part, ¬ Text.Covers source start stop part) ∧
    ∀ n ∈ (ofTree source t).preorder, (n.leafText.isSome = true ↔ n.children = []) := by
  refine ⟨ofTree_eq_copy source t, ?_, Text.slice_cases source, ?_⟩
  · intro field kind named own extent children
    rw [copy, copyAll_eq_map]
    simp only [Bool.or_eq_true, List.isEmpty_iff, List.contains_iff_mem]
    rfl
  · rw [ofTree_eq_copy]
    exact textAtLeaves_copy source none t

end Syntax.Node

end Introspect
