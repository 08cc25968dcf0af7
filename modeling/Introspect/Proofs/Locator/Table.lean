import Mathlib.Data.List.Find
import Mathlib.Data.List.Induction
import Introspect.Locator.Table

/-! # What a table holds

* `NameTable.find?_insert` — one more text, seen from any name;
* `NameTable.find?_ofList` — of all texts filed under the spellings of a name, the last one counts.
-/

namespace Introspect.NameTable

theorem find?_insert (t : NameTable) (name text other : String) :
    (t.insert name text).find? other =
      if foldName name = foldName other then some text else t.find? other := by
  by_cases same : foldName name = foldName other
  · simp [insert, find?, same]
  · -- What the insertion takes out is filed under another name.
    have kept : (t.entries.filter fun e => e.1 != foldName name).find?
        (fun e => e.1 == foldName other) = t.entries.find? fun e => e.1 == foldName other := by
      rw [List.find?_filter]
      apply List.find?_congr
      intro e _
      by_cases matched : e.1 = foldName other
      · simp [matched, Ne.symm same]
      · simp [matched]
    simp [insert, find?, same, kept]

theorem ofList_append_singleton (entries : List (String × String)) (e : String × String) :
    ofList (entries ++ [e]) = (ofList entries).insert e.1 e.2 := by
  rw [ofList, List.foldl_append]
  rfl

theorem find?_ofList (entries : List (String × String)) (name : String) :
    (ofList entries).find? name =
      ((entries.filter fun e => foldName e.1 == foldName name).getLast?).map (·.2) := by
  induction entries using List.reverseRecOn with
  | nil => rfl
  | append_singleton entries e ih =>
    rw [ofList_append_singleton, find?_insert, ih, List.filter_append]
    by_cases same : foldName e.1 = foldName name
    · simp [same]
    · simp [same]

end Introspect.NameTable
