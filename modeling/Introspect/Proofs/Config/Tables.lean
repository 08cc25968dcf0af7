import Mathlib.Data.List.Nodup
import Introspect.Config.Basic
import Introspect.Proofs.Text.ByteOrder

/-! # Tables of a configuration

No key occurs twice in a table of a settings file, and a configuration keeps its tables sorted:

* `Value.Distinct`, `Line.Distinct`, `Item.Distinct` — tables in which no key occurs twice;
* `distinct_of_readItems?` — all tables that are read are such tables;
* `Config.Ascending` — the keys of the class map ascend in the order of their bytes;
* `Config.ascending_of_load`, `Config.ascending_of_loadFile` — they do so in every configuration.
-/

namespace Introspect

open Settings

/-- What every step keeps is kept by a run that ends. -/
theorem foldlM_keeps {α β : Type} {step : β → α → Option β} {P : β → Prop} {Q : α → Prop}
    (keeps : ∀ b a b', P b → Q a → step b a = some b' → P b') {b b' : β} (start : P b)
    {as : List α} (fit : ∀ a ∈ as, Q a) (run : as.foldlM step b = some b') : P b' := by
  induction as generalizing b with
  | nil =>
    cases run
    exact start
  | cons a rest ih =>
    rw [List.foldlM_cons] at run
    obtain ⟨next, stepped, run⟩ := Option.bind_eq_some_iff.1 run
    obtain ⟨first, others⟩ := List.forall_mem_cons.1 fit
    exact ih (keeps b a next start first stepped) others run

namespace Settings

/-- No key occurs twice. -/
def DistinctKeys (entries : List (String × α)) : Prop := (entries.map (·.1)).Nodup

def Value.Distinct : Value → Prop
  | .table entries => DistinctKeys entries
  | _ => True

def Line.Distinct : Line → Prop
  | .assign _ v => v.Distinct
  | .heading _ => True

def Item.Distinct : Item → Prop
  | .value v => v.Distinct
  | .table _ entries => DistinctKeys entries

/-! ## Values -/

/-- The entries of a table on one line, none of them under a key that is in use. -/
theorem distinctKeys_of_entries? {fuel : Nat} {used : List String} {cs rest : List Char}
    {es : List (String × Value)} (read : entries? fuel used cs = some (es, rest)) :
    DistinctKeys es ∧ ∀ e ∈ es, e.1 ∉ used := by
  induction fuel generalizing used cs es rest with
  | zero => simp [entries?] at read
  | succ fuel ih =>
    rw [entries?] at read
    obtain ⟨⟨k, afterKey⟩, -, read⟩ := Option.bind_eq_some_iff.1 read
    dsimp only at read
    split at read
    · split at read
      · simp at read
      · rename_i fresh
        obtain ⟨⟨v, afterValue⟩, -, read⟩ := Option.bind_eq_some_iff.1 read
        dsimp only at read
        split at read
        · obtain ⟨⟨more, afterMore⟩, readMore, read⟩ := Option.bind_eq_some_iff.1 read
          cases read
          obtain ⟨distinct, unused⟩ := ih readMore
          have new : k ∉ more.map (·.1) := by
            intro again
            obtain ⟨e, member, rfl⟩ := List.mem_map.1 again
            exact unused e member List.mem_cons_self
          refine ⟨List.nodup_cons.2 ⟨new, distinct⟩, List.forall_mem_cons.2 ⟨?_, fun e member => ?_⟩⟩
          · simpa using fresh
          · exact fun known => unused e member (List.mem_cons_of_mem k known)
        · cases read
          exact ⟨List.nodup_singleton k, by simpa using fresh⟩
        · cases read
    · cases read

theorem distinct_of_scalar? {cs rest : List Char} {v : Value} (read : scalar? cs = some (v, rest)) :
    v.Distinct := by
  simp only [scalar?] at read
  split at read
  · cases read; trivial
  · cases read; trivial
  · obtain ⟨n, -, same⟩ := Option.map_eq_some_iff.1 read
    cases same; trivial

theorem distinct_of_value? {fuel : Nat} {cs rest : List Char} {v : Value}
    (read : value? fuel cs = some (v, rest)) : v.Distinct := by
  cases fuel with
  | zero => simp [value?] at read
  | succ fuel =>
    unfold value? at read
    split at read
    · obtain ⟨⟨items, after⟩, -, same⟩ := Option.bind_eq_some_iff.1 read
      cases same
      trivial
    · split at read
      · cases read
        exact List.nodup_nil
      · obtain ⟨⟨entries, after⟩, readEntries, same⟩ := Option.bind_eq_some_iff.1 read
        cases same
        exact (distinctKeys_of_entries? readEntries).1
    · obtain ⟨text, -, same⟩ := Option.map_eq_some_iff.1 read
      cases same
      trivial
    · obtain ⟨text, -, same⟩ := Option.map_eq_some_iff.1 read
      cases same
      trivial
    · exact distinct_of_scalar? read

/-! ## Lines -/

theorem distinct_of_line? {cs rest : List Char} {line : Line}
    (read : line? cs = some (some line, rest)) : line.Distinct := by
  unfold line? at read
  split at read
  · cases read
  · obtain ⟨_, -, same⟩ := Option.map_eq_some_iff.1 read
    cases same
  · cases read
  · cases read
  · obtain ⟨⟨k, afterKey⟩, -, read⟩ := Option.bind_eq_some_iff.1 read
    dsimp only at read
    split at read
    · obtain ⟨_, -, same⟩ := Option.bind_eq_some_iff.1 read
      cases same
      trivial
    · cases read
  · obtain ⟨⟨ks, afterKeys⟩, -, read⟩ := Option.bind_eq_some_iff.1 read
    dsimp only at read
    split at read
    · obtain ⟨⟨v, afterValue⟩, readValue, read⟩ := Option.bind_eq_some_iff.1 read
      obtain ⟨_, -, same⟩ := Option.bind_eq_some_iff.1 read
      cases same
      exact distinct_of_value? readValue
    · cases read

theorem distinct_of_linesFrom? {fuel : Nat} {cs : List Char} {ls : List Line}
    (read : linesFrom? fuel cs = some ls) : ∀ l ∈ ls, l.Distinct := by
  induction fuel generalizing cs ls with
  | zero => simp [linesFrom?] at read
  | succ fuel ih =>
    cases cs with
    | nil =>
      cases read
      exact List.forall_mem_nil _
    | cons c cs =>
      rw [linesFrom?] at read
      · obtain ⟨⟨line, rest⟩, readLine, read⟩ := Option.bind_eq_some_iff.1 read
        obtain ⟨more, readMore, same⟩ := Option.bind_eq_some_iff.1 read
        cases same
        refine List.forall_mem_append.2 ⟨fun l member => ?_, ih readMore⟩
        rw [Option.mem_toList] at member
        exact distinct_of_line? (member ▸ readLine)
      · simp

/-! ## Items -/

namespace Progress

/-- No table that was read so far holds a key twice. -/
def Distinct (p : Progress) : Prop := ∀ e ∈ p.items, e.2.Distinct

theorem Distinct.put {p : Progress} (distinct : p.Distinct) (k : String) {i : Item}
    (new : i.Distinct) : (p.put k i).Distinct :=
  List.forall_mem_cons.2 ⟨new, fun e member => distinct e (List.mem_of_mem_filter member)⟩

theorem Distinct.find? {p : Progress} (distinct : p.Distinct) {k : String} {i : Item}
    (found : p.find? k = some i) : i.Distinct := by
  obtain ⟨e, first, rfl⟩ := Option.map_eq_some_iff.1 found
  exact distinct e (List.mem_of_find?_eq_some first)

theorem Distinct.addEntry {p p' : Progress} (distinct : p.Distinct) {k : String} {headed : Bool}
    {entries : List (String × Value)} {e : String × Value} (keys : DistinctKeys entries)
    (added : p.addEntry k headed entries e = some p') : p'.Distinct := by
  unfold Progress.addEntry at added
  split at added
  · cases added
  · rename_i new
    cases added
    refine distinct.put k (List.nodup_cons.2 ⟨fun again => new ?_, keys⟩)
    obtain ⟨f, member, same⟩ := List.mem_map.1 again
    exact List.any_eq_true.2 ⟨f, member, beq_iff_eq.2 same⟩

/-- A line leaves the keys of all tables distinct. -/
theorem Distinct.take? {p p' : Progress} (distinct : p.Distinct) {l : Line} (valued : l.Distinct)
    (taken : p.take? l = some p') : p'.Distinct := by
  cases l with
  | heading k =>
    simp only [Progress.take?] at taken
    split at taken
    · cases taken
    · cases taken
      exact distinct.put k List.nodup_nil
  | assign ks v =>
    simp only [Progress.take?] at taken
    split at taken
    · split at taken
      · cases taken
      · cases taken
        exact distinct.put _ valued
    · split at taken
      · cases taken
        exact distinct.put _ (List.nodup_singleton _)
      · rename_i found
        exact distinct.addEntry (distinct.find? found) taken
      · cases taken
    · split at taken
      · rename_i found
        exact distinct.addEntry (distinct.find? found) taken
      · cases taken
    · cases taken

end Progress

theorem distinct_of_readItems? {text : String} {items : List (String × Item)}
    (read : readItems? text = some items) : ∀ e ∈ items, e.2.Distinct := by
  obtain ⟨ls, readLines, read⟩ := Option.bind_eq_some_iff.1 read
  obtain ⟨p, run, same⟩ := Option.bind_eq_some_iff.1 read
  cases same
  have start : ({} : Progress).Distinct := List.forall_mem_nil _
  exact foldlM_keeps (fun p l p' distinct valued => distinct.take? valued) start
    (distinct_of_linesFrom? readLines) run

end Settings

/-! ## Configurations -/

namespace Config

/-- The keys of the class map ascend in the order of their bytes. -/
def Ascending (c : Config) : Prop :=
  c.classMap.Pairwise fun a b => Text.bytes a.1 < Text.bytes b.1

instance (c : Config) : Decidable c.Ascending :=
  inferInstanceAs (Decidable (c.classMap.Pairwise fun a b => Text.bytes a.1 < Text.bytes b.1))

theorem keys_textEntries? {entries : List (String × Value)} {es : List (String × String)}
    (read : textEntries? entries = some es) : es.map (·.1) = entries.map (·.1) := by
  induction entries generalizing es with
  | nil =>
    cases read
    rfl
  | cons e rest ih =>
    rw [textEntries?, List.mapM_cons] at read
    obtain ⟨first, readFirst, read⟩ := Option.bind_eq_some_iff.1 read
    obtain ⟨more, readMore, same⟩ := Option.bind_eq_some_iff.1 read
    obtain ⟨s, -, rfl⟩ := Option.map_eq_some_iff.1 readFirst
    cases same
    rw [List.map_cons, List.map_cons, ih readMore]

theorem ascending_mergeSort {es : List (String × String)} (distinct : DistinctKeys es) :
    (es.mergeSort fun a b => decide (a.1 ≤ b.1)).Pairwise
      fun a b => Text.bytes a.1 < Text.bytes b.1 := by
  have sorted : (es.mergeSort fun a b => decide (a.1 ≤ b.1)).Pairwise
      fun a b => decide (a.1 ≤ b.1) = true := by
    apply List.pairwise_mergeSort
    · intro a b c below above
      exact decide_eq_true (le_trans (of_decide_eq_true below) (of_decide_eq_true above))
    · intro a b
      rw [Bool.or_eq_true, decide_eq_true_eq, decide_eq_true_eq]
      exact le_total a.1 b.1
  have apart : (es.mergeSort fun a b => decide (a.1 ≤ b.1)).Pairwise fun a b => a.1 ≠ b.1 := by
    rw [← List.pairwise_map]
    exact ((List.mergeSort_perm es _).map _).nodup_iff.2 distinct
  refine (sorted.and apart).imp fun {a b} ⟨atMost, differ⟩ => ?_
  exact Text.lt_iff_bytes_lt.1 (lt_of_le_of_ne (of_decide_eq_true atMost) differ)

theorem ascending_of_textTable? {i : Item} (distinct : i.Distinct) {es : List (String × String)}
    (read : textTable? i = some es) :
    es.Pairwise fun a b => Text.bytes a.1 < Text.bytes b.1 := by
  obtain ⟨texts, readTexts, rfl⟩ := Option.map_eq_some_iff.1 read
  obtain ⟨entries, isTable, readEntries⟩ := Option.bind_eq_some_iff.1 readTexts
  have keys : DistinctKeys entries := by
    split at isTable
    · cases isTable
      exact distinct
    · cases isTable
      exact distinct
    · cases isTable
  apply ascending_mergeSort
  rwa [DistinctKeys, keys_textEntries? readEntries]

/-- A setting leaves the class map as it is or puts a sorted one in its place. -/
theorem Ascending.set? {c c' : Config} (ascending : c.Ascending) {name : String} {i : Item}
    (distinct : i.Distinct) (set : c.set? name i = some c') : c'.Ascending := by
  unfold Config.set? at set
  split at set
  · obtain ⟨es, read, rfl⟩ := Option.map_eq_some_iff.1 set
    exact ascending_of_textTable? distinct read
  · obtain ⟨es, -, rfl⟩ := Option.map_eq_some_iff.1 set
    exact ascending
  · obtain ⟨paths, -, rfl⟩ := Option.map_eq_some_iff.1 set
    exact ascending
  · split at set
    · cases set
      exact ascending
    · cases set
  · cases set
    exact ascending
  · cases set

theorem ascending_of_ofText? {root text : String} {c : Config} (read : ofText? root text = some c) :
    c.Ascending := by
  obtain ⟨items, readItems, run⟩ := Option.bind_eq_some_iff.1 read
  have start : ({ root } : Config).Ascending := .nil
  exact foldlM_keeps (fun c e c' ascending distinct => ascending.set? distinct) start
    (distinct_of_readItems? readItems) run

theorem ascending_of_ofText {root text : String} {c : Config} (read : ofText root text = .ok c) :
    c.Ascending := by
  unfold ofText at read
  split at read
  · rename_i read?
    cases read
    exact ascending_of_ofText? read?
  · cases read

/-- The keys of a configuration ascend, whether it was read or there was no file to read. -/
theorem ascending_of_load {files : FileTree} {root : String} {c : Config}
    (loaded : load files root = .ok c) : c.Ascending := by
  simp only [load] at loaded
  split at loaded
  · exact ascending_of_ofText loaded
  · cases loaded
    exact .nil
  · cases loaded

theorem ascending_of_loadFile {files : FileTree} {path : String} {c : Config}
    (loaded : loadFile files path = .ok c) : c.Ascending := by
  simp only [loadFile] at loaded
  split at loaded
  · exact ascending_of_ofText loaded
  · cases loaded
  · cases loaded

end Config

end Introspect
