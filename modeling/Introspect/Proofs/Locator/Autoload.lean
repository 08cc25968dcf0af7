import Mathlib.Data.List.Induction
import Introspect.Proofs.Locator.FilePaths

/-! # The directory that counts

Directories by namespace are kept in an order that is restored with every addition.  The answer to a
lookup can be told without that order:

* `Autoload.place_eq`, `Autoload.directories_insert` — where one more entry goes, and that a stable
  sort puts it there too;
* `Autoload.descending_ofList`, `Autoload.filter_directories` — the order after any additions: longer
  namespaces first, and within one namespace as they were added;
* `Autoload.Serves`, `Autoload.under` — the file that an entry gives for a class, and the entries of
  one namespace;
* `Autoload.findFile?_by_longest_namespace` — of the namespaces that have a file for a class, the
  longest one counts, and of its directories, the first one that has the file.
-/

namespace Introspect.Autoload

/-! ## Entries in order -/

/-- No entry comes behind one with a shorter namespace. -/
def Descending (entries : List (String × String)) : Prop :=
  entries.Pairwise fun e f => f.1.utf8ByteSize ≤ e.1.utf8ByteSize

def filed (e : String × String) : String × String := (normalize e.1, e.2)

/-- The entries of a namespace, in the order in which they were added. -/
def under (entries : List (String × String)) (front : String) : List (String × String) :=
  entries.filter fun e => normalize e.1 == front

/-- A namespace as it is filed: no separator in front, and one at its end unless it is empty. -/
def IsFront (front : String) : Prop :=
  front.toList.head? ≠ some '\\' ∧ (front = "" ∨ front.toList.getLast? = some '\\')

theorem isFront_normalize (front : String) : IsFront (normalize front) := by
  have bare : (unrooted front).toList.head? ≠ some '\\' := by
    intro rooted
    have stops := List.head?_dropWhile_not (· == '\\') front.toList
    rw [unrooted, Text.dropLeading, String.toList_ofList] at rooted
    rw [rooted] at stops
    simp at stops
  unfold normalize
  by_cases complete : (unrooted front == "" || (unrooted front).toList.getLast? == some '\\') = true
  · simp only [complete, if_true]
    exact ⟨bare, by simpa using complete⟩
  · simp only [complete, Bool.false_eq_true, if_false]
    have nonempty : unrooted front ≠ "" := by
      intro empty
      simp [empty] at complete
    refine ⟨?_, .inr (by simp)⟩
    obtain ⟨c, rest, chars⟩ := List.exists_cons_of_ne_nil (mt String.toList_eq_nil_iff.1 nonempty)
    rw [String.toList_append, chars]
    simpa [chars] using bare

/-- One more entry stands between those that are as long at least and those that are shorter. -/
theorem place_eq (e : String × String) {entries : List (String × String)}
    (descending : Descending entries) :
    ∃ longer shorter, entries = longer ++ shorter ∧ place e entries = longer ++ e :: shorter ∧
      (∀ f ∈ longer, e.1.utf8ByteSize ≤ f.1.utf8ByteSize) ∧
      ∀ f ∈ shorter, f.1.utf8ByteSize < e.1.utf8ByteSize := by
  induction entries with
  | nil => exact ⟨[], [], rfl, rfl, by simp, by simp⟩
  | cons f rest ih =>
    obtain ⟨below, ordered⟩ := List.pairwise_cons.1 descending
    by_cases less : f.1.utf8ByteSize < e.1.utf8ByteSize
    · refine ⟨[], f :: rest, rfl, if_pos less, by simp, List.forall_mem_cons.2 ⟨less, ?_⟩⟩
      exact fun g member => (below g member).trans_lt less
    · obtain ⟨longer, shorter, rfl, placed, above, beneath⟩ := ih ordered
      refine ⟨f :: longer, shorter, rfl, ?_, List.forall_mem_cons.2 ⟨not_lt.1 less, above⟩, beneath⟩
      rw [place, if_neg less, placed, List.cons_append]

theorem Descending.place (e : String × String) {entries : List (String × String)}
    (descending : Descending entries) : Descending (place e entries) := by
  obtain ⟨longer, shorter, rfl, placed, above, beneath⟩ := place_eq e descending
  obtain ⟨front, back, across⟩ := List.pairwise_append.1 descending
  rw [placed]
  refine List.pairwise_append.2 ⟨front, List.pairwise_cons.2 ⟨?_, back⟩, fun f inFront => ?_⟩
  · exact fun g member => (beneath g member).le
  · exact List.forall_mem_cons.2 ⟨above f inFront, across f inFront⟩

theorem mem_place_iff {e f : String × String} {entries : List (String × String)} :
    f ∈ place e entries ↔ f = e ∨ f ∈ entries := by
  induction entries with
  | nil => simp [place]
  | cons g rest ih =>
    rw [place]
    split
    · rw [List.mem_cons]
    · rw [List.mem_cons, ih, List.mem_cons]
      exact or_left_comm

theorem place_of_longer {e : String × String} {entries : List (String × String)}
    (longer : ∀ f ∈ entries, f.1.utf8ByteSize < e.1.utf8ByteSize) :
    place e entries = e :: entries := by
  cases entries with
  | nil => rfl
  | cons f rest => exact if_pos (longer f List.mem_cons_self)

/-- Is the namespace of the first entry at least as long? -/
def atLeast (e f : String × String) : Bool := f.1.utf8ByteSize ≤ e.1.utf8ByteSize

/-- To place an entry is to put it last and to sort again, equals staying in their order. -/
theorem place_eq_mergeSort (e : String × String) {entries : List (String × String)}
    (descending : Descending entries) :
    place e entries = (entries ++ [e]).mergeSort atLeast := by
  have trans (f g h : String × String) (first : atLeast f g = true) (second : atLeast g h = true) :
      atLeast f h = true :=
    decide_eq_true ((of_decide_eq_true second).trans (of_decide_eq_true first))
  have total (f g : String × String) : (atLeast f g || atLeast g f) = true := by
    simpa [atLeast] using Nat.le_total g.1.utf8ByteSize f.1.utf8ByteSize
  induction entries with
  | nil => exact (List.mergeSort_singleton e).symm
  | cons f rest ih =>
    obtain ⟨below, ordered⟩ := List.pairwise_cons.1 descending
    obtain ⟨before, behind, sorted, cut, longer⟩ := List.mergeSort_cons trans total f (rest ++ [e])
    rw [← ih ordered] at cut
    rw [List.cons_append, sorted]
    -- What is sorted before `f` is longer, and of all that is behind `f` only `e` can be.
    have onlyNew : ∀ g ∈ before, g = e ∧ f.1.utf8ByteSize < e.1.utf8ByteSize := by
      intro g member
      have isLonger : f.1.utf8ByteSize < g.1.utf8ByteSize := by
        simpa [atLeast] using longer g member
      have placed : g ∈ place e rest := cut ▸ List.mem_append_left _ member
      rcases mem_place_iff.1 placed with rfl | old
      · exact ⟨rfl, isLonger⟩
      · exact absurd (below g old) (by omega)
    rw [place]
    split
    · rename_i less
      have first : place e rest = e :: rest :=
        place_of_longer fun g member => (below g member).trans_lt less
      have order := List.pairwise_mergeSort trans total (f :: (rest ++ [e]))
      rw [first] at cut
      rw [sorted, List.pairwise_append] at order
      cases before with
      | nil =>
        rw [List.nil_append] at cut
        have shorter : atLeast f e = true :=
          (List.pairwise_cons.1 order.2.1).1 e (cut ▸ List.mem_cons_self)
        exact absurd (of_decide_eq_true shorter) (by omega)
      | cons g before =>
        obtain ⟨-, cut⟩ := List.cons.inj cut
        have empty : before = [] := by
          refine List.eq_nil_iff_forall_not_mem.2 fun h member => ?_
          obtain ⟨isNew, longer⟩ := onlyNew h (List.mem_cons_of_mem g member)
          have old : h ∈ rest := cut ▸ List.mem_append_left _ member
          have := below h old
          rw [isNew] at this
          omega
        rw [(onlyNew g List.mem_cons_self).1, cut, empty]
        rfl
    · rename_i less
      have empty : before = [] := List.eq_nil_iff_forall_not_mem.2 fun g member =>
        less (onlyNew g member).2
      rw [cut, empty, List.nil_append, List.nil_append]

theorem filter_place (e : String × String) {entries : List (String × String)}
    (descending : Descending entries) (front : String) :
    (place e entries).filter (fun f => f.1 == front) =
      (entries ++ [e]).filter fun f => f.1 == front := by
  obtain ⟨longer, shorter, rfl, placed, -, beneath⟩ := place_eq e descending
  rw [placed, List.append_assoc, List.filter_append, List.filter_append]
  congr 1
  by_cases same : e.1 = front
  · -- Behind an entry that is placed, none has its namespace.
    have gone : shorter.filter (fun f => f.1 == front) = [] := by
      rw [List.filter_eq_nil_iff]
      intro f member isFront
      have equal : f.1 = e.1 := (beq_iff_eq.1 isFront).trans same.symm
      exact absurd (beneath f member) (by rw [equal]; exact lt_irrefl _)
    simp [List.filter_cons, gone]
  · simp [same]

theorem directories_ofList_concat (entries : List (String × String)) (e : String × String) :
    (ofList (entries ++ [e])).directories = place (filed e) (ofList entries).directories := by
  rw [ofList, List.foldl_append]
  rfl

theorem descending_ofList (entries : List (String × String)) :
    Descending (ofList entries).directories := by
  induction entries using List.reverseRecOn with
  | nil => exact .nil
  | append_singleton entries e ih =>
    rw [directories_ofList_concat]
    exact ih.place (filed e)

/-- One more entry is put last, and all are sorted anew. -/
theorem directories_insert (entries : List (String × String)) (front directory : String) :
    ((ofList entries).insert front directory).directories =
      ((ofList entries).directories ++ [(normalize front, directory)]).mergeSort atLeast :=
  place_eq_mergeSort _ (descending_ofList entries)

theorem filter_directories (entries : List (String × String)) (front : String) :
    (ofList entries).directories.filter (fun e => e.1 == front) =
      (under entries front).map filed := by
  induction entries using List.reverseRecOn with
  | nil => rfl
  | append_singleton entries e ih =>
    rw [directories_ofList_concat, filter_place (filed e) (descending_ofList entries),
      List.filter_append, ih, under, under, List.filter_append, List.map_append]
    congr 1
    exact List.filter_map (l := [e])

theorem mem_under_iff {entries : List (String × String)} {e : String × String} :
    e ∈ under entries (normalize e.1) ↔ e ∈ entries := by
  simp [under]

theorem mem_directories_iff {entries : List (String × String)} {e : String × String} :
    e ∈ (ofList entries).directories ↔ ∃ f ∈ entries, filed f = e := by
  have kept : e ∈ (ofList entries).directories ↔
      e ∈ (ofList entries).directories.filter fun f => f.1 == e.1 := by
    simp
  rw [kept, filter_directories, List.mem_map]
  constructor
  · rintro ⟨f, member, rfl⟩
    exact ⟨f, (List.mem_filter.1 member).1, rfl⟩
  · rintro ⟨f, member, rfl⟩
    exact ⟨f, mem_under_iff.2 member, rfl⟩

/-! ## Namespaces of one name -/

section

variable {a b r s : String} (same : a ++ r = b ++ s)
include same

theorem length_le_of_size_le (le : a.utf8ByteSize ≤ b.utf8ByteSize) : a.length ≤ b.length := by
  -- The longer text goes on where the shorter one ends, so it has more bytes too.
  by_contra less
  rw [not_le] at less
  have second : b.toList <+: (a ++ r).toList := ⟨s.toList, by rw [same, String.toList_append]⟩
  have first : a.toList <+: (a ++ r).toList := ⟨r.toList, by rw [String.toList_append]⟩
  have begins : b.toList <+: a.toList := by
    refine List.prefix_of_prefix_length_le second first ?_
    rw [String.length_toList, String.length_toList]
    exact less.le
  obtain ⟨t, eq⟩ := begins
  have whole : a = b ++ String.ofList t := by
    rw [← String.toList_inj, ← eq]
    simp
  rw [whole, String.utf8ByteSize_append] at le
  have rest : String.ofList t = "" := String.utf8ByteSize_eq_zero_iff.1 (by omega)
  rw [whole, rest, String.append_empty] at less
  exact lt_irrefl _ less

theorem eq_of_length_eq (lengths : a.length = b.length) : a = b := by
  have chars : a.toList ++ r.toList = b.toList ++ s.toList := by
    rw [← String.toList_append, same, String.toList_append]
  have counted : a.toList.length = b.toList.length := by
    rw [String.length_toList, String.length_toList, lengths]
  exact String.toList_inj.1 (List.append_inj_left chars counted)

end

/-! ## The file of a class -/

/-- The entry has the file at the path for a class. -/
def Serves (files : FileTree) (name : String) (e : String × String) (path : String) : Prop :=
  ∃ rest, unrooted name = normalize e.1 ++ rest ∧ filePath e.2 rest = path ∧
    files.isFile path = true

theorem candidate?_eq_some_iff {files : FileTree} {name path : String} {e : String × String} :
    candidate? files (unrooted name) (filed e) = some path ↔ Serves files name e path := by
  have answered (p : String) :
      (if files.isFile p then some p else none) = some path ↔
        p = path ∧ files.isFile path = true := by
    by_cases there : files.isFile p = true
    · simp only [there, if_true, Option.some.injEq]
      exact ⟨fun eq => ⟨eq, eq ▸ there⟩, And.left⟩
    · simp only [there, Bool.false_eq_true, if_false, reduceCtorEq, false_iff]
      rintro ⟨rfl, isFile⟩
      exact there isFile
  simp only [candidate?, filed, Option.bind_eq_bind, Option.bind_eq_some_iff,
    Text.strip?_eq_some_iff]
  exact exists_congr fun rest => and_congr_right fun _ => answered (filePath e.2 rest)

theorem candidate?_eq_none_iff {files : FileTree} {name : String} {e : String × String} :
    candidate? files (unrooted name) (filed e) = none ↔ ∀ path, ¬Serves files name e path := by
  simp only [Option.eq_none_iff_forall_ne_some, ne_eq, candidate?_eq_some_iff]

section

variable (entries : List (String × String)) (files : FileTree) (name : String)

theorem isSome_findFile?_iff :
    ((ofList entries).findFile? files name).isSome = true ↔
      ∃ e ∈ entries, ∃ path, Serves files name e path := by
  rw [findFile?, List.findSome?_isSome_iff]
  simp only [mem_directories_iff, Option.isSome_iff_exists, exists_exists_and_eq_and,
    candidate?_eq_some_iff]

/-- No namespace with a file for the class is longer than `front`, and of the directories of `front`,
the first one with a file has it at the path. -/
def Chosen (path : String) : Prop :=
  ∃ front before e after, under entries front = before ++ e :: after ∧
    Serves files name e path ∧ (∀ f ∈ before, ∀ p, ¬Serves files name f p) ∧
    ∀ f ∈ entries, ∀ p, Serves files name f p → (normalize f.1).length ≤ front.length

variable {entries files name}

theorem findSome?_under_iff {front path : String} :
    (under entries front).findSome? (fun e => candidate? files (unrooted name) (filed e)) =
        some path ↔
      ∃ before e after, under entries front = before ++ e :: after ∧
        Serves files name e path ∧ ∀ f ∈ before, ∀ p, ¬Serves files name f p := by
  simp only [List.findSome?_eq_some_iff, candidate?_eq_some_iff, candidate?_eq_none_iff]

theorem length_le_of_split {earlier later : List (String × String)} {e f : String × String}
    {path p : String} (split : (ofList entries).directories = earlier ++ filed e :: later)
    (vain : ∀ g ∈ earlier, candidate? files (unrooted name) g = none)
    (servesE : Serves files name e path) (member : f ∈ entries)
    (servesF : Serves files name f p) : (normalize f.1).length ≤ (normalize e.1).length := by
  have present := mem_directories_iff.2 ⟨f, member, rfl⟩
  rw [split, List.mem_append, List.mem_cons] at present
  rcases present with asked | itself | unasked
  · exact absurd servesF (candidate?_eq_none_iff.1 (vain _ asked) p)
  · exact (congrArg (fun g => g.1.length) itself).le
  · have ordered := descending_ofList entries
    rw [split] at ordered
    have shorter := (List.pairwise_cons.1 (List.pairwise_append.1 ordered).2.1).1 _ unasked
    obtain ⟨restF, beginsF, -⟩ := servesF
    obtain ⟨restE, beginsE, -⟩ := servesE
    exact length_le_of_size_le (beginsF.symm.trans beginsE) shorter

theorem chosen_of_findFile? {path : String}
    (found : (ofList entries).findFile? files name = some path) :
    Chosen entries files name path := by
  obtain ⟨earlier, chosen, later, split, serves, vain⟩ := List.findSome?_eq_some_iff.1 found
  have present : chosen ∈ (ofList entries).directories := by simp [split]
  obtain ⟨e, -, rfl⟩ := mem_directories_iff.1 present
  -- What was asked before it in vain includes all that comes before it in its own namespace.
  have first : ((ofList entries).directories.filter fun f => f.1 == normalize e.1).findSome?
      (candidate? files (unrooted name)) = some path := by
    rw [split, List.filter_append, List.filter_cons_of_pos (by simp [filed])]
    exact List.findSome?_eq_some_iff.2
      ⟨_, filed e, _, rfl, serves, fun f member => vain f (List.mem_filter.1 member).1⟩
  rw [filter_directories, List.findSome?_map] at first
  obtain ⟨before, g, after, listed, servesG, vainG⟩ := findSome?_under_iff.1 first
  refine ⟨normalize e.1, before, g, after, listed, servesG, vainG, fun f member p servesF => ?_⟩
  exact length_le_of_split split vain (candidate?_eq_some_iff.1 serves) member servesF

theorem Chosen.unique {p q : String} (first : Chosen entries files name p)
    (second : Chosen entries files name q) : p = q := by
  obtain ⟨front, before, e, after, split, serves, vain, longest⟩ := first
  obtain ⟨front', before', e', after', split', serves', vain', longest'⟩ := second
  have own : e ∈ under entries front := by simp [split]
  have own' : e' ∈ under entries front' := by simp [split']
  obtain ⟨member, isFront⟩ := List.mem_filter.1 own
  obtain ⟨member', isFront'⟩ := List.mem_filter.1 own'
  obtain rfl := beq_iff_eq.1 isFront
  obtain rfl := beq_iff_eq.1 isFront'
  have lengths : (normalize e.1).length = (normalize e'.1).length :=
    le_antisymm (longest' e member p serves) (longest e' member' q serves')
  have same : normalize e.1 = normalize e'.1 := by
    obtain ⟨rest, begins, -⟩ := serves
    obtain ⟨rest', begins', -⟩ := serves'
    exact eq_of_length_eq (begins.symm.trans begins') lengths
  -- In one namespace, both are what the search through it finds first.
  have found := findSome?_under_iff.2 ⟨before, e, after, split, serves, vain⟩
  have found' := findSome?_under_iff.2 ⟨before', e', after', split', serves', vain'⟩
  rw [same] at found
  exact Option.some.inj (found.symm.trans found')

theorem findFile?_eq_some_iff {path : String} :
    (ofList entries).findFile? files name = some path ↔ Chosen entries files name path := by
  refine ⟨chosen_of_findFile?, fun chosen => ?_⟩
  obtain ⟨front, before, e, after, split, serves, -⟩ := id chosen
  have member : e ∈ under entries front := by simp [split]
  have answered := (isSome_findFile?_iff entries files name).2
    ⟨e, (List.mem_filter.1 member).1, path, serves⟩
  obtain ⟨other, found⟩ := Option.isSome_iff_exists.1 answered
  rw [found, (chosen_of_findFile? found).unique chosen]

/-! ## Orders of adding -/

variable {others : List (String × String)}

theorem Chosen.congr (same : ∀ front, under entries front = under others front) {path : String}
    (chosen : Chosen entries files name path) : Chosen others files name path := by
  obtain ⟨front, before, e, after, split, serves, vain, longest⟩ := chosen
  refine ⟨front, before, e, after, same front ▸ split, serves, vain, fun f member => ?_⟩
  exact longest f (mem_under_iff.1 (same (normalize f.1) ▸ mem_under_iff.2 member))

theorem findFile?_congr (same : ∀ front, under entries front = under others front) :
    (ofList entries).findFile? files name = (ofList others).findFile? files name := by
  ext path
  rw [findFile?_eq_some_iff, findFile?_eq_some_iff]
  exact ⟨Chosen.congr same, Chosen.congr fun front => (same front).symm⟩

theorem under_eq_of_perm (perm : entries.Perm others)
    (distinct : (entries.map fun e => normalize e.1).Nodup) (front : String) :
    under entries front = under others front := by
  have together : (under others front).Perm (under entries front) := (perm.filter _).symm
  cases listed : under entries front with
  | nil => exact (List.perm_nil.1 (listed ▸ together)).symm
  | cons e rest =>
    cases rest with
    | nil => exact (List.perm_singleton.1 (listed ▸ together)).symm
    | cons f rest =>
      have apart : ((under entries front).map fun e => normalize e.1).Nodup :=
        distinct.sublist (List.filter_sublist.map _)
      have inFront : ∀ g ∈ under entries front, normalize g.1 = front := by simp [under]
      rw [listed] at apart inFront
      simp [inFront e, inFront f] at apart

end

/-- A class has a file if some entry has one for it, and then it is the one of the longest namespace
with a file, from the first directory of that namespace which has it.  So the order of adding counts
only within a namespace.  The path has a directory for each segment below the namespace. -/
theorem findFile?_by_longest_namespace (entries : List (String × String)) (files : FileTree)
    (name : String) :
    (∀ e ∈ (ofList entries).directories, IsFront e.1) ∧
    (((ofList entries).findFile? files name).isSome = true ↔
      ∃ e ∈ entries, ∃ path, Serves files name e path) ∧
    (∀ path, (ofList entries).findFile? files name = some path ↔
      Chosen entries files name path) ∧
    (∀ others, (∀ front, under entries front = under others front) →
      (ofList entries).findFile? files name = (ofList others).findFile? files name) ∧
    (∀ others, entries.Perm others → (entries.map fun e => normalize e.1).Nodup →
      (ofList entries).findFile? files name = (ofList others).findFile? files name) ∧
    ∀ directory front last, (∀ s ∈ front ++ [last], IsSegment s) →
      filePath directory (Text.joinWith "\\" (front ++ [last])) =
        Path.join directory (Text.joinWith "/" (front ++ [last ++ ".php"])) := by
  refine ⟨?_, isSome_findFile?_iff entries files name, fun path => findFile?_eq_some_iff,
    fun others => findFile?_congr, ?_, fun directory front last => filePath_segments directory⟩
  · intro e member
    obtain ⟨f, -, rfl⟩ := mem_directories_iff.1 member
    exact isFront_normalize f.1
  · intro others perm distinct
    exact findFile?_congr (under_eq_of_perm perm distinct)

/-- The directory of the longer namespace lacks the file, whichever of the two was added first. -/
theorem findFile?_by_longest_namespace_fallback :
    let files := ((FileTree.empty []).write "/src/Model/Post.php" "").write "/model/User.php" ""
    let entries := [("App", "/src"), ("\\App\\Model\\", "/model")]
    (ofList entries).findFile? files "\\App\\Model\\Post" = some "/src/Model/Post.php" ∧
    (ofList entries.reverse).findFile? files "\\App\\Model\\Post" = some "/src/Model/Post.php" ∧
    (ofList entries).findFile? files "App\\Model\\User" = some "/model/User.php" ∧
    filePath "/src" (Text.joinWith "\\" ["Model", "Post"]) =
      Path.join "/src" (Text.joinWith "/" ["Model", "Post.php"]) := by
  intro files entries
  have found : (ofList entries).findFile? files "\\App\\Model\\Post" =
      some "/src/Model/Post.php" := by
    decide +kernel
  have other : (ofList entries).findFile? files "App\\Model\\User" = some "/model/User.php" := by
    decide +kernel
  obtain ⟨-, -, -, -, reordered, path⟩ :=
    findFile?_by_longest_namespace entries files "\\App\\Model\\Post"
  have reversed := reordered entries.reverse (List.reverse_perm entries).symm (by decide +kernel)
  have plain : ∀ s ∈ ["Model"] ++ ["Post"], IsSegment s := by
    decide +kernel
  exact ⟨found, reversed ▸ found, other, path "/src" ["Model"] "Post" plain⟩

end Introspect.Autoload
