import Mathlib.Data.List.MinMax
import Introspect.Proofs.Config.Tables
import Introspect.Proofs.Locator.Autoload
import Introspect.Proofs.Locator.Chain
import Introspect.Proofs.Locator.Histories

/-! # Configured lookups

What a configuration finds, said without the locators it is made of:

* `Servable`, `PathFault` — paths that may stand among the files, and what is wrong with others;
* `Config.mapped?` — the path of the greatest key in the class map that spells a name;
* `Config.HasFile` — the file of a class in the class map or in the directory of its namespace;
* `Config.Finds` — the first file for every query, and without files that of a class, then what is
  built in;
* `Config.configured_lookups` — the locators of a configuration find this, or the first path that
  is wrong is reported.
-/

namespace Introspect

/-! ## Single files -/

/-- The path leads to a file. -/
def Servable (files : FileTree) (path : String) : Prop :=
  path ≠ "" ∧ files.exists? path = true ∧ files.isFile path = true

instance (files : FileTree) (path : String) : Decidable (Servable files path) :=
  inferInstanceAs (Decidable (_ ∧ _ ∧ _))

/-- What is wrong with a path that leads to no file. -/
inductive PathFault (files : FileTree) : String → LocatorFault → Prop where
  | empty : PathFault files "" .emptyPath
  | missing {path : String} (nonempty : path ≠ "") (absent : files.exists? path = false) :
      PathFault files path (.missingFile path)
  | notAFile {path : String} (nonempty : path ≠ "") (present : files.exists? path = true)
      (other : files.isFile path = false) : PathFault files path (.notAFile path)

theorem servable_or_pathFault (files : FileTree) (path : String) :
    Servable files path ∨ ∃ fault, PathFault files path fault := by
  by_cases empty : path = ""
  · subst empty
    exact .inr ⟨_, .empty⟩
  · cases present : files.exists? path with
    | false => exact .inr ⟨_, .missing empty present⟩
    | true =>
      cases regular : files.isFile path with
      | false => exact .inr ⟨_, .notAFile empty present regular⟩
      | true => exact .inl ⟨empty, present, regular⟩

theorem PathFault.not_servable {files : FileTree} {path : String} {fault : LocatorFault}
    (faulty : PathFault files path fault) : ¬ Servable files path := by
  rintro ⟨nonempty, present, regular⟩
  cases faulty with
  | empty => exact nonempty rfl
  | missing _ absent => exact Bool.false_ne_true (absent.symm.trans present)
  | notAFile _ _ other => exact Bool.false_ne_true (other.symm.trans regular)

theorem ofFile_of_servable {files : FileTree} {path : String} (servable : Servable files path) :
    Locator.ofFile files path = .ok (.file path) := by
  obtain ⟨nonempty, present, regular⟩ := servable
  simp [Locator.ofFile, nonempty, present, regular]

theorem ofFile_of_pathFault {files : FileTree} {path : String} {fault : LocatorFault}
    (faulty : PathFault files path fault) :
    Locator.ofFile files path = .error (.invalidLocator fault) := by
  cases faulty with
  | empty => rfl
  | missing nonempty absent => simp [Locator.ofFile, nonempty, absent]
  | notAFile nonempty present other => simp [Locator.ofFile, nonempty, present, other]

/-- The fault of the first path that has one. -/
inductive FirstFault (files : FileTree) : List String → LocatorFault → Prop where
  | here {path : String} {rest : List String} {fault : LocatorFault}
      (faulty : PathFault files path fault) : FirstFault files (path :: rest) fault
  | behind {path : String} {rest : List String} {fault : LocatorFault}
      (servable : Servable files path) (first : FirstFault files rest fault) :
      FirstFault files (path :: rest) fault

section

variable {files : FileTree} {paths : List String}

theorem servable_or_firstFault :
    (∀ path ∈ paths, Servable files path) ∨ ∃ fault, FirstFault files paths fault := by
  induction paths with
  | nil => exact .inl (List.forall_mem_nil _)
  | cons path rest ih =>
    rcases servable_or_pathFault files path with servable | ⟨fault, faulty⟩
    · rcases ih with servables | ⟨fault, first⟩
      · exact .inl (List.forall_mem_cons.2 ⟨servable, servables⟩)
      · exact .inr ⟨fault, .behind servable first⟩
    · exact .inr ⟨fault, .here faulty⟩

theorem exists_firstFault_iff :
    (∃ fault, FirstFault files paths fault) ↔ ∃ path ∈ paths, ¬ Servable files path := by
  constructor
  · rintro ⟨fault, first⟩
    induction first with
    | here faulty => exact ⟨_, List.mem_cons_self, faulty.not_servable⟩
    | behind _ _ ih =>
      obtain ⟨path, member, unservable⟩ := ih
      exact ⟨path, List.mem_cons_of_mem _ member, unservable⟩
  · rintro ⟨path, member, unservable⟩
    rcases servable_or_firstFault with servables | faulty
    · exact absurd (servables path member) unservable
    · exact faulty

theorem mapM_ofFile_of_servable (servables : ∀ path ∈ paths, Servable files path) :
    paths.mapM (Locator.ofFile files) = .ok (paths.map .file) := by
  induction paths with
  | nil => rfl
  | cons path rest ih =>
    obtain ⟨servable, servables⟩ := List.forall_mem_cons.1 servables
    rw [List.mapM_cons, ofFile_of_servable servable, ih servables]
    rfl

theorem mapM_ofFile_of_firstFault {fault : LocatorFault} (first : FirstFault files paths fault) :
    paths.mapM (Locator.ofFile files) = .error (.invalidLocator fault) := by
  induction first with
  | here faulty =>
    rw [List.mapM_cons, ofFile_of_pathFault faulty]
    rfl
  | behind servable _ ih =>
    rw [List.mapM_cons, ofFile_of_servable servable, ih]
    rfl

end

/-! ## Tables -/

/-- The greatest member of a list that ascends is its last one. -/
theorem argmax_of_ascending {α β : Type} [Preorder β] [DecidableLT β] {f : α → β} {as : List α}
    (ascending : as.Pairwise fun a b => f a < f b) : as.argmax f = as.getLast? := by
  induction as using List.reverseRecOn with
  | nil => rfl
  | append_singleton as a ih =>
    obtain ⟨front, -, below⟩ := List.pairwise_append.1 ascending
    rw [List.argmax_concat, ih front, List.getLast?_concat]
    cases last : as.getLast? with
    | none => rfl
    | some b =>
      have less : f b < f a := below b (List.mem_of_getLast? last) a (List.mem_singleton_self a)
      simp [less]

namespace Locator

theorem orNext_locate_file (w : World) (i : Identifier) (path : String)
    (next : Except Error (Option Located)) :
    orNext (locate w i (.file path)) next =
      match w.files.read path with
      | .ok content => .ok (some (.definite (.ofFile path content)))
      | .error reason => .error (.unreadable path reason) := by
  rw [locate, readSource]
  cases w.files.read path <;> rfl

theorem orNext_ok (first second : Option Located) :
    orNext (.ok first) (.ok second) = .ok (first.or second) := by
  cases first <;> rfl

end Locator

namespace Config

open Locator

/-- The path that the class map has for a name: that of the greatest key which is a spelling of
it. -/
def mapped? (c : Config) (name : String) : Option String :=
  ((c.classMap.filter fun e => foldName e.1 == foldName name).argmax fun e => Text.bytes e.1).map
    fun e => c.resolve e.2

theorem find?_classMap {c : Config} (ascending : c.Ascending) (name : String) :
    (NameTable.ofList (c.resolveTable c.classMap)).find? name = c.mapped? name := by
  -- The table keeps the last key of a name, which is the greatest since keys ascend.
  have filtered := List.Pairwise.filter (fun e => foldName e.1 == foldName name) ascending
  rw [NameTable.find?_ofList, mapped?, argmax_of_ascending filtered, resolveTable, List.filter_map,
    List.getLast?_map, Option.map_map]
  rfl

/-- The class map, or without it a directory by namespace, has the file at the path for the class
that is asked for. -/
inductive HasFile (c : Config) (files : FileTree) (i : Identifier) (path : String) : Prop where
  | mapped (ofClass : namesClass i = true) (mapped : c.mapped? i.name = some path)
  | autoloaded (ofClass : namesClass i = true) (unmapped : c.mapped? i.name = none)
      (chosen : Autoload.Chosen (c.resolveTable c.directories) files i.name path)

/-- What a configuration finds for a query. -/
inductive Finds (c : Config) (w : World) (i : Identifier) :
    Except Error (Option Located) → Prop where
  | file {path content : String} (first : c.filePaths.head? = some path)
      (read : w.files.read path = .ok content) :
      Finds c w i (.ok (some (.definite (.ofFile path content))))
  | unreadable {path : String} {reason : ReadFailure} (first : c.filePaths.head? = some path)
      (failed : w.files.read path = .error reason) : Finds c w i (.error (.unreadable path reason))
  | classFile {path : String} (noFiles : c.filePaths = []) (has : c.HasFile w.files i path) :
      Finds c w i (.ok (some (.potential path)))
  | builtin {s : Stub} (noFiles : c.filePaths = []) (noClass : ∀ path, ¬c.HasFile w.files i path)
      (on : c.builtins = true) (listed : s ∈ stubs) (kind : s.kind = i.kind)
      (asked : i.matchesName s.name = true) :
      Finds c w i (.ok (some (.definite (.builtin s.text))))
  | nothing (noFiles : c.filePaths = []) (noClass : ∀ path, ¬c.HasFile w.files i path)
      (unlisted : c.builtins = true → ∀ s ∈ stubs, s.kind = i.kind → ¬i.matchesName s.name = true) :
      Finds c w i (.ok none)

/-- The file of a class as the tables find it. -/
def classFile? (c : Config) (files : FileTree) (i : Identifier) : Option String :=
  if namesClass i then
    (c.mapped? i.name).or ((Autoload.ofList (c.resolveTable c.directories)).findFile? files i.name)
  else none

def stub? (c : Config) (i : Identifier) : Option Stub := if c.builtins then findStub? i else none

section

variable (c : Config) (w : World) (i : Identifier)

theorem locateFirst_classMap (ascending : c.Ascending) :
    locateFirst w i (if c.classMap.isEmpty then []
        else [.classMap (.ofList (c.resolveTable c.classMap))]) =
      .ok ((if namesClass i then c.mapped? i.name else none).map .potential) := by
  split
  · rename_i empty
    rw [locateFirst_nil, mapped?, List.isEmpty_iff.1 empty]
    cases namesClass i <;> rfl
  · rw [locateFirst_singleton, locate, find?_classMap ascending]
    cases namesClass i <;> rfl

theorem locateFirst_directories :
    locateFirst w i (if c.directories.isEmpty then []
        else [.autoload (.ofList (c.resolveTable c.directories))]) =
      .ok ((if namesClass i then
        (Autoload.ofList (c.resolveTable c.directories)).findFile? w.files i.name
          else none).map .potential) := by
  split
  · rename_i empty
    rw [locateFirst_nil, List.isEmpty_iff.1 empty]
    cases namesClass i <;> rfl
  · rw [locateFirst_singleton, locate]
    cases namesClass i <;> rfl

theorem locateFirst_builtins :
    locateFirst w i (if c.builtins then [.builtin] else []) =
      .ok ((c.stub? i).map fun s => .definite (.builtin s.text)) := by
  unfold stub?
  split
  · rw [locateFirst_singleton, locate]
  · rw [locateFirst_nil]
    rfl

theorem locateFirst_lookups (ascending : c.Ascending) :
    locateFirst w i c.lookups =
      .ok (((c.classFile? w.files i).map .potential).or
        ((c.stub? i).map fun s => .definite (.builtin s.text))) := by
  rw [lookups, locateFirst_append, locateFirst_append, locateFirst_classMap c w i ascending,
    locateFirst_directories, locateFirst_builtins, orNext_ok, orNext_ok, classFile?]
  cases namesClass i
  · rfl
  · simp [Option.map_or]

end

section

variable {c : Config} {w : World} {i : Identifier} {files : FileTree}

theorem classFile?_eq_some_iff {path : String} :
    c.classFile? files i = some path ↔ c.HasFile files i path := by
  unfold classFile?
  constructor
  · intro found
    split at found
    · rename_i ofClass
      rcases Option.or_eq_some_iff.1 found with mapped | ⟨unmapped, autoloaded⟩
      · exact .mapped ofClass mapped
      · exact .autoloaded ofClass unmapped (Autoload.findFile?_eq_some_iff.1 autoloaded)
    · cases found
  · rintro (⟨ofClass, mapped⟩ | ⟨ofClass, unmapped, chosen⟩)
    · rw [if_pos ofClass, mapped, Option.some_or]
    · rw [if_pos ofClass, unmapped, Option.none_or]
      exact Autoload.findFile?_eq_some_iff.2 chosen

theorem classFile?_eq_none_iff :
    c.classFile? files i = none ↔ ∀ path, ¬c.HasFile files i path := by
  simp only [Option.eq_none_iff_forall_ne_some, ne_eq, classFile?_eq_some_iff]

theorem stub?_eq_some_iff {s : Stub} :
    c.stub? i = some s ↔
      c.builtins = true ∧ s ∈ stubs ∧ s.kind = i.kind ∧ i.matchesName s.name = true := by
  rw [stub?]
  cases c.builtins <;> simp [findStub?_eq_some_iff]

theorem stub?_eq_none_iff :
    c.stub? i = none ↔
      (c.builtins = true → ∀ s ∈ stubs, s.kind = i.kind → ¬i.matchesName s.name = true) := by
  rw [stub?]
  cases c.builtins <;> simp [findStub?_eq_none_iff]

theorem locate_of_head? {path : String} (first : c.filePaths.head? = some path) :
    locate w i (.chain (c.filePaths.map .file ++ c.lookups)) =
      match w.files.read path with
      | .ok content => .ok (some (.definite (.ofFile path content)))
      | .error reason => .error (.unreadable path reason) := by
  obtain ⟨rest, paths⟩ := List.head?_eq_some_iff.1 first
  rw [locate, paths, List.map_cons, List.cons_append, locateFirst_cons, orNext_locate_file]

theorem locate_of_noFiles (ascending : c.Ascending) (noFiles : c.filePaths = []) :
    locate w i (.chain (c.filePaths.map .file ++ c.lookups)) =
      .ok (((c.classFile? w.files i).map .potential).or
        ((c.stub? i).map fun s => .definite (.builtin s.text))) := by
  rw [locate, noFiles, List.map_nil, List.nil_append, locateFirst_lookups c w i ascending]

theorem finds_locate (ascending : c.Ascending) :
    c.Finds w i (locate w i (.chain (c.filePaths.map .file ++ c.lookups))) := by
  cases first : c.filePaths.head? with
  | some path =>
    rw [locate_of_head? first]
    cases read : w.files.read path with
    | ok content => exact .file first read
    | error reason => exact .unreadable first read
  | none =>
    have noFiles := List.head?_eq_none_iff.1 first
    rw [locate_of_noFiles ascending noFiles]
    cases file : c.classFile? w.files i with
    | some path => exact .classFile noFiles (classFile?_eq_some_iff.1 file)
    | none =>
      have noClass := classFile?_eq_none_iff.1 file
      cases stub : c.stub? i with
      | some s =>
        obtain ⟨on, listed, kind, asked⟩ := stub?_eq_some_iff.1 stub
        exact .builtin noFiles noClass on listed kind asked
      | none => exact .nothing noFiles noClass (stub?_eq_none_iff.1 stub)

theorem Finds.locate_eq (ascending : c.Ascending) {answer : Except Error (Option Located)}
    (finds : c.Finds w i answer) :
    locate w i (.chain (c.filePaths.map .file ++ c.lookups)) = answer := by
  cases finds with
  | file first read => rw [locate_of_head? first, read]
  | unreadable first failed => rw [locate_of_head? first, failed]
  | classFile noFiles has =>
    rw [locate_of_noFiles ascending noFiles, classFile?_eq_some_iff.2 has]
    rfl
  | builtin noFiles noClass on listed kind asked =>
    rw [locate_of_noFiles ascending noFiles, classFile?_eq_none_iff.2 noClass,
      stub?_eq_some_iff.2 ⟨on, listed, kind, asked⟩]
    rfl
  | nothing noFiles noClass unlisted =>
    rw [locate_of_noFiles ascending noFiles, classFile?_eq_none_iff.2 noClass,
      stub?_eq_none_iff.2 unlisted]
    rfl

theorem locate_chain_iff (ascending : c.Ascending) {answer : Except Error (Option Located)} :
    locate w i (.chain (c.filePaths.map .file ++ c.lookups)) = answer ↔ c.Finds w i answer :=
  ⟨fun located => located ▸ finds_locate ascending, Finds.locate_eq ascending⟩

/-- Only the class map and the directories answer with a file that was not read, and they answer for
classes. -/
theorem Finds.ne_potential {answer : Except Error (Option Located)} (finds : c.Finds w i answer)
    (function : i.kind = .function) (path : String) : answer ≠ .ok (some (.potential path)) := by
  have noClass : namesClass i ≠ true := by simp [namesClass, function]
  cases finds with
  | classFile _ has =>
    cases has with
    | mapped ofClass => exact absurd ofClass noClass
    | autoloaded ofClass => exact absurd ofClass noClass
  | file | unreadable | builtin | nothing => simp

end

/-! ## Configurations -/

theorem files_prepended (prepends : List (List String)) (c : Config) :
    prepends.foldl prependFiles c = { c with files := prepends.reverse.flatten ++ c.files } := by
  induction prepends generalizing c with
  | nil => rfl
  | cons paths rest ih => simp [ih, prependFiles]

section

variable {c : Config} {files : FileTree}

theorem locators_of_servable (servables : ∀ path ∈ c.filePaths, Servable files path) :
    c.locators files = .ok (c.filePaths.map .file ++ c.lookups) := by
  rw [locators, mapM_ofFile_of_servable servables]
  rfl

theorem locators_of_firstFault {fault : LocatorFault} (first : FirstFault files c.filePaths fault) :
    c.locators files = .error (.invalidLocator fault) := by
  rw [locators, mapM_ofFile_of_firstFault first]
  rfl

theorem locators_eq_error_iff {e : Error} :
    c.locators files = .error e ↔
      ∃ fault, FirstFault files c.filePaths fault ∧ e = .invalidLocator fault := by
  constructor
  · intro failed
    rcases servable_or_firstFault with servables | ⟨fault, first⟩
    · rw [locators_of_servable servables] at failed
      cases failed
    · rw [locators_of_firstFault first] at failed
      cases failed
      exact ⟨fault, first, rfl⟩
  · rintro ⟨fault, first, rfl⟩
    exact locators_of_firstFault first

theorem locators_eq_ok_iff {ls : List Locator} :
    c.locators files = .ok ls ↔
      (∀ path ∈ c.filePaths, Servable files path) ∧ ls = c.filePaths.map .file ++ c.lookups := by
  constructor
  · intro built
    rcases servable_or_firstFault with servables | ⟨fault, first⟩
    · rw [locators_of_servable servables] at built
      cases built
      exact ⟨servables, rfl⟩
    · rw [locators_of_firstFault first] at built
      cases built
  · rintro ⟨servables, rfl⟩
    exact locators_of_servable servables

end

theorem resolve_eq (c : Config) (path : String) :
    c.resolve path = if Path.isAbsolute path then path else Path.join c.root path := by
  unfold resolve Path.join
  split <;> rfl

/-- The keys of every configuration ascend.  Where they do, files put in front later come first; the
locators are refused exactly for a path that leads to no file, with the fault of the first such path;
and otherwise they find what the configuration says, whatever the files are by then.  For a function
neither the class map nor a directory answers. -/
theorem configured_lookups :
    (∀ files root c, load files root = .ok c → c.Ascending) ∧
    (∀ files path c, loadFile files path = .ok c → c.Ascending) ∧
    ∀ c : Config, c.Ascending → ∀ (prepends : List (List String)) (files : FileTree),
      let config := prepends.foldl prependFiles c
      config.filePaths = (prepends.reverse.flatten ++ c.files).map (fun path =>
        if Path.isAbsolute path then path else Path.join c.root path) ∧
      ((∃ e, config.locators files = .error e) ↔
        ∃ path ∈ config.filePaths, ¬ Servable files path) ∧
      (∀ e, config.locators files = .error e ↔
        ∃ fault, FirstFault files config.filePaths fault ∧ e = .invalidLocator fault) ∧
      ∀ ls, config.locators files = .ok ls → ∀ w i,
        (∀ answer, locate w i (.chain ls) = answer ↔ config.Finds w i answer) ∧
        (i.kind = .function → ∀ path, locate w i (.chain ls) ≠ .ok (some (.potential path))) := by
  refine ⟨fun _ _ _ => ascending_of_load, fun _ _ _ => ascending_of_loadFile, ?_⟩
  intro c ascending prepends files config
  have prepended : config = { c with files := prepends.reverse.flatten ++ c.files } :=
    files_prepended prepends c
  have kept : config.Ascending := prepended ▸ ascending
  refine ⟨?_, ?_, fun e => locators_eq_error_iff, fun ls built w i => ?_⟩
  · rw [filePaths, prepended]
    exact List.map_congr_left fun path _ => resolve_eq c path
  · rw [← exists_firstFault_iff]
    simp only [locators_eq_error_iff]
    constructor
    · rintro ⟨e, fault, first, -⟩
      exact ⟨fault, first⟩
    · rintro ⟨fault, first⟩
      exact ⟨_, fault, first, rfl⟩
  · obtain ⟨-, rfl⟩ := locators_eq_ok_iff.1 built
    exact ⟨fun _ => locate_chain_iff kept, (finds_locate kept).ne_potential⟩

/-- Two keys that are spellings of one name, and a directory by namespace. -/
def collidingKeys : Config where
  root := "/lib"
  classMap := [("App\\Foo", "Foo.php"), ("app\\foo", "foo.php")]
  directories := [("App", "src")]

/-- The files that the lookups below see. -/
def libraryFiles : FileTree :=
  ((FileTree.empty []).write "/lib/src/Post.php" "").write "/lib/main.php" "<?php"

theorem configured_lookups_collidingKeys :
    let w : World := { files := libraryFiles }
    collidingKeys.Ascending ∧
    (∃ ls, collidingKeys.locators libraryFiles = .ok ls ∧
      locate w (.ofName .classLike "\\APP\\Foo") (.chain ls) =
        .ok (some (.potential "/lib/foo.php")) ∧
      locate w (.ofName .classLike "App\\Post") (.chain ls) =
        .ok (some (.potential "/lib/src/Post.php")) ∧
      (∃ s ∈ stubs, s.name = "Countable" ∧
        locate w (.ofName .classLike "\\countable") (.chain ls) =
          .ok (some (.definite (.builtin s.text)))) ∧
      locate w (.ofName .function "App\\Foo") (.chain ls) = .ok none) ∧
    (∃ ls, (collidingKeys.prependFiles ["main.php"]).locators libraryFiles = .ok ls ∧
      locate w (.ofName .classLike "App\\Foo") (.chain ls) =
        .ok (some (.definite (.ofFile "/lib/main.php" "<?php")))) ∧
    ((collidingKeys.prependFiles ["/"]).prependFiles ["/a.php"]).locators libraryFiles =
      .error (.invalidLocator (.missingFile "/a.php")) := by
  intro w
  have ascending : collidingKeys.Ascending := by decide +kernel
  have colliding := configured_lookups.2.2 collidingKeys ascending
  refine ⟨ascending, ⟨_, rfl, ?_⟩, ?_, ?_⟩
  · obtain ⟨-, -, -, located⟩ := colliding [] libraryFiles
    have finds i answer := ((located _ rfl w i).1 answer).2
    refine ⟨finds _ _ ?_, finds _ _ ?_, ⟨stubs[2], List.getElem_mem _, rfl, finds _ _ ?_⟩,
      finds _ _ ?_⟩
    · exact .classFile rfl (.mapped (by decide +kernel) (by decide +kernel))
    · refine .classFile rfl (.autoloaded (by decide +kernel) (by decide +kernel) ?_)
      exact Autoload.findFile?_eq_some_iff.1 (by decide +kernel)
    · refine .builtin rfl ?_ rfl (List.getElem_mem _) rfl (by decide +kernel)
      exact classFile?_eq_none_iff.1 (by decide +kernel)
    · refine .nothing rfl ?_ fun _ => by decide +kernel
      exact classFile?_eq_none_iff.1 (by decide +kernel)
  · have servable : Servable libraryFiles "/lib/main.php" := by decide +kernel
    have built : (collidingKeys.prependFiles ["main.php"]).locators libraryFiles =
        .ok (.file "/lib/main.php" :: collidingKeys.lookups) :=
      locators_of_servable fun path member => List.mem_singleton.1 member ▸ servable
    obtain ⟨-, -, -, located⟩ := colliding [["main.php"]] libraryFiles
    exact ⟨_, built, ((located _ built w _).1 _).2 (.file rfl (by decide +kernel))⟩
  · have missing : PathFault libraryFiles "/a.php" (.missingFile "/a.php") :=
      .missing (by decide) (by decide +kernel)
    obtain ⟨-, -, refused, -⟩ := colliding [["/"], ["/a.php"]] libraryFiles
    exact (refused _).2 ⟨_, .here missing, rfl⟩

end Config

end Introspect
