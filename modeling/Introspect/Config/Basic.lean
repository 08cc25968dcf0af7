import Introspect.Reflector
import Introspect.Config.Settings

/-! # Project configuration

* `Config` — the files, class map, directories and limits of a project;
* `Config.load`, `Config.loadFile` — read from the root of a project, or from a given file;
* `Config.locator`, `Config.reflector` — the lookups it describes: files first, then the class map,
  then directories by namespace, then built-in declarations.
-/

namespace Introspect

/-- The name of the configuration file in the root of a project. -/
def configFileName : String := ".phpreflect.toml"

/-- The configuration of a project.  Relative paths start from its root; tables are
sorted by key. -/
structure Config where
  root : String
  classMap : List (String × String) := []
  files : List String := []
  limit : Nat := defaultLimit
  directories : List (String × String) := []
  builtins : Bool := true
deriving DecidableEq, Repr

namespace Config

open Settings (Value Item)

/-! ## Decoding -/

def textOf? : Value → Option String
  | .text s => some s
  | _ => none

def textEntries? (entries : List (String × Value)) : Option (List (String × String)) :=
  entries.mapM fun e => (textOf? e.2).map fun s => (e.1, s)

/-- A table of texts, sorted by key. -/
def textTable? (i : Item) : Option (List (String × String)) :=
  let entries := match i with
    | .table _ entries => some entries
    | .value (.table entries) => some entries
    | .value _ => none
  (entries.bind textEntries?).map fun es => es.mergeSort fun a b => decide (a.1 ≤ b.1)

/-- The configuration with one more setting; nothing if there is no such setting, or none of
this type. -/
def set? (c : Config) (name : String) (i : Item) : Option Config :=
  match name, i with
  | "class_map", i => (textTable? i).map fun classMap => { c with classMap }
  | "psr4", i => (textTable? i).map fun directories => { c with directories }
  | "files", .value (.array vs) => (vs.mapM textOf?).map fun files => { c with files }
  | "max_file_size", .value (.integer n) => if 0 ≤ n then some { c with limit := n.toNat } else none
  | "stubs", .value (.boolean builtins) => some { c with builtins }
  | _, _ => none

/-- Reads the text of a configuration file. -/
def ofText? (root text : String) : Option Config := do
  (← Settings.readItems? text).foldlM (fun c e => c.set? e.1 e.2) ({ root } : Config)

def ofText (root text : String) : Except Error Config :=
  match ofText? root text with
  | some c => .ok c
  | none => .error .malformedConfig

/-! ## Loading -/

/-- The configuration of the project at `root`; without a file it has built-in declarations only. -/
def load (files : FileTree) (root : String) : Except Error Config :=
  let path := Path.join root configFileName
  match files.read path with
  | .ok text => ofText root text
  | .error .missing => .ok { root }
  | .error reason => .error (.unreadable path reason)

/-- The configuration in a file, whose directory becomes the root. -/
def loadFile (files : FileTree) (path : String) : Except Error Config :=
  match files.read path with
  | .ok text => ofText ((Path.parent? path).getD ".") text
  | .error .missing => .error (.configNotFound path)
  | .error reason => .error (.unreadable path reason)

/-! ## Lookups -/

/-- A path as seen from the root of the project. -/
def resolve (c : Config) (path : String) : String := Path.join c.root path

def filePaths (c : Config) : List String := c.files.map c.resolve

/-- Puts files in front of the configured ones. -/
def prependFiles (c : Config) (paths : List String) : Config :=
  { c with files := paths ++ c.files }

/-- A table with its paths as seen from the root. -/
def resolveTable (c : Config) (entries : List (String × String)) : List (String × String) :=
  entries.map fun e => (e.1, c.resolve e.2)

/-- The locators behind the single files: tables that have entries, then the built-in
declarations. -/
def lookups (c : Config) : List Locator :=
  (if c.classMap.isEmpty then [] else [.classMap (.ofList (c.resolveTable c.classMap))]) ++
  (if c.directories.isEmpty then [] else [.autoload (.ofList (c.resolveTable c.directories))]) ++
  (if c.builtins then [.builtin] else [])

/-- The locators in the order in which they are asked.  Each single file must be there. -/
def locators (c : Config) (files : FileTree) : Except Error (List Locator) := do
  return (← c.filePaths.mapM (Locator.ofFile files)) ++ c.lookups

def reflector (c : Config) (files : FileTree) : Except Error Reflector := do
  return ⟨.chain (← c.locators files), c.limit⟩

end Config

end Introspect
