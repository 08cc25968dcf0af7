import Introspect.Error
import Introspect.Path

/-! # Files

The files that lookups read, as a value:

* `Entry`, `FileTree` — files and directories by their place from the root on;
* `FileTree.locate` — the place that a path leads to;
* `FileTree.read`, `FileTree.isFile`, `FileTree.exists?` — questions about a path;
* `FileTree.write`, `FileTree.remove` — changes.
-/

namespace Introspect

/-- What stands at a place.  A file whose bytes are no text has no content. -/
inductive Entry where
  | file (content : Option String)
  | directory
deriving DecidableEq, Repr

/-- A file with the given bytes. -/
def Entry.ofBytes (bytes : ByteArray) : Entry :=
  .file (String.fromUTF8? bytes)

/-- The names of directories on the way from the root. -/
abbrev Place := List String

/-- Files and directories, latest first, and the place from which relative paths start. -/
structure FileTree where
  workingDirectory : Place
  entries : List (Place × Entry)
deriving Repr

namespace FileTree

/-- No files but the working directory. -/
def empty (workingDirectory : Place) : FileTree := ⟨workingDirectory, []⟩

/-- The working directory as an absolute path. -/
def workingPath (t : FileTree) : String := "/" ++ Text.joinWith "/" t.workingDirectory

/-- What stands at a place.  The working directory and what leads to it are there always. -/
def entryAt? (t : FileTree) (place : Place) : Option Entry :=
  if place.isPrefixOf t.workingDirectory then some .directory
  else (t.entries.find? fun e => e.1 == place).map (·.2)

/-- The place that is reached from `place` over the given pieces of a path.  Every piece needs a
directory to start from. -/
def follow (t : FileTree) (place : Place) : List String → Except ReadFailure Place
  | [] => .ok place
  | piece :: rest =>
    match t.entryAt? place with
    | some .directory =>
      if Path.isIdle piece then t.follow place rest
      else if piece == ".." then t.follow place.dropLast rest
      else if (t.entryAt? (place ++ [piece])).isSome then t.follow (place ++ [piece]) rest
      else .error .missing
    | some (.file _) => .error .throughFile
    | none => .error .missing

/-- The place that a path leads to. -/
def locate (t : FileTree) (path : String) : Except ReadFailure Place :=
  if path == "" then .error .missing
  else t.follow (if Path.isAbsolute path then [] else t.workingDirectory) (Path.pieces path)

/-- What a path leads to. -/
def stat (t : FileTree) (path : String) : Except ReadFailure Entry := do
  match t.entryAt? (← t.locate path) with
  | some e => .ok e
  | none => .error .missing

/-- Does the path lead to anything? -/
def exists? (t : FileTree) (path : String) : Bool :=
  match t.stat path with
  | .ok _ => true
  | .error _ => false

def isFile (t : FileTree) (path : String) : Bool :=
  match t.stat path with
  | .ok (.file _) => true
  | _ => false

/-- The text of the file at a path. -/
def read (t : FileTree) (path : String) : Except ReadFailure String := do
  match ← t.stat path with
  | .file (some text) => .ok text
  | .file none => .error .notText
  | .directory => .error .directory

/-- The place that a path names, whether anything is there or not. -/
def placeOf (t : FileTree) (path : String) : Place :=
  (Path.pieces path).foldl
    (fun place piece =>
      if Path.isIdle piece then place
      else if piece == ".." then place.dropLast
      else place ++ [piece])
    (if Path.isAbsolute path then [] else t.workingDirectory)

/-- Puts an entry at a place. -/
def insert (t : FileTree) (place : Place) (e : Entry) : FileTree :=
  { t with entries := (place, e) :: t.entries.filter fun f => f.1 != place }

/-- All places on the way to a place. -/
def ancestors (place : Place) : List Place :=
  (List.range place.length).map fun n => place.take n

/-- Puts an entry at a path, with the directories that lead to it. -/
def put (t : FileTree) (path : String) (e : Entry) : FileTree :=
  let place := t.placeOf path
  let withDirectories := (ancestors place).foldl
    (fun t up => if (t.entryAt? up).isSome then t else t.insert up .directory) t
  withDirectories.insert place e

def write (t : FileTree) (path text : String) : FileTree :=
  t.put path (.file (some text))

def remove (t : FileTree) (path : String) : FileTree :=
  let place := t.placeOf path
  { t with entries := t.entries.filter fun f => f.1 != place }

end FileTree

end Introspect
