import Introspect.Files
import Introspect.Locator.Table

/-! # Directories by namespace

* `Autoload` — namespaces with the directories that hold their classes, longest namespace first;
* `Autoload.insert` — adds a directory for a namespace;
* `Autoload.findFile?` — the file of a class in the directory of the longest namespace that has one.
-/

namespace Introspect

/-- Namespaces, each with a separator at its end, and their directories. -/
structure Autoload where
  directories : List (String × String) := []
deriving DecidableEq, Repr

namespace Autoload

/-- A namespace without separators in front and with one at its end; the global one is empty. -/
def normalize (front : String) : String :=
  let name := unrooted front
  if name == "" || name.toList.getLast? == some '\\' then name else name ++ "\\"

/-- Puts an entry behind those that are at least as long. -/
def place (e : String × String) : List (String × String) → List (String × String)
  | [] => [e]
  | f :: rest =>
    if f.1.utf8ByteSize < e.1.utf8ByteSize then e :: f :: rest else f :: place e rest

def insert (a : Autoload) (front directory : String) : Autoload :=
  ⟨place (normalize front, directory) a.directories⟩

def ofList (entries : List (String × String)) : Autoload :=
  entries.foldl (fun a e => a.insert e.1 e.2) {}

def size (a : Autoload) : Nat := a.directories.length

def isEmpty (a : Autoload) : Bool := a.directories.isEmpty

/-- The file for what is left of a class name under its namespace: one directory for each
segment. -/
def filePath (directory relative : String) : String :=
  Path.withExtension "php" ((Text.split '\\' relative).foldl Path.join directory)

/-- The file that an entry gives for a class, if it is there. -/
def candidate? (files : FileTree) (className : String) (e : String × String) : Option String := do
  let path := filePath e.2 (← Text.strip? e.1 className)
  if files.isFile path then some path else none

def findFile? (a : Autoload) (files : FileTree) (className : String) : Option String :=
  a.directories.findSome? (candidate? files (unrooted className))

end Autoload

end Introspect
