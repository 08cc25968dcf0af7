import Introspect.Source
import Introspect.Locator.Autoload
import Introspect.Locator.Stubs

/-! # Locators

* `World` — the files and the registries of evaluated code that lookups see;
* `Locator` — one way to find the text that declares something;
* `Locator.ofText`, `Locator.ofFile` — locators that are refused if they could never serve;
* `Locator.locate` — what a locator finds for a query; that it finds nothing is no failure.
-/

namespace Introspect

/-- What a lookup can see besides its locators.  Evaluated code is filed in numbered registries,
which locators share. -/
structure World where
  files : FileTree
  registries : Nat → NameTable := fun _ => {}

namespace World

/-- Files evaluated code in a registry, under the name of its class. -/
def register (w : World) (registry : Nat) (className code : String) : World :=
  { w with
    registries := fun k =>
      if k = registry then (w.registries k).insert className code else w.registries k }

/-- The registry that is meant where none is named. -/
def evaluated (w : World) : NameTable := w.registries 0

end World

/-- A way to find the text that declares something.  A chain asks its members one after
another. -/
inductive Locator where
  | text (code : String)
  | file (path : String)
  | evaluated (registry : Nat := 0)
  | builtin
  | classMap (paths : NameTable)
  | autoload (directories : Autoload)
  | chain (members : List Locator)
deriving Inhabited

namespace Locator

/-- A locator for one text, which must hold more than white space. -/
def ofText (code : String) : Except Error Locator :=
  if Text.trim code == "" then .error (.invalidLocator .emptySource) else .ok (.text code)

/-- A locator for one file, which must be there. -/
def ofFile (files : FileTree) (path : String) : Except Error Locator :=
  if path == "" then .error (.invalidLocator .emptyPath)
  else if !files.exists? path then .error (.invalidLocator (.missingFile path))
  else if !files.isFile path then .error (.invalidLocator (.notAFile path))
  else .ok (.file path)

def label : Locator → String
  | text _ => "string"
  | file _ => "single_file"
  | evaluated _ => "evaled"
  | builtin => "internal"
  | classMap _ => "class_map"
  | autoload _ => "class_map"
  | chain _ => "aggregate"

/-- Does the query name one class? -/
def namesClass (i : Identifier) : Bool :=
  i.kind == .classLike && !i.isWildcard

mutual

/-- What the locator finds for a query. -/
def locate (w : World) (i : Identifier) : Locator → Except Error (Option Located)
  | text code => .ok (some (.definite (.evaluated code)))
  | file path => do return some (.definite (← readSource w.files path))
  | evaluated registry => .ok <|
      if i.kind == .classLike then
        ((w.registries registry).find? i.name).map fun code => .definite (.evaluated code)
      else none
  | builtin => .ok ((findStub? i).map fun s => .definite (.builtin s.text))
  | classMap paths => .ok (if namesClass i then (paths.find? i.name).map .potential else none)
  | autoload directories => .ok <|
      if namesClass i then (directories.findFile? w.files i.name).map .potential else none
  | chain members => locateFirst w i members

/-- What the first member finds that finds anything; a failure ends the search. -/
def locateFirst (w : World) (i : Identifier) : List Locator → Except Error (Option Located)
  | [] => .ok none
  | l :: rest => do
    match ← locate w i l with
    | some found => return some found
    | none => locateFirst w i rest

end

end Locator

end Introspect
