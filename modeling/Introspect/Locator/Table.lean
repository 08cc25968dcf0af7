import Introspect.Identifier

/-! # Tables by name

* `NameTable` — one text per name, where names are equal up to letter case and leading separators;
  it files the code of evaluated classes, and the files of classes;
* `NameTable.insert`, `NameTable.find?` — the last text filed under a name counts.
-/

namespace Introspect

/-- Texts by folded name, latest first, at most one for each name. -/
structure NameTable where
  entries : List (String × String) := []
deriving DecidableEq, Repr

namespace NameTable

/-- Files a text under a name, in place of any text filed there before. -/
def insert (t : NameTable) (name text : String) : NameTable :=
  ⟨(foldName name, text) :: t.entries.filter fun e => e.1 != foldName name⟩

def find? (t : NameTable) (name : String) : Option String :=
  (t.entries.find? fun e => e.1 == foldName name).map (·.2)

def size (t : NameTable) : Nat := t.entries.length

def isEmpty (t : NameTable) : Bool := t.entries.isEmpty

def ofList (entries : List (String × String)) : NameTable :=
  entries.foldl (fun t e => t.insert e.1 e.2) {}

end NameTable

end Introspect
