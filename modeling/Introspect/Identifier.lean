import Introspect.Text.Basic

/-! # Identifiers

What is looked for, and of which kind:

* `DeclKind` — classes and the like, or functions;
* `Identifier` — a kind and a qualified name without a leading separator;
* `Identifier.matchesName` — names are equal up to letter case and leading separators.
-/

namespace Introspect

/-- The kinds of declarations that can be looked up.  Interfaces, traits and enumerations count as
classes; methods are looked up in their class. -/
inductive DeclKind where
  | classLike
  | function
deriving DecidableEq, Repr

def DeclKind.label : DeclKind → String
  | classLike => "class"
  | function => "function"

/-- The name that asks for every declaration. -/
def wildcardName : String := "*"

/-- A name without the separators in front that mark it as fully qualified. -/
def unrooted (name : String) : String :=
  Text.dropLeading '\\' name

/-- The form of a name under which it is filed: without separators in front, in lower case. -/
def foldName (name : String) : String :=
  Text.foldCase (unrooted name)

/-- A query for a declaration. -/
structure Identifier where
  kind : DeclKind
  name : String
deriving DecidableEq, Repr

namespace Identifier

def ofName (kind : DeclKind) (name : String) : Identifier :=
  ⟨kind, unrooted name⟩

/-- The query for all declarations of a kind. -/
def wildcard (kind : DeclKind) : Identifier :=
  ⟨kind, wildcardName⟩

def isWildcard (i : Identifier) : Bool :=
  i.name == wildcardName

/-- Does the query ask for the declaration of this qualified name? -/
def matchesName (i : Identifier) (qualifiedName : String) : Bool :=
  Text.sameFolded i.name (unrooted qualifiedName)

/-- Kind and name, for messages. -/
def display (i : Identifier) : String :=
  s!"{i.kind.label} `{i.name}`"

end Identifier

end Introspect
