import Introspect.Text.Basic

/-! # Namespaces

* `Namespace` — the segments of a namespace, outermost first;
* `Namespace.ofName`, `Namespace.name` — between segments and their written form;
* `Namespace.qualify` — the full name of what is declared in a namespace;
* `Namespace.resolve` — the full name of what is referred to in a namespace.
-/

namespace Introspect

/-- The namespace of a declaration; without segments it is the global one. -/
structure Namespace where
  segments : List String
deriving DecidableEq, Repr

namespace Namespace

/-- The mark between segments. -/
def separator : Char := '\\'

def global : Namespace := ⟨[]⟩

/-- Reads the segments of a written namespace; white space and empty segments do not count. -/
def ofName (name : String) : Namespace :=
  ⟨(Text.split separator (Text.squeeze name)).filter (· != "")⟩

def isGlobal (n : Namespace) : Bool := n.segments.isEmpty

/-- The segments with separators between them. -/
def name (n : Namespace) : String :=
  Text.joinWith (String.singleton separator) n.segments

/-- The full name of something declared in the namespace. -/
def qualify (n : Namespace) (shortName : String) : String :=
  if n.isGlobal then shortName else n.name ++ String.singleton separator ++ shortName

/-- The full name of something that is written in the namespace: a separator in front makes a
name absolute. -/
def resolve (n : Namespace) (written : String) : String :=
  (Text.strip? (String.singleton separator) written).getD (n.qualify written)

end Namespace

end Introspect
