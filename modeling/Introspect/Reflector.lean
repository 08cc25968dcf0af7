import Introspect.Locator.Basic
import Introspect.Reflection.Declarations

/-! # Lookups

* `resolveAll`, `resolveOne` — the descriptions in a source, and the one that a query asks for;
* `Reflector` — a locator with a limit on the size of what it finds;
* `Reflector.reflect`, `Reflector.reflectAll`, `Reflector.has` — lookups;
* `Reflector.parentOf`, `Reflector.classOf`, … — lookups that start from a description.

Nothing is kept between lookups: each one locates and parses anew.
-/

namespace Introspect

/-- The largest source that is read unless a limit is set: 16 mebibytes. -/
def defaultLimit : Nat := 16 * 1024 * 1024

/-! ## In one source -/

/-- The declarations of a kind in a source that is not too large and can be parsed. -/
def sourceCandidates (limit : Nat) (source : Source) (kind : DeclKind) :
    Except Error (List Candidate) :=
  if limit < source.text.utf8ByteSize then
    .error (.tooLarge source.text.utf8ByteSize limit source.label)
  else
    match Grammar.parse source.text source.label with
    | .ok parsed => .ok (candidates parsed.tree source.text kind)
    | .error failure => .error (.unparsable failure)

/-- The descriptions of all declarations of a kind. -/
def resolveAll (limit : Nat) (source : Source) (kind : DeclKind) :
    Except Error (List Reflection) := do
  return (← sourceCandidates limit source kind).filterMap (·.describe? source)

/-- The description of the first declaration that a query matches. -/
def resolveOne (limit : Nat) (source : Source) (i : Identifier) :
    Except Error (Option Reflection) := do
  let found := (← sourceCandidates limit source i.kind).find? fun c => i.matchesName c.qualifiedName
  return found.bind (·.describe? source)

/-! ## Through locators -/

/-- A locator, and the largest source it may serve. -/
structure Reflector where
  locator : Locator
  limit : Nat := defaultLimit

namespace Reflector

/-- The description that a query asks for, if there is one. -/
def reflect? (r : Reflector) (w : World) (i : Identifier) : Except Error (Option Reflection) := do
  match ← r.locator.locate w i with
  | none => return none
  | some located => resolveOne r.limit (← located.settle w.files) i

/-- The description that a query asks for; that there is none is a failure. -/
def reflect (r : Reflector) (w : World) (i : Identifier) : Except Error Reflection := do
  match ← r.reflect? w i with
  | some found => return found
  | none => throw (.notFound i)

def has (r : Reflector) (w : World) (i : Identifier) : Except Error Bool := do
  return (← r.reflect? w i).isSome

def reflectClass (r : Reflector) (w : World) (name : String) : Except Error Class := do
  let i := Identifier.ofName .classLike name
  match (← r.reflect w i).class? with
  | some c => return c
  | none => throw (.notFound i)

def reflectFunction (r : Reflector) (w : World) (name : String) : Except Error Function := do
  let i := Identifier.ofName .function name
  match (← r.reflect w i).function? with
  | some f => return f
  | none => throw (.notFound i)

/-- All declarations of a kind in the source that serves the query for everything; none if
there is no such source. -/
def reflectAll (r : Reflector) (w : World) (kind : DeclKind) : Except Error (List Reflection) := do
  match ← r.locator.locate w (.wildcard kind) with
  | none => return []
  | some located => resolveAll r.limit (← located.settle w.files) kind

/-! ### From descriptions -/

/-- The class of a name, if there is a name. -/
def reflectClass? (r : Reflector) (w : World) : Option String → Except Error (Option Class)
  | some name => do return some (← r.reflectClass w name)
  | none => return none

/-- The class that a class extends. -/
def parentOf (r : Reflector) (w : World) (c : Class) : Except Error (Option Class) :=
  r.reflectClass? w c.parentName?

/-- The class that the type of a parameter names. -/
def classOf (r : Reflector) (w : World) (p : Parameter) : Except Error (Option Class) :=
  r.reflectClass? w p.className?

/-- The class that declares a method. -/
def declaringClass (r : Reflector) (w : World) (f : Function) : Except Error (Option Class) :=
  r.reflectClass? w f.declaringClassName?

/-- The classes above `c`, at most `steps` of them, with what ends the climb: a class that cannot be
looked up, or nothing at the top or after the last step. -/
def ancestry (r : Reflector) (w : World) : Nat → Class → List Class × Option (Except Error Unit)
  | 0, _ => ([], none)
  | steps + 1, c =>
    match r.parentOf w c with
    | .ok (some parent) =>
      let (more, stop) := r.ancestry w steps parent
      (parent :: more, stop)
    | .ok none => ([], some (.ok ()))
    | .error e => ([], some (.error e))

end Reflector

end Introspect
