import Introspect.Inspect

/-! # Sessions

A session looks things up, changes files and evaluated code in between, and may hold on to one
function whose body it replaces:

* `Session` — the world, the lookups, and the selected function;
* `Failure` — a failed lookup, a missing method, or that nothing is selected;
* `Session.select`, `Session.replaceBody`, `Session.register`, `Session.write` — the steps that
  change a session.
-/

namespace Introspect

/-- Why a step of a session has no answer. -/
inductive Failure where
  | error (e : Error)
  | noSuchMethod
  | nothingSelected
deriving DecidableEq, Repr

structure Session where
  world : World
  reflector : Reflector
  selected : Option Function := none

namespace Session

/-- The answer of a lookup as the answer of a step. -/
def lift : Except Error α → Except Failure α
  | .ok a => .ok a
  | .error e => .error (.error e)

def classNamed (s : Session) (name : String) : Except Failure Class :=
  lift (s.reflector.reflectClass s.world name)

def functionNamed (s : Session) (name : String) : Except Failure Function :=
  lift (s.reflector.reflectFunction s.world name)

/-- The method of a class, which must have it. -/
def methodNamed (s : Session) (className name : String) : Except Failure Function := do
  match (← s.classNamed className).method? name with
  | some f => return f
  | none => throw .noSuchMethod

/-- The function of a name, or the method of that name if a class is given. -/
def callable (s : Session) (className : Option String) (name : String) :
    Except Failure Function :=
  match className with
  | some c => s.methodNamed c name
  | none => s.functionNamed name

def current (s : Session) : Except Failure Function :=
  match s.selected with
  | some f => .ok f
  | none => .error .nothingSelected

def select (s : Session) (f : Function) : Session := { s with selected := some f }

/-- Replaces the body of the selected function. -/
def replaceBody (s : Session) (r : Replacement) : Except Failure (Function × Session) := do
  let (outcome, f) := (← s.current).overwriteBody r
  lift outcome
  return (f, s.select f)

/-- Replaces the body of the selected function by that of a closure, which must parse first. -/
def replaceByClosure (s : Session) (text : String) : Except Failure (Function × Session) :=
  match Replacement.ofClosureText text with
  | .ok r => s.replaceBody r
  | .error f => .error (.error (.unparsable f))

/-- Files evaluated code under the name of its class. -/
def register (s : Session) (className code : String) (registry : Nat := 0) : Session :=
  { s with world := s.world.register registry className code }

def write (s : Session) (path text : String) : Session :=
  { s with world := { s.world with files := s.world.files.write path text } }

def remove (s : Session) (path : String) : Session :=
  { s with world := { s.world with files := s.world.files.remove path } }

/-- The short forms of all that is at hand, with a class if one is named. -/
def inspect (s : Session) (className : Option String) : Except Failure (List String) := do
  let described := match s.selected with
    | some f =>
      f.inspect :: f.node.inspect :: f.bodyStatements.map Syntax.Node.inspect ++
        f.parameters.map Parameter.inspect
    | none => []
  let classForm ← match className with
    | some name => do pure [(← s.classNamed name).inspect]
    | none => pure []
  return s.reflector.inspect :: described ++ classForm

/-- The statements of a body as they are, one a line. -/
def rawBody (statements : List Syntax.Node) : String :=
  Text.joinWith "\n" (statements.map Syntax.Node.text)

end Session

end Introspect
