import Introspect.Files

/-! # Located sources

* `Source` — a text to look into, and where it comes from;
* `Located` — a source at hand, or a file that probably holds one;
* `Located.settle` — the source, read from its file if need be.
-/

namespace Introspect

/-- A text with its origin: a file, a built-in text, or neither. -/
structure Source where
  text : String
  origin : Option String := none
  internal : Bool := false
deriving DecidableEq, Repr

namespace Source

/-- A text that was never in a file. -/
def evaluated (text : String) : Source := { text }

/-- A text that stands in for built-in declarations. -/
def builtin (text : String) : Source := { text, internal := true }

def ofFile (path text : String) : Source := { text, origin := some path }

/-- The file, or a label in angle brackets. -/
def label (s : Source) : String :=
  match s.origin with
  | some path => path
  | none => if s.internal then "<internal>" else "<evaluated>"

end Source

/-- Reads a file as a source. -/
def readSource (files : FileTree) (path : String) : Except Error Source :=
  match files.read path with
  | .ok text => .ok (Source.ofFile path text)
  | .error reason => .error (.unreadable path reason)

/-- What a locator finds: a source, or the path of a file that it has not read. -/
inductive Located where
  | definite (source : Source)
  | potential (path : String)
deriving DecidableEq, Repr

/-- The source itself. -/
def Located.settle (files : FileTree) : Located → Except Error Source
  | definite source => .ok source
  | potential path => readSource files path

end Introspect
