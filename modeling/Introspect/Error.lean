import Introspect.Identifier

/-! # Errors

Every way in which an operation can fail, with the facts that its message needs:

* `ReadFailure` — why a file cannot be read;
* `BodyFailure` — why a body cannot be replaced;
* `LocatorFault` — why a locator cannot be built;
* `Error` and `Error.message` — all failures and their wording.
-/

namespace Introspect

/-- Why a file cannot be read as text. -/
inductive ReadFailure where
  | missing
  | throughFile
  | directory
  | notText
deriving DecidableEq, Repr

def ReadFailure.message : ReadFailure → String
  | missing => "No such file or directory (os error 2)"
  | throughFile => "Not a directory (os error 20)"
  | directory => "Is a directory (os error 21)"
  | notText => "stream did not contain valid UTF-8"

/-- A text that is in neither dialect, by its origin and its first characters. -/
structure ParseFailure where
  origin : String
  snippet : String
deriving DecidableEq, Repr

def ParseFailure.message (f : ParseFailure) : String :=
  s!"parse failed: {f.origin}: near `{f.snippet}`"

/-- Why the body of a function cannot be replaced. -/
inductive BodyFailure where
  | noStatements
  | noBody
  | unparsable (failure : ParseFailure)
  | noClosure (kind : String)
  | bodilessClosure
deriving DecidableEq, Repr

def BodyFailure.message : BodyFailure → String
  | noStatements => "replacement contains no statements"
  | noBody => "declaration has no body"
  | unparsable f => "replacement does not parse: " ++ f.message
  | noClosure kind => s!"expected a closure, got `{kind}`"
  | bodilessClosure => "closure has no body"

/-- Why a locator can never serve anything. -/
inductive LocatorFault where
  | emptySource
  | emptyPath
  | missingFile (path : String)
  | notAFile (path : String)
deriving DecidableEq, Repr

def LocatorFault.message : LocatorFault → String
  | emptySource => "source code string was empty"
  | emptyPath => "file name was empty"
  | missingFile path => s!"file does not exist: {path}"
  | notAFile path => s!"not a file: {path}"

/-- All failures.  That nothing matches a query is a failure only where the caller asked for
one declaration. -/
inductive Error where
  | bodyReplacement (function : String) (reason : BodyFailure)
  | configNotFound (path : String)
  | notFound (identifier : Identifier)
  | invalidLocator (reason : LocatorFault)
  | unreadable (path : String) (reason : ReadFailure)
  | unparsable (failure : ParseFailure)
  | tooLarge (size limit : Nat) (origin : String)
  | malformedConfig
deriving DecidableEq, Repr

namespace Error

def message : Error → String
  | bodyReplacement function reason => s!"cannot replace body of `{function}`: {reason.message}"
  | configNotFound path => s!"config not found: {path}"
  | notFound identifier => s!"{identifier.display} not found"
  | invalidLocator reason => s!"invalid locator configuration: {reason.message}"
  | unreadable path reason => s!"io: {path}: {reason.message}"
  | unparsable failure => failure.message
  | tooLarge size limit origin => s!"source too large ({size} bytes, max {limit}): {origin}"
  | malformedConfig => "toml deserialize:"

/-- Did the lookup go through and find nothing? -/
def isNotFound : Error → Bool
  | notFound _ => true
  | _ => false

end Error

end Introspect
