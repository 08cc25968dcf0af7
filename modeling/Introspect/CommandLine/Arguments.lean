import Introspect.Identifier
import Introspect.Text.Similarity

/-! # Command-line arguments

`[--file PATH]… [--root PATH] [--json] class NAME | function NAME | list KIND`

* `Word` — the form of an argument: option, flag letters, or plain word;
* `Command`, `Request` — what the user asks for;
* `ArgumentFault` and `ArgumentFault.message` — why arguments cannot be read;
* `Request.ofArguments` — reads the arguments.

A value of an option or command is checked when the next option is read, or at the end; a command
is read to its end before the values of the options in front of it are checked.
-/

namespace Introspect.CommandLine

/-! ## Words -/

/-- The form of an argument. -/
inductive Word where
  | separator
  | long (name : String) (value : Option String)
  | short (letters : List Char)
  | plain (text : String)
deriving DecidableEq, Repr

/-- The name of a long option, and the value after an equals sign. -/
def Word.ofLong (cs : List Char) : Word :=
  let name := String.ofList (cs.takeWhile (· != '='))
  match cs.dropWhile (· != '=') with
  | [] => .long name none
  | _ :: value => .long name (some (String.ofList value))

def Word.ofArgument (argument : String) : Word :=
  match argument.toList with
  | ['-', '-'] => .separator
  | '-' :: '-' :: cs => .ofLong cs
  | '-' :: c :: cs => .short (c :: cs)
  | _ => .plain argument

/-! ## Requests -/

/-- What to report. -/
inductive Command where
  | describe (kind : DeclKind) (name : String)
  | list (kind : DeclKind)
deriving DecidableEq, Repr

/-- Options that take a value. -/
inductive ValueOption where
  | file
  | root
deriving DecidableEq, Repr

/-- What the options in front of a command say. -/
structure Options where
  files : List String := []
  root : Option String := none
  json : Bool := false
deriving DecidableEq, Repr

/-- What the user asks for. -/
inductive Request where
  | help
  | version
  | run (options : Options) (command : Command)
deriving DecidableEq, Repr

/-! ## Faults -/

/-- Why arguments cannot be read: they have the wrong shape, a value is missing, or a value is
not one of the known ones. -/
inductive ArgumentFault where
  | usage
  | missingValue (option : ValueOption)
  | missingKind
  | unknownKind (value : String)
deriving DecidableEq, Repr

/-- An option as the help shows it. -/
def ValueOption.label : ValueOption → String
  | file => "--file <PATH>"
  | root => "--root <ROOT>"

/-- The kinds of declaration that can be listed. -/
def listKinds : List (String × DeclKind) :=
  [("classes", .classLike), ("functions", .function)]

/-- How the program is called. -/
def usageLine : String := "Usage: phpreflect [OPTIONS] <COMMAND>"

namespace ArgumentFault

def kindNames : List String := listKinds.map (·.1)

def kindsNote : String :=
  "\n  [possible values: " ++ Text.joinWith ", " kindNames ++ "]"

/-- The hint at a known kind that is like the one given. -/
def kindHint (value : String) : String :=
  match Text.closest? value kindNames with
  | some k => s!"\n\n  tip: a similar value exists: '{k}'"
  | none => ""

def reason : ArgumentFault → String
  | usage => "unexpected or missing arguments\n\n" ++ usageLine
  | missingValue o => s!"a value is required for '{o.label}' but none was supplied"
  | missingKind => "a value is required for '<KIND>' but none was supplied" ++ kindsNote
  | unknownKind value => s!"invalid value '{value}' for '<KIND>'" ++ kindsNote ++ kindHint value

def message (f : ArgumentFault) : String :=
  s!"error: {f.reason}\n\nFor more information, try '--help'.\n"

end ArgumentFault

/-! ## Reading a command -/

/-- A command by name, before its one value is known. -/
inductive Verb where
  | describe (kind : DeclKind)
  | list
deriving DecidableEq, Repr

def Verb.ofName? : String → Option Verb
  | "class" => some (.describe .classLike)
  | "function" => some (.describe .function)
  | "list" => some .list
  | _ => none

/-- The command of a verb with its value. -/
def Verb.command (v : Verb) (value : String) : Except ArgumentFault Command :=
  match v with
  | .describe kind => .ok (.describe kind value)
  | .list =>
    match listKinds.lookup value with
    | some kind => .ok (.list kind)
    | none => .error (if value == "" then .missingKind else .unknownKind value)

/-- The value that a command has so far, checked if it is there. -/
def Verb.check (v : Verb) : Option String → Except ArgumentFault Unit
  | some value => (v.command value).map fun _ => ()
  | none => .ok ()

/-- What the arguments after a verb say: a command and whether structured output is asked for
again.  The help has no command. -/
abbrev Reading := Option (Command × Bool)

/-- The end of the arguments of a command, which needs its value. -/
def Verb.finish (v : Verb) (value : Option String) (json : Bool) : Except ArgumentFault Reading :=
  match value with
  | some value => (v.command value).map fun c => some (c, json)
  | none => .error .usage

/-- After a separator all arguments are values. -/
def Verb.readPlain (v : Verb) (value : Option String) (json : Bool) :
    List String → Except ArgumentFault Reading
  | [] => v.finish value json
  | argument :: rest =>
    match value with
    | some _ => .error .usage
    | none => v.readPlain (some argument) json rest

/-- Reads the arguments after a verb. -/
def Verb.read (v : Verb) (value : Option String) (json : Bool) :
    List String → Except ArgumentFault Reading
  | [] => v.finish value json
  | argument :: rest =>
    match Word.ofArgument argument with
    | .separator => v.readPlain value json rest
    | .long "json" none => do
      v.check value
      if json then .error .usage else v.read value true rest
    | .long "help" none | .short ('h' :: _) => do
      v.check value
      return none
    | .plain text =>
      match value with
      | some _ => .error .usage
      | none => v.read (some text) json rest
    | _ => .error .usage

/-! ## Reading options -/

/-- Options read so far, with the one whose value is still awaited or unchecked. -/
structure Pending where
  options : Options := {}
  last : Option (ValueOption × Option String) := none

namespace Pending

/-- The options with one more value.  There may be many files but only one root. -/
def assign (o : Options) : ValueOption → String → Except ArgumentFault Options
  | .file, value =>
    if value == "" then .error (.missingValue .file)
    else .ok { o with files := o.files ++ [value] }
  | .root, value =>
    if o.root.isSome then .error .usage
    else if value == "" then .error (.missingValue .root)
    else .ok { o with root := some value }

/-- Checks the last value and puts it among the options. -/
def settle (p : Pending) : Except ArgumentFault Options :=
  match p.last with
  | none => .ok p.options
  | some (option, none) => .error (.missingValue option)
  | some (option, some value) => assign p.options option value

/-- An option with its value if that was attached, and without it if it is to follow. -/
def start (p : Pending) (option : ValueOption) (value : Option String) :
    Except ArgumentFault Pending := do
  let options ← p.settle
  match value with
  | some value => return { options := ← assign options option value }
  | none => return { options, last := some (option, none) }

end Pending

def ValueOption.ofName? : String → Option ValueOption
  | "file" => some .file
  | "root" => some .root
  | _ => none

/-- The request of a command after its options. -/
def Pending.finish (p : Pending) : Reading → Except ArgumentFault Request
  | none => .ok .help
  | some (command, json) => do
    let options ← p.settle
    return .run { options with json := options.json || json } command

/-- The end of arguments that name no command. -/
def Pending.abandon (p : Pending) : Except ArgumentFault Request := do
  let _ ← p.settle
  .error .usage

/-- Reads options up to a command, and then the command. -/
def Pending.read (p : Pending) : List String → Except ArgumentFault Request
  | [] => p.abandon
  | argument :: rest =>
    match Word.ofArgument argument with
    | .separator => if rest.isEmpty then p.abandon else .error .usage
    | .long "json" none => do
      let options ← p.settle
      if options.json then .error .usage
      else Pending.read { options := { options with json := true } } rest
    | .long "version" none | .short ('V' :: _) => do
      let _ ← p.settle
      return .version
    | .long "help" none | .short ('h' :: _) => do
      let _ ← p.settle
      return .help
    | .long name value =>
      match ValueOption.ofName? name with
      | some option => do Pending.read (← p.start option value) rest
      | none => .error .usage
    | .short _ => .error .usage
    | .plain text =>
      match p.last with
      | some (option, none) => Pending.read { p with last := some (option, some text) } rest
      | _ =>
        match Verb.ofName? text with
        | some v => do p.finish (← v.read none false rest)
        | none => if text == "help" then .ok .help else .error .usage

/-- Reads the arguments of the program. -/
def Request.ofArguments (arguments : List String) : Except ArgumentFault Request :=
  Pending.read {} arguments

end Introspect.CommandLine
