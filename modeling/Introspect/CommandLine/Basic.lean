import Introspect.Config.Basic
import Introspect.Report.Basic
import Introspect.CommandLine.Arguments

/-! # The command line

* `Outcome` — what a run leaves behind: exit code, output, and messages;
* `report` — the report that a command asks for;
* `commandPaths` — the paths whose files a command may read;
* `run` — reads the arguments, loads the configuration, and reports.

A lookup that finds nothing exits with 1, every other failure with 2.
-/

namespace Introspect.CommandLine

/-- What a run leaves behind. -/
structure Outcome where
  code : Nat := 0
  stdout : String := ""
  stderr : String := ""
deriving DecidableEq, Repr

def versionText : String := "phpreflect 0.1.0\n"

def helpText : String :=
  "Static reflection for PHP source\n\n" ++ usageLine ++ "\n\n" ++
  "Commands:\n" ++
  "  class     Describe a class, interface, trait or enum and its members\n" ++
  "  function  Describe a function: signature, flags, doc comment and body\n" ++
  "  list      List declarations in the source served for the wildcard identifier\n" ++
  "  help      Print this message or the help of the given subcommand(s)\n\n" ++
  "Options:\n" ++
  "      --file <PATH>  PHP file searched before the configured locators (repeatable)\n" ++
  "      --json         Output JSON instead of text\n" ++
  "      --root <ROOT>  Project root containing .phpreflect.toml [default: .]\n" ++
  "  -h, --help         Print help\n" ++
  "  -V, --version      Print version\n"

/-! ## Configuration -/

/-- The root of the project. -/
def Options.projectRoot (o : Options) : String := o.root.getD "."

/-- The configuration of the project, with the files of the command line in front. -/
def Options.config (o : Options) (files : FileTree) : Except Error Config := do
  let config ← Config.load files o.projectRoot
  return config.prependFiles (o.files.map (Path.absolute files.workingPath))

/-! ## What a run reads -/

/-- The query of a command. -/
def Command.identifier : Command → Identifier
  | .describe kind name => .ofName kind name
  | .list kind => .wildcard kind

/-- The paths that locators may look at for a query: the single files, the file of the class map,
and the file in each directory that fits the name. -/
def consultedPaths (i : Identifier) (l : Locator) : List String :=
  match l with
  | .file path => [path]
  | .classMap paths => (paths.find? i.name).toList
  | .autoload a => a.directories.filterMap fun e =>
      (Text.strip? e.1 (unrooted i.name)).map (Autoload.filePath e.2)
  | _ => []

/-- The paths that a configuration leads to for a command. -/
def commandPaths (config : Config) (command : Command) : List String :=
  config.filePaths ++
    (config.lookups.flatMap (consultedPaths command.identifier))

/-! ## Reports -/

/-- A structured report as a text of its own. -/
def jsonDocument (v : Report.Json) : String := v.pretty ++ "\n"

def describeText (json : Bool) (r : Reflection) : String :=
  if json then jsonDocument (Report.json r) else Report.text r

def listText (json : Bool) (rs : List Reflection) : String :=
  if json then jsonDocument (Report.namesJson rs) else Report.namesText rs

/-- The declaration of a kind and name. -/
def lookUp (r : Reflector) (w : World) : DeclKind → String → Except Error Reflection
  | .classLike, name => return .ofClass (← r.reflectClass w name)
  | .function, name => return .ofFunction (← r.reflectFunction w name)

/-- The report that a command asks for. -/
def report (files : FileTree) (o : Options) (command : Command) : Except Error String := do
  let config ← o.config files
  let reflector ← config.reflector files
  let world : World := { files }
  match command with
  | .describe kind name => return describeText o.json (← lookUp reflector world kind name)
  | .list kind => return listText o.json (← reflector.reflectAll world kind)

/-! ## Runs -/

/-- The exit code of a failure. -/
def exitCode (e : Error) : Nat := if e.isNotFound then 1 else 2

def Outcome.ofReport : Except Error String → Outcome
  | .ok text => { stdout := text }
  | .error e => { code := exitCode e, stderr := s!"error: {e.message}\n" }

/-- The outcome of a request. -/
def Request.outcome (files : FileTree) : Request → Outcome
  | .help => { stdout := helpText }
  | .version => { stdout := versionText }
  | .run options command => .ofReport (report files options command)

/-- Runs the program on its arguments. -/
def run (files : FileTree) (arguments : List String) : Outcome :=
  match Request.ofArguments arguments with
  | .ok request => request.outcome files
  | .error f => { code := 2, stderr := f.message }

end Introspect.CommandLine
