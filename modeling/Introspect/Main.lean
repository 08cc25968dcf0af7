import Introspect.CommandLine.Basic

/-! # The program

Reads the files that the arguments lead to, runs the command line on them, and prints the outcome:

* `observe` — what stands at a path and on the way to it;
* `snapshot` — the files that a run may read;
* `main`.
-/

namespace Introspect

/-- What stands at a path. -/
def entryOf? (path : String) : IO (Option Entry) := do
  let place := (← IO.currentDir) / path
  if ← place.isDir then return some .directory
  if !(← place.pathExists) then return none
  return some (.ofBytes (← IO.FS.readBinFile place))

/-- A path and all that lead to it. -/
def leadingPaths (path : String) : List String :=
  let pieces := Path.pieces path
  (List.range pieces.length).map fun n => Text.joinWith "/" (pieces.take (n + 1))

/-- Adds what stands at a path and on the way to it. -/
def observe (t : FileTree) (path : String) : IO FileTree :=
  (leadingPaths path).foldlM
    (fun t p => do
      if (t.entryAt? (t.placeOf p)).isSome then return t
      match ← entryOf? (if p == "" then "/" else p) with
      | some e => return t.put p e
      | none => return t)
    t

/-- No files but the working directory. -/
def bareTree : IO FileTree := do
  return .empty ((Path.pieces (toString (← IO.currentDir))).filter fun p => !Path.isIdle p)

/-- The files that a run may read. -/
def snapshot (options : CommandLine.Options) (command : CommandLine.Command) : IO FileTree := do
  let t ← observe (← bareTree) (Path.join options.projectRoot configFileName)
  match options.config t with
  | .ok config => (CommandLine.commandPaths config command).foldlM observe t
  | .error _ => return t

end Introspect

/-- Runs the program. -/
def main (arguments : List String) : IO UInt32 := do
  let files ← match Introspect.CommandLine.Request.ofArguments arguments with
    | .ok (.run options command) => Introspect.snapshot options command
    | _ => Introspect.bareTree
  let outcome := Introspect.CommandLine.run files arguments
  (← IO.getStdout).putStr outcome.stdout
  (← IO.getStderr).putStr outcome.stderr
  return outcome.code.toUInt32
