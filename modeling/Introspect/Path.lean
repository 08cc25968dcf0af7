import Introspect.Text.Basic

/-! # Paths

A path is kept as it is written, because messages and reports show it.

* `Path.join` — one path under another;
* `Path.parent?` — the directory of a path;
* `Path.withExtension` — another ending for the file name;
* `Path.absolute` — a path from the root, given the working directory.
-/

namespace Introspect.Path

/-- The pieces between slashes, empty ones included. -/
def pieces (path : String) : List String := Text.split '/' path

def isAbsolute (path : String) : Bool := Text.startsWith path "/"

/-- The path `b` seen from `a`; an absolute `b` stands for itself. -/
def join (a b : String) : String :=
  if isAbsolute b then b
  else if a == "" || a.toList.getLast? == some '/' then a ++ b
  else a ++ "/" ++ b

/-- Pieces that name nothing: empty ones, and the point for the directory itself. -/
def isIdle (piece : String) : Bool := piece == "" || piece == "."

/-- The pieces of a path, last first, from the last one that names something. -/
def namedPieces (path : String) : List String :=
  (pieces path).reverse.dropWhile isIdle

/-- The path from its pieces, last first. -/
def ofPieces (reversed : List String) : String :=
  Text.joinWith "/" reversed.reverse

/-- The path without idle pieces at its end.  A leading slash or point stays. -/
def trimEnd (path : String) : String :=
  match namedPieces path with
  | [] =>
    if isAbsolute path then "/"
    else if (pieces path).head? == some "." then "."
    else ""
  | ps => ofPieces ps

/-- The directory that holds what the path names; nothing if it names none. -/
def parent? (path : String) : Option String :=
  match namedPieces path with
  | [] => if !isAbsolute path && (pieces path).head? == some "." then some "" else none
  | [_] => some ""
  | _ :: rest =>
    let front := ofPieces rest
    some (trimEnd (if front == "" then "/" else front))

/-- A file name without its extension.  A point in front does not start one. -/
def stem (fileName : String) : String :=
  match fileName.toList.reverse.dropWhile (· != '.') with
  | [] => fileName
  | _ :: front => if front.isEmpty then fileName else String.ofList front.reverse

/-- The path with another extension.  A path that names no file is left alone. -/
def withExtension (extension path : String) : String :=
  match namedPieces path with
  | [] => path
  | fileName :: front =>
    if fileName == ".." then path
    else ofPieces ((stem fileName ++ "." ++ extension) :: front)

/-- The path from the root on, without idle pieces; a slash at the end stays. -/
def absolute (workingDirectory path : String) : String :=
  let named := (pieces path).filter fun p => !isIdle p
  let base :=
    if !isAbsolute path then workingDirectory
    else if Text.startsWith path "//" && !Text.startsWith path "///" then "//"
    else "/"
  let full := named.foldl join base
  if path.toList.getLast? == some '/' then join full "" else full

end Introspect.Path
