import Introspect.Reflection.Declarations
import Introspect.Report.Json

/-! # Reports

* `functionText`, `classText` — what the command line says of a function or class;
* `functionJson`, `classJson` — the same as structured text;
* `namesText`, `namesJson` — lists of names.
-/

namespace Introspect.Report

/-! ## Structured text -/

def parameterJson (p : Parameter) : Json := .object [
  ("default", .ofOption .string p.defaultCode),
  ("by_reference", .bool p.byReference),
  ("promoted", .bool p.isPromoted),
  ("variadic", .bool p.isVariadic),
  ("name", .string p.name),
  ("optional", .bool p.optional),
  ("position", .number p.position),
  ("type_hint", .ofOption .string p.typeHint)]

/-- Where a declaration stands. -/
def locationFields (endLine startLine : Int) (source : Source) : List (String × Json) := [
  ("end_line", .number endLine),
  ("file", .ofOption .string source.origin),
  ("internal", .bool source.internal),
  ("start_line", .number startLine)]

def functionJson (f : Function) : Json := .object ([
  ("body", .string f.bodyCode),
  ("doc_comment", .string f.docComment),
  ("deprecated", .bool f.isDeprecated),
  ("generator", .bool f.isGenerator),
  ("returns_reference", .bool f.returnsReference)] ++
  locationFields f.endLine f.startLine f.source ++ [
  ("name", .string f.name),
  ("namespace", .string f.scope.name),
  ("parameters", .array (f.parameters.map parameterJson)),
  ("required_parameters", .number f.requiredCount),
  ("return_type", .ofOption .string f.returnType?),
  ("short_name", .string f.shortName),
  ("variadic", .bool f.isVariadic)])

def methodJson (f : Function) : Json := .object [
  ("is_abstract", .bool f.isAbstract),
  ("is_final", .bool f.isFinal),
  ("is_static", .bool f.isStatic),
  ("name", .string f.shortName),
  ("parameters", .array (f.parameters.map parameterJson)),
  ("return_type", .ofOption .string f.returnType?),
  ("visibility", .ofOption (fun v => .string v.word) f.visibility?)]

def constantJson (c : String × String) : Json := .object [
  ("name", .string c.1),
  ("value", .string c.2)]

def classJson (c : Class) : Json := .object ([
  ("constants", .array (c.constants.map constantJson)),
  ("doc_comment", .string c.docComment),
  ("interfaces", .strings c.interfaceNames),
  ("is_abstract", .bool c.isAbstract),
  ("is_final", .bool c.isFinal),
  ("kind", .string c.kind.word)] ++
  locationFields c.endLine c.startLine c.source ++ [
  ("methods", .array (c.methods.map methodJson)),
  ("name", .string c.name),
  ("namespace", .string c.scope.name),
  ("parent", .ofOption .string c.parentName?),
  ("properties", .strings c.propertyNames)])

def namesJson (rs : List Reflection) : Json := .strings (rs.map (·.name))

/-! ## Plain text -/

/-- Lines, each with its end. -/
def lines (ls : List String) : String := String.join (ls.map (· ++ "\n"))

/-- A heading with lines below it; nothing if there are none. -/
def headed (heading : String) (ls : List String) : List String :=
  if ls.isEmpty then [] else ("  " ++ heading ++ ":") :: ls.map ("    " ++ ·)

/-- A heading with the lines of a text below it; nothing if the text is empty. -/
def block (heading text : String) : List String :=
  if text == "" then [] else ("  " ++ heading ++ ":") :: (Text.lines text).map ("    " ++ ·)

def locationLine (endLine startLine : Int) (source : Source) : String :=
  s!"  source:    {source.label} (lines {startLine}-{endLine})"

/-- A parameter as it is declared. -/
def parameterSignature (p : Parameter) : String :=
  (match p.typeHint with
    | some hint => hint ++ " "
    | none => "") ++
  (if p.byReference then "&" else "") ++
  (if p.isVariadic then "..." else "") ++
  "$" ++ p.name ++
  (match p.defaultCode with
    | some code => " = " ++ code
    | none => "")

/-- A numbered parameter, with whether a caller may leave it out. -/
def parameterLine (p : Parameter) : String :=
  let need := if p.optional then "optional" else "required"
  s!"#{p.position} {parameterSignature p} ({need})"

/-- The words for what a function is, of those that hold. -/
def flags (f : Function) : List String :=
  (if f.isGenerator then ["generator"] else []) ++
  (if f.isVariadic then ["variadic"] else []) ++
  (if f.returnsReference then ["returns-reference"] else []) ++
  (if f.isDeprecated then ["deprecated"] else [])

def functionText (f : Function) : String :=
  lines (
    [s!"function {f.name}", locationLine f.endLine f.startLine f.source] ++
    (if f.scope.name == "" then [] else ["  namespace: " ++ f.scope.name]) ++
    (if (flags f).isEmpty then [] else ["  flags:     " ++ Text.joinWith ", " (flags f)]) ++
    (match f.returnType? with
      | some t => ["  returns:   " ++ t]
      | none => []) ++
    headed "parameters" (f.parameters.map parameterLine) ++
    block "doc" f.docComment ++
    block "body" f.bodyCode)

/-- A method as it is declared, without its body. -/
def methodSignature (f : Function) : String :=
  let words :=
    (if f.isAbstract then ["abstract"] else []) ++
    (if f.isFinal then ["final"] else []) ++
    [(f.visibility?.getD .everyone).word] ++
    (if f.isStatic then ["static"] else [])
  Text.joinWith " " words ++ " function " ++ f.shortName ++
    "(" ++ Text.joinWith ", " (f.parameters.map parameterSignature) ++ ")" ++
    (match f.returnType? with
      | some t => ": " ++ t
      | none => "")

def classText (c : Class) : String :=
  lines (
    [s!"{c.kind.word} {c.name}", locationLine c.endLine c.startLine c.source] ++
    (match c.parentName? with
      | some p => ["  extends:    " ++ p]
      | none => []) ++
    (if c.interfaceNames.isEmpty then []
      else ["  implements: " ++ Text.joinWith ", " c.interfaceNames]) ++
    headed "constants" (c.constants.map fun k => k.1 ++ " = " ++ k.2) ++
    headed "properties" (c.propertyNames.map ("$" ++ ·)) ++
    headed "methods" (c.methods.map methodSignature) ++
    block "doc" c.docComment)

def namesText (rs : List Reflection) : String := lines (rs.map (·.name))

/-! ## Both kinds -/

/-- The report of a description as plain text. -/
def text : Reflection → String
  | .ofClass c => classText c
  | .ofFunction f => functionText f

/-- The report of a description as structured text. -/
def json : Reflection → Json
  | .ofClass c => classJson c
  | .ofFunction f => functionJson f

end Introspect.Report
