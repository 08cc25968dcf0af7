import Introspect.Reflection.Class

/-! # Declarations of a text

* `Statement`, `classify` — what a top-level statement means for the search;
* `Candidate`, `candidates` — the declarations of a parse tree, with their namespace and
  documentation;
* `Reflection`, `Candidate.describe?` — the description of a declaration.

Only top-level statements and the direct statements of a namespace with a body are searched.
-/

namespace Introspect

open Introspect.Syntax

/-- The text that a node covers. -/
def coveredText (source : String) (t : ParseTree) : String :=
  Text.slice source t.extent.startByte t.extent.endByte

/-- What a statement means for the search. -/
inductive Statement where
  | declares (kind : DeclKind)
  | opens (scope : Namespace) (body : Option ParseTree)
  | other

def classify (source : String) (t : ParseTree) : Statement :=
  match t.kind with
  | "namespace_definition" =>
    let scope := match t.childByField? "name" with
      | some name => Namespace.ofName (coveredText source name)
      | none => .global
    .opens scope (t.childByField? "body")
  | "class_declaration" | "enum_declaration" | "interface_declaration" | "trait_declaration" =>
    .declares .classLike
  | "function_definition" => .declares .function
  | _ => .other

/-- A declaration that was found, before it is described. -/
structure Candidate where
  doc : Option String
  kind : DeclKind
  scope : Namespace
  tree : ParseTree
  qualifiedName : String

/-- The candidate of a declaration, which needs a name. -/
def candidate? (source : String) (kind : DeclKind) (scope : Namespace) (doc : Option String)
    (t : ParseTree) : Option Candidate :=
  (t.childByField? "name").map fun name =>
    ⟨doc, kind, scope, t, scope.qualify (coveredText source name)⟩

/-- The declarations among the statements of a namespace with a body.  Namespaces do not nest. -/
def scopeCandidates (source : String) (scope : Namespace) (tracker : DocTracker) :
    List ParseTree → List Candidate
  | [] => []
  | t :: rest =>
    let (doc, tracker) := tracker.observe t.kind (coveredText source t)
    let more := scopeCandidates source scope tracker rest
    match classify source t with
    | .declares kind => (candidate? source kind scope doc t).toList ++ more
    | _ => more

/-- The declarations among top-level statements, the first of which stand in `scope`.  A namespace
without a body holds what follows it, up to the next namespace. -/
def topCandidates (source : String) (scope : Namespace) (tracker : DocTracker) :
    List ParseTree → List Candidate
  | [] => []
  | t :: rest =>
    let (doc, tracker) := tracker.observe t.kind (coveredText source t)
    match classify source t with
    | .declares kind =>
      (candidate? source kind scope doc t).toList ++ topCandidates source scope tracker rest
    -- A body has its own documentation, and behind it the namespace is the global one again.
    | .opens inner (some body) =>
      scopeCandidates source inner {} body.namedChildren ++
        topCandidates source .global tracker rest
    | .opens inner none => topCandidates source inner tracker rest
    | .other => topCandidates source scope tracker rest

/-- The declarations of a kind in a parse tree, in document order. -/
def candidates (root : ParseTree) (source : String) (kind : DeclKind) : List Candidate :=
  (topCandidates source .global {} root.namedChildren).filter fun c => c.kind == kind

/-! ## Descriptions -/

/-- The description of a declaration. -/
inductive Reflection where
  | ofClass (c : Class)
  | ofFunction (f : Function)

namespace Reflection

def name : Reflection → String
  | ofClass c => c.name
  | ofFunction f => f.name

def shortName : Reflection → String
  | ofClass c => c.shortName
  | ofFunction f => f.shortName

def source : Reflection → Source
  | ofClass c => c.source
  | ofFunction f => f.source

def class? : Reflection → Option Class
  | ofClass c => some c
  | ofFunction _ => none

def function? : Reflection → Option Function
  | ofClass _ => none
  | ofFunction f => some f

/-- Is the description of the given kind? -/
def hasKind : Reflection → DeclKind → Bool
  | ofClass _, kind => kind == .classLike
  | ofFunction _, kind => kind == .function

end Reflection

/-- The description of a candidate, copied out of its parse tree. -/
def Candidate.describe? (source : Source) (c : Candidate) : Option Reflection :=
  let node := Node.ofTree source.text c.tree
  match c.kind with
  | .classLike => (Class.ofNode? node source c.scope c.doc).map .ofClass
  | .function => (Function.ofNode? node source c.scope c.doc none).map .ofFunction

end Introspect
