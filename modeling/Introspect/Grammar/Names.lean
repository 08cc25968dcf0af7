import Introspect.Grammar.Parser

/-! # Names and variables

* `Rule`, `Rules` — the recursive parts of the grammar, through which its other parts refer to
  each other;
* `reservedWords`, `reservedForClasses` — words that do not name functions or classes;
* `Parser.symbolName`, `Parser.className` — a plain, qualified or relative name;
* `Parser.variableName`, `Parser.simpleVariable` — variables, their names computed or not;
* `Parser.place`, `Parser.reference` — what may be assigned to, and references to it.
-/

namespace Introspect.Grammar

open Introspect.Syntax

/-- The recursive parts of the grammar.  An expression takes the least binding strength that its
operators may have.  An item is an expression, or a pattern that only a pattern may contain. -/
inductive Rule where
  | expression (level : Nat)
  | item
  | unary
  | primary
  | statement
  | block
deriving DecidableEq, Repr

abbrev Rules := Rule → Parser ParseTree

/-! ## Reserved words -/

/-- Words that name no function. -/
def reservedWords : List String := [
  "abstract", "and", "as", "break", "callable", "case", "catch", "class", "clone", "const",
  "continue", "declare", "default", "do", "echo", "else", "elseif", "enddeclare", "endfor",
  "endforeach", "endif", "endswitch", "endwhile", "extends", "final", "finally", "fn", "for",
  "foreach", "function", "global", "goto", "if", "implements", "include", "include_once",
  "instanceof", "insteadof", "interface", "match", "namespace", "new", "or", "print", "private",
  "protected", "public", "readonly", "require", "require_once", "return", "static", "switch",
  "throw", "trait", "try", "use", "var", "while", "xor", "yield"]

/-- Words that name no class: those above and the names of types. -/
def reservedForClasses : List String := reservedWords ++ [
  "bool", "false", "float", "int", "iterable", "mixed", "never", "null", "object", "string",
  "true", "void"]

namespace Parser

/-! ## Looking further ahead -/

/-- Position of the first token from `i` on. -/
def tokenFrom (i : Nat) : Parser Nat := do
  let ctx ← read
  return (aheadFrom { ctx with auto := false } (ctx.input.size + 2 - i) i []).pos

/-- The mark behind the word that comes next. -/
def markAfterWord : Parser String := do
  let input := (← read).input
  return input.operatorAt (← tokenFrom (input.nameEnd (← next)))

/-- The word behind the word that comes next. -/
def wordAfterWord : Parser String := do
  let input := (← read).input
  return input.wordAt (← tokenFrom (input.nameEnd (← next)))

/-- The mark behind the mark of `width` characters that comes next. -/
def markAfter (width : Nat) : Parser String := do
  return (← read).input.operatorAt (← tokenFrom ((← next) + width))

/-- The answer of `p`, after which reading goes on where it stood; false if `p` fails. -/
def lookahead (p : Parser Bool) : Parser Bool := do
  let s ← get
  let b ← p <|> pure false
  set s
  return b

/-- Does a name come next? -/
def nextIsName : Parser Bool := do
  let input := (← read).input
  let i ← next
  return i < input.nameEnd i

/-! ## Names -/

/-- Puts all segments of a qualified name but the last into a node of their own. -/
def groupNamespace : ParseTree → ParseTree
  | .node kind named f extent children =>
    let isName := fun (t : ParseTree) => t.kind == "name"
    let front := children.takeWhile fun t => !isName t
    match (children.dropWhile fun t => !isName t).reverse with
    | [] => .node kind named f extent children
    | last :: before =>
      let gap := (before.takeWhile fun t => !isName t).reverse
      match (before.dropWhile fun t => !isName t).reverse with
      | [] => .node kind named f extent (front ++ gap ++ [last])
      | first :: more =>
        let final := more.getLastD first
        let inner := ParseTree.node "namespace_name" true (some "prefix")
          ⟨first.extent.startByte, final.extent.endByte, first.extent.startRow,
            final.extent.endRow⟩ (first :: more)
        .node kind named f extent (front ++ inner :: gap ++ [last])

/-- Adds the segments of a name behind its first one. -/
def moreSegments : Parser Unit :=
  repeatWhile (nextIs "\\") do
    mark "\\"
    child (name [])

/-- Adds the segments of a name behind a leading separator.  A second separator may come before
the only segment, which then must be free to name a class. -/
def rootedSegments : Parser Unit := do
  mark "\\"
  if ← nextIs "\\" then
    mark "\\"
    child (name reservedForClasses)
  else
    child (name [])
    moreSegments

/-- A name: plain, or qualified by a namespace. -/
def importedName : Parser ParseTree := do
  settle
  if ← nextIs "\\" then
    return groupNamespace (← build "qualified_name" rootedSegments)
  else
    let first ← name []
    if ← nextIs "\\" then
      return groupNamespace (← extend first (do moreSegments; return "qualified_name"))
    else return first

/-- A name: plain, qualified by a namespace, or relative to the current namespace. -/
def symbolName : Parser ParseTree := do
  settle
  if ← nextWordIs "namespace" then
    return groupNamespace (← build "relative_name" (do
      keyword "namespace"
      mark "\\"
      child (name [])
      moreSegments))
  else importedName

/-- The name of a class.  The word for the class at hand is one by itself. -/
def className : Parser ParseTree := do
  settle
  if ← nextWordIs "static" then name [] else symbolName

/-- The segments of a namespace. -/
def namespaceName : Parser ParseTree :=
  build "namespace_name" do
    child (name [])
    repeatWhile (do
      if ← nextIs "\\" then
        let input := (← read).input
        let i ← tokenFrom ((← next) + 1)
        return i < input.nameEnd i
      else return false) do
        mark "\\"
        child (name [])

/-! ## Variables -/

/-- A variable with a written name. -/
def variableName : Parser ParseTree :=
  build "variable_name" do
    mark "$"
    child (name [])

def simpleVariableFor (rules : Rules) : Nat → Parser ParseTree
  | 0 => failure
  | fuel + 1 =>
    variableName <|> build "dynamic_variable_name" do
      mark "$"
      if ← nextIs "\x7b" then
        bracketed "\x7b" "\x7d" (child (rules (.expression 0)))
      else child (simpleVariableFor rules fuel)

/-- A variable whose name is written, held by another variable, or computed. -/
def simpleVariable (rules : Rules) : Parser ParseTree := do
  simpleVariableFor rules (← rounds)

/-! ## What may be assigned to -/

/-- Kinds of expressions that denote a place. -/
def placeKinds : List String := [
  "variable_name", "dynamic_variable_name", "subscript_expression", "member_access_expression",
  "nullsafe_member_access_expression", "scoped_property_access_expression",
  "member_call_expression", "nullsafe_member_call_expression", "function_call_expression",
  "scoped_call_expression"]

mutual

/-- Does the expression denote a place?  A conversion of a place does. -/
def isPlace : ParseTree → Bool
  | .node kind _ _ _ children =>
    placeKinds.contains kind || (kind == "cast_expression" && holdsPlace children)

/-- Does one of the trees denote a place? -/
def holdsPlace : List ParseTree → Bool
  | [] => false
  | t :: rest => isPlace t || holdsPlace rest

end

/-- A place.  In front of it only a conversion may stand. -/
def place (rules : Rules) : Parser ParseTree := do
  withAuto false settle
  let t ← rules (if ← nextIs "(" then .unary else .primary)
  guard (isPlace t)
  return t

/-- A reference to a place. -/
def reference (rules : Rules) : Parser ParseTree :=
  build "by_ref" do
    mark "&"
    child (place rules)

/-- The mark of a reference. -/
def referenceModifier : Parser ParseTree :=
  build "reference_modifier" (mark "&")

end Parser

end Introspect.Grammar
