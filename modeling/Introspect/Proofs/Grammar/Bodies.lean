import Introspect.Grammar.Source
import Introspect.Reflection.Function
import Introspect.Proofs.Grammar.Parameters

/-! # Bodies and parameters as the grammar reads them

What a declaration has in its field for a body is read in braces, so that a copy does not keep it as
one leaf; and what a function has in its field for parameters is read as a list of them:

* `Opened`, `Parts` — a tree that is no leaf of a copy, and what holds of the body and the parameters
  of a declaration;
* `OpenFunction`, `OpenDeclaration`, `OpenStatement` — functions by themselves, in classes, and in
  namespaces;
* `grammar_open` — the rules for blocks and statements, by induction on their nesting;
* `openStatement_of_parse` — the statements of a text.
-/

namespace Introspect.Grammar

open Introspect.Syntax

/-! ## Bodies -/

/-- A copy keeps the tree with its children. -/
def Opened (t : ParseTree) : Prop := Node.isLeaf t = false

/-- As a body the tree satisfies `r`, and as a list of parameters it gives no default value for all
remaining arguments. -/
structure AsPart (r : ParseTree → Prop) (t : ParseTree) : Prop where
  body : t.field = some "body" → r t
  parameters : t.field = some "parameters" → ∀ p ∈ t.children, Parser.RestIsBare p

def Parts (r : ParseTree → Prop) (t : ParseTree) : Prop := ∀ c ∈ t.children, AsPart r c

def OpenFunction (t : ParseTree) : Prop := t.kind ∈ functionKinds → Parts Opened t

/-- The body is opened, and so are those of the functions and methods directly in it. -/
structure OpenBody (body : ParseTree) : Prop where
  opened : Opened body
  functions : ∀ m ∈ body.children, OpenFunction m

/-- Kinds of nodes that declare a class. -/
def classKinds : List String := [
  "class_declaration", "enum_declaration", "interface_declaration", "trait_declaration"]

def OpenDeclaration (t : ParseTree) : Prop :=
  t.kind ∈ functionKinds ++ classKinds → Parts OpenBody t

structure OpenStatement (t : ParseTree) : Prop where
  declaration : OpenDeclaration t
  scope : t.kind = "namespace_definition" → Parts (fun b => ∀ d ∈ b.children, OpenDeclaration d) t

theorem Parts.mono {r r' : ParseTree → Prop} {t : ParseTree} (h : Parts r t)
    (weaker : ∀ b, r b → r' b) : Parts r' t :=
  fun c child => ⟨fun isBody => weaker c ((h c child).body isBody), (h c child).parameters⟩

theorem OpenDeclaration.function {t : ParseTree} (h : OpenDeclaration t) : OpenFunction t :=
  fun isFunction => (h (List.mem_append_left _ isFunction)).mono fun _ body => body.opened

/-- A statement that is neither a declaration nor a namespace. -/
theorem openStatement_of_kind {t : ParseTree}
    (other : t.kind ∉ "namespace_definition" :: (functionKinds ++ classKinds)) :
    OpenStatement t := by
  rw [List.mem_cons, not_or] at other
  exact ⟨fun declares => absurd declares other.2, fun opens => absurd opens other.1⟩

namespace Parser

theorem loose_openStatement : Loose OpenStatement := by
  intro t _ token
  rcases token with childless | page
  · constructor <;> intro _ <;> simp [Parts, childless]
  · exact openStatement_of_kind (by rw [page]; decide)

theorem loose_openDeclaration : Loose OpenDeclaration :=
  fun t bare token => (loose_openStatement t bare token).declaration

theorem loose_openFunction : Loose OpenFunction :=
  fun t bare token => (loose_openDeclaration t bare token).function

theorem reads_build_other {kind : String}
    (other : kind ∉ "namespace_definition" :: (functionKinds ++ classKinds)) (p : Parser Unit) :
    Reads OpenStatement (build kind p) := by
  refine ⟨fun ctx s t s' ran => ?_, adds_buildWith loose_openStatement _⟩
  exact openStatement_of_kind (by rw [kind_build kind p ran]; exact other)

section

variable {r : ParseTree → Prop}

theorem aboutFields_part : AboutFields ["body", "parameters"] (AsPart r) :=
  fun _ elsewhere => ⟨fun isBody => absurd isBody (elsewhere "body" (by simp)),
    fun isList => absurd isList (elsewhere "parameters" (by simp))⟩

theorem adds_body {p : Parser ParseTree} (inner : ∀ ⦃q⦄, Loose q → Adds q p) (fits : Answers r p)
    (stable : ∀ t : ParseTree, r t → r (t.withField "body")) :
    Adds (AsPart r) (field "body" p) := by
  refine adds_field (inner aboutFields_part.loose) fun ctx s t s' ran => ?_
  refine ⟨fun _ => stable _ (fits ran), fun isList => ?_⟩
  rw [field_withField] at isList
  exact absurd isList (by decide)

theorem adds_parameters (rules : Rules) :
    Adds (AsPart r) (field "parameters" (parameters rules)) := by
  refine adds_field (adds_buildWith aboutFields_part.loose _) fun ctx s t s' ran => ?_
  refine ⟨fun isBody => ?_, fun _ => ?_⟩
  · rw [field_withField] at isBody
    exact absurd isBody (by decide)
  · rw [children_withField]
    exact restIsBare_parameters rules ran

/-- Braces stand in a block, if nothing else does. -/
theorem opened_build {kind : String} {p : Parser Unit} (composite : kind ∉ atomicKinds)
    (fills : Fills p) : Answers Opened (build kind p) := by
  intro ctx s t s' ran
  have ofKind := kind_build kind p ran
  have children := children_build_ne_nil fills ran
  simp [Opened, Node.isLeaf, ofKind, composite, children]

end

/-! ## Functions and classes -/

/-- The rule reads blocks in braces. -/
structure ReadsBlocks (p : Parser ParseTree) : Prop where
  body : Answers OpenBody p
  declarations : Answers (fun b => ∀ d ∈ b.children, OpenDeclaration d) p
  kind : Answers (fun b => b.kind = "compound_statement") p
  adds : ∀ ⦃q⦄, Loose q → Adds q p

theorem openBody_withField {t : ParseTree} (name : String) (h : OpenBody t) :
    OpenBody (t.withField name) := by
  cases t
  exact ⟨h.opened, h.functions⟩

theorem adds_returnType {q : ParseTree → Prop} {names : List String} (about : AboutFields names q)
    (elsewhere : "return_type" ∉ names) : Adds q returnType := by
  have loose := about.loose
  refine (looks_nextIs ":").adds.bind fun _ => AddsFor.ite ?_ (looks_pure _).adds
  refine (adds_mark loose ":").bind fun _ => (looks_nextWordIs _).adds.bind fun _ =>
    AddsFor.ite (about.adds_field elsewhere ?_) (about.adds_field elsewhere (adds_typeExpr loose))
  exact (adds_settle loose).bind fun _ => looks_read.adds.bind fun _ => looks_get.adds.bind fun _ =>
    adds_takeTo _ _ _

theorem adds_modifiers {q : ParseTree → Prop} {names : List String} (about : AboutFields names q) :
    Adds q modifiers := by
  refine adds_repeatWhile (looks_nextWord.bind fun _ => looks_pure _) (Reads.child ?_)
  refine .bind (adds_settle about.loose) fun _ => .bind looks_nextWord.adds fun _ =>
    .ite ?_ (.ite ?_ ?_)
  · exact about.reads_buildWith _
  · exact .bind looks_read.adds fun _ => .bind looks_get.adds fun _ =>
      about.loose.reads_takeTo _ _ _
  · exact .bind (looks_guard _).adds fun _ => about.reads_buildWith _

theorem adds_bases {q : ParseTree → Prop} {names : List String} (about : AboutFields names q)
    (w kind : String) : Adds q (bases w kind) :=
  (looks_nextWordIs w).adds.bind fun _ =>
    .ite (about.reads_buildWith _).child (looks_pure _).adds

theorem adds_classBases {q : ParseTree → Prop} {names : List String} (about : AboutFields names q) :
    Adds q classBases :=
  (adds_bases about _ _).bind fun _ => adds_bases about _ _

theorem adds_backingType {q : ParseTree → Prop} {names : List String} (about : AboutFields names q) :
    Adds q backingType := by
  have loose := about.loose
  refine (looks_nextIs ":").adds.bind fun _ => .ite ?_ (looks_pure _).adds
  exact (adds_mark loose _).bind fun _ => (adds_gather loose).bind fun _ => looks_read.adds.bind
    fun _ => looks_get.adds.bind fun _ => (looks_guard _).adds.bind fun _ => adds_token loose _ _ _

theorem reads_expressionStatement (rules : Rules) :
    Reads OpenStatement (expressionStatement rules) :=
  reads_build_other (by decide) _

theorem looks_nextSpells (w : String) : Looks (nextSpells w) :=
  looks_read.bind fun _ => looks_next.bind fun _ => looks_pure _

theorem kind_declaration (rules : Rules) :
    Answers (fun t => t.kind ≠ "namespace_definition") (declaration rules) := by
  refine kind_buildWith (r := (· ≠ "namespace_definition")) (.bind fun _ => .bind fun _ => ?_)
  split
  · exact .bind fun _ => .bind fun _ => answers_pure (by decide)
  · exact .bind fun _ => .bind fun _ => .bind fun _ => .bind fun _ => answers_pure (by decide)
  · exact .bind fun _ => .bind fun _ => .bind fun _ => answers_pure (by decide)
  · exact .bind fun _ => .bind fun _ => .bind fun _ => .bind fun _ => .bind fun _ =>
      answers_pure (by decide)
  · refine .bind fun _ => .bind fun _ => .ite ?_ ?_
    · exact .bind fun _ => answers_pure (by decide)
    · exact .bind fun _ => .bind fun _ => .bind fun _ => .bind fun _ => answers_pure (by decide)

/-- A block is open, and what is asked of its statements holds of all that is in it. -/
theorem readsBlocks_block {rules : Rules} (statements : Reads OpenDeclaration (rules .statement)) :
    ReadsBlocks (block rules) := by
  have inner : Answers (fun b => ∀ d ∈ b.children, OpenDeclaration d) (block rules) :=
    children_build ((adds_bracketed loose_openDeclaration
      (adds_itemsUntil _ statements.child) _ _).withColonBranch false)
  have fills := (fills_bracketed "\x7b" "\x7d"
    (itemsUntil "\x7d" (child (rules .statement)))).withColonBranch false
  refine ⟨fun ctx s t s' ran => ⟨opened_build (by decide) fills ran, ?_⟩, inner, kind_build _ _,
    fun _ loose => adds_buildWith loose _⟩
  exact fun m member => (inner ran m member).function

section

variable {rules : Rules} (blocks : ReadsBlocks (rules .block))
include blocks

theorem adds_blockBody : Adds (AsPart OpenBody) (field "body" (rules .block)) :=
  adds_body blocks.adds blocks.body fun _ => openBody_withField "body"

theorem adds_functionRest : Adds (AsPart OpenBody) (functionRest rules) := by
  have about := aboutFields_part (r := OpenBody)
  refine (looks_nextIs "&").adds.bind fun _ =>
    AddsFor.stepIf (about.reads_buildWith _).child fun _ => ?_
  exact (about.adds_field (by decide) (adds_name about.loose _)).bind fun _ =>
    (adds_parameters rules).bind fun _ =>
    (adds_returnType about (by decide)).bind fun _ => adds_blockBody blocks

theorem adds_method : Adds (AsPart OpenBody) (method rules) := by
  have about := aboutFields_part (r := OpenBody)
  refine (adds_keyword about.loose _).bind fun _ => (looks_nextIs "&").adds.bind fun _ =>
    AddsFor.stepIf (about.reads_buildWith _).child fun _ => ?_
  refine (about.adds_field (by decide) (adds_name about.loose _)).bind fun _ =>
    (adds_parameters rules).bind fun _ =>
    (adds_returnType about (by decide)).bind fun _ => ((looks_nextIs _).withAuto true).adds.bind
    fun _ => AddsFor.ite (adds_blockBody blocks) (adds_semicolon about.loose)

theorem reads_member (enumeration : Bool) : Reads OpenFunction (member rules enumeration) := by
  have about := aboutFields_part (r := OpenBody)
  refine .bind (adds_settle loose_openFunction) fun _ => .bind (looks_nextWordIs _).adds fun _ =>
    .ite ?_ ⟨?_, adds_buildWith loose_openFunction _⟩
  · refine ⟨fun ctx s t s' ran isFunction => ?_, adds_buildWith loose_openFunction _⟩
    rw [kind_build _ _ ran] at isFunction
    exact absurd isFunction (by decide)
  · suffices whole : Answers (fun t => t.kind ∈ functionKinds → Parts OpenBody t) _ from
      fun _ _ _ _ ran isFunction => (whole ran isFunction).mono fun _ body => body.opened
    refine AddsFor.children ((about.adds_attributes (by decide) rules).bind fun _ =>
      looks_nextWord.adds.bind fun _ => .ite ?_ ?_)
    · exact Answers.addsFor (.bind fun _ => answers_pure (by decide))
    · refine (adds_modifiers about).bind fun _ => looks_nextWord.adds.bind fun _ =>
        .ite ?_ (.ite ?_ ?_)
      · exact Answers.addsFor (.bind fun _ => answers_pure (by decide))
      · exact (adds_method blocks).bind fun _ => (looks_pure _).adds.addsFor
      · exact Answers.addsFor (.bind fun _ => .bind fun _ => answers_pure (by decide))

theorem openBody_members {kind : String} (composite : kind ∉ atomicKinds) (enumeration : Bool) :
    Answers OpenBody (build kind
      (bracketed "\x7b" "\x7d" (itemsUntil "\x7d" (child (member rules enumeration))))) := by
  intro ctx s t s' ran
  refine ⟨opened_build composite (fills_bracketed _ _ _) ran, children_build ?_ ran⟩
  exact adds_bracketed loose_openFunction (adds_itemsUntil _ (reads_member blocks _).child) _ _

theorem adds_classBody : Adds (AsPart OpenBody) (field "body" (classBody rules)) :=
  adds_body (fun _ loose => adds_buildWith loose _) (openBody_members blocks (by decide) false)
    fun _ => openBody_withField "body"

theorem adds_enumBody : Adds (AsPart OpenBody) (field "body" (enumBody rules)) :=
  adds_body (fun _ loose => adds_buildWith loose _) (openBody_members blocks (by decide) true)
    fun _ => openBody_withField "body"

/-- All bodies of a declaration are in braces, and constants have none. -/
theorem bodies_declaration : Answers OpenDeclaration (declaration rules) := by
  have about := aboutFields_part (r := OpenBody)
  have loose := about.loose
  refine AddsFor.children ((about.adds_attributes (by decide) rules).bind fun _ =>
    looks_nextWord.adds.bind fun _ => ?_)
  have named : Adds (AsPart OpenBody) (field "name" (name reservedForClasses)) :=
    about.adds_field (by decide) (adds_name loose _)
  split
  · exact (adds_keyword loose _).bind fun _ => (adds_functionRest blocks).bind fun _ =>
      (looks_pure _).adds.addsFor
  · exact (adds_keyword loose _).bind fun _ => named.bind fun _ => (adds_bases about _ _).bind
      fun _ => (adds_classBody blocks).bind fun _ => (looks_pure _).adds.addsFor
  · exact (adds_keyword loose _).bind fun _ => named.bind fun _ =>
      (adds_classBody blocks).bind fun _ => (looks_pure _).adds.addsFor
  · exact (adds_keyword loose _).bind fun _ => named.bind fun _ => (adds_backingType about).bind
      fun _ => (adds_bases about _ _).bind fun _ => (adds_enumBody blocks).bind
      fun _ => (looks_pure _).adds.addsFor
  · refine (adds_modifiers about).bind fun _ => (looks_nextWordIs _).adds.bind fun _ => .ite ?_ ?_
    · exact Answers.addsFor (.bind fun _ => answers_pure (by decide))
    · exact (adds_keyword loose _).bind fun _ => named.bind fun _ => (adds_classBases about).bind
        fun _ => (adds_classBody blocks).bind fun _ => (looks_pure _).adds.addsFor

theorem reads_namespaceStatement :
    Reads OpenStatement (namespaceStatement rules) := by
  refine ⟨fun ctx s t s' ran => ?_, adds_buildWith loose_openStatement _⟩
  have ofKind := kind_build _ _ ran
  refine ⟨fun declares => ?_, fun _ => children_build ?_ ran⟩
  · rw [ofKind] at declares
    exact absurd declares (by decide)
  · have about := aboutFields_part (r := fun b => ∀ d ∈ b.children, OpenDeclaration d)
    have block : Adds (AsPart fun b => ∀ d ∈ b.children, OpenDeclaration d)
        (field "body" (rules .block)) :=
      adds_body blocks.adds blocks.declarations fun t inner => by cases t; exact inner
    refine (adds_keyword about.loose _).bind fun _ => (looks_nextIs _).adds.bind fun _ =>
      .ite block ?_
    have named : Adds _ (withAuto true (field "name" namespaceName)) :=
      (about.adds_field (by decide) (adds_buildWith about.loose _)).withAuto true
    exact named.bind fun _ => ((looks_nextIs _).withAuto true).adds.bind fun _ =>
      .ite block (adds_semicolon about.loose)

/-! ## Statements -/

theorem reads_declaration : Reads OpenStatement (declaration rules) := by
  refine ⟨fun ctx s t s' ran => ⟨bodies_declaration blocks ran, fun opens => ?_⟩,
    adds_buildWith loose_openStatement _⟩
  exact absurd opens (kind_declaration rules ran)

theorem reads_staticStart : Reads OpenStatement (staticStart rules) := by
  refine .bind looks_wordAfterWord.adds fun _ => .bind looks_markAfterWord.adds fun _ =>
    .ite ?_ (.ite ?_ ?_)
  · exact reads_build_other (by decide) _
  · exact reads_declaration blocks
  · exact reads_expressionStatement rules

theorem reads_wordStatement (w : String) : Reads OpenStatement (wordStatement rules w) := by
  unfold wordStatement
  split
  -- The words for namespaces, static things and functions have several readings each.
  case h_15 =>
    exact .bind looks_markAfterWord.adds fun _ =>
      .ite (reads_expressionStatement rules) (reads_namespaceStatement blocks)
  case h_18 => exact reads_staticStart blocks
  case h_19 =>
    exact .bind (looks_lookahead _).adds fun _ =>
      .ite (reads_declaration blocks) (reads_expressionStatement rules)
  case h_20 | h_21 | h_22 | h_23 | h_24 | h_25 | h_26 | h_27 | h_28 | h_29 | h_30 | h_31 =>
    exact reads_declaration blocks
  case h_32 =>
    refine .bind (looks_nextSpells _).adds fun _ => .ite (reads_build_other (by decide) _) ?_
    exact .bind looks_markAfterWord.adds fun _ =>
      .ite (reads_build_other (by decide) _) (reads_expressionStatement rules)
  -- All other words start statements of a kind of their own.
  all_goals exact reads_build_other (by decide) _

theorem reads_statement : Reads OpenStatement (statement rules) := by
  have settles : Adds OpenStatement (withAuto false settle) :=
    (adds_settle loose_openStatement).withAuto false
  refine .bind settles fun _ => .bind looks_nextMark.adds fun _ => .ite ?_ (.ite ?_ (.ite ?_ ?_))
  · exact reads_build_other (by decide) _
  · refine ⟨fun ctx s t s' ran => openStatement_of_kind ?_, blocks.adds loose_openStatement⟩
    rw [blocks.kind ran]
    decide
  · exact (reads_declaration blocks).orElse (reads_build_other (by decide) _)
  · exact .bind looks_nextWord.adds fun w => (reads_wordStatement blocks w).withAuto false

end

/-- With one more rule around them, blocks and statements are read as they are inside. -/
theorem grammar_open (depth : Nat) :
    ReadsBlocks (grammar depth .block) ∧ Reads OpenStatement (grammar depth .statement) := by
  induction depth with
  | zero =>
    refine ⟨⟨?_, ?_, ?_, fun q _ => reads_failure.adds⟩, reads_failure⟩
    all_goals exact reads_failure.answers
  | succ depth ih =>
    obtain ⟨blocks, statements⟩ := ih
    exact ⟨readsBlocks_block (statements.mono fun _ statement => statement.declaration),
      reads_statement blocks⟩

/-! ## Programs -/

theorem adds_moveTo {q : ParseTree → Prop} (i : Nat) :
    Adds q (modify fun s => { s with pos := i }) := by
  intro ctx s a s' ran _
  cases ran
  exact ⟨[], rfl, by simp⟩

theorem looks_nextIsTextEnd : Looks nextIsTextEnd :=
  looks_read.bind fun _ => looks_next.bind fun _ => looks_pure _

theorem adds_tag? {q : ParseTree → Prop} (loose : Loose q) (kind : String)
    (stop : Input → Nat → Option Nat) : Adds q (tag? kind stop) := by
  refine looks_ahead.adds.bind fun _ => looks_read.adds.bind fun _ => ?_
  split
  · exact (adds_gather loose).bind fun _ => (adds_token loose _ _ _).bind fun _ =>
      (looks_pure _).adds
  · exact (looks_pure _).adds

section

variable {rules : Rules} (statements : Reads OpenStatement (rules .statement))
include statements

theorem adds_statementsToEnd : Adds OpenStatement (statementsToEnd rules) := by
  refine adds_repeatWhile ?_ statements.child
  exact looks_nextIsTextEnd.bind fun _ => (looks_nextIs _).bind fun _ => looks_pure _

theorem adds_page : Adds OpenStatement (page rules) := by
  have loose := loose_openStatement
  refine looks_read.adds.bind fun _ => (adds_moveTo _).bind fun _ =>
    AddsFor.stepIf (adds_token loose _ _ _) fun _ => ?_
  dsimp only
  split
  · exact (adds_moveTo _).bind fun _ => (adds_token loose _ _ _).bind fun _ =>
      adds_statementsToEnd statements
  · exact adds_moveTo _

theorem adds_code : Adds OpenStatement (code rules) := by
  have loose := loose_openStatement
  exact (adds_gather loose).bind fun _ => (adds_tag? loose _ _).bind fun _ =>
    (adds_statementsToEnd statements).bind fun _ => (adds_tag? loose _ _).bind fun _ =>
    (looks_pure _).adds

theorem adds_program : Adds OpenStatement (program rules) := by
  refine looks_read.adds.bind fun ctx => ?_
  dsimp only
  cases ctx.input.dialect
  all_goals
    refine Adds.bind ?_ fun _ => (adds_gather loose_openStatement).bind fun _ =>
      looks_nextIsTextEnd.adds.bind fun _ => (looks_guard _).adds.bind fun _ =>
      looks_get.adds.bind fun _ => (looks_pure _).adds
  · exact adds_page statements
  · exact adds_code statements

omit statements in
/-- A program keeps all that was collected. -/
theorem children_program {ctx : Context} {s s' : State} {t : ParseTree}
    (ran : program rules ctx s = some (t, s')) : t.children = s'.done.reverse := by
  obtain ⟨ctx, s₁, entered, ran⟩ := bind_eq_some ran
  cases dialect : ctx.input.dialect
  all_goals
    dsimp only at ran
    rw [dialect] at ran
    obtain ⟨u, s₂, -, ran⟩ := bind_eq_some ran
    obtain ⟨u, s₃, -, ran⟩ := bind_eq_some ran
    obtain ⟨ended, s₄, -, ran⟩ := bind_eq_some ran
    obtain ⟨u, s₅, -, ran⟩ := bind_eq_some ran
    obtain ⟨last, s₆, got, ran⟩ := bind_eq_some ran
    cases got
    cases ran
    rfl

end

end Parser

/-! ## Texts -/

theorem openStatement_of_parse? {dialect : Dialect} {text : String} {root : ParseTree}
    (parsed : parse? dialect text = some root) : ∀ t ∈ root.children, OpenStatement t := by
  obtain ⟨⟨t, s⟩, ran, rfl⟩ := Option.map_eq_some_iff.1 parsed
  obtain ⟨added, eq, fits⟩ := Parser.adds_program (Parser.grammar_open _).2 ran trivial
  rw [Parser.children_program ran, eq, List.append_nil]
  simpa using fits

theorem exists_dialect_of_parse {text origin : String} {parsed : Parsed}
    (read : parse text origin = .ok parsed) :
    ∃ dialect, parse? dialect text = some parsed.tree := by
  simp only [parse] at read
  split at read
  · rename_i tree page
    cases read
    exact ⟨.template, (Option.filter_eq_some_iff.1 page).1⟩
  · split at read
    · rename_i tree _ bare
      cases read
      exact ⟨.bare, bare⟩
    · rename_i tree page
      cases read
      exact ⟨.template, page⟩
    · cases read

/-- In whatever dialect a text can be read, its statements are open. -/
theorem openStatement_of_parse {text origin : String} {parsed : Parsed}
    (read : parse text origin = .ok parsed) : ∀ t ∈ parsed.tree.children, OpenStatement t := by
  obtain ⟨dialect, parsed⟩ := exists_dialect_of_parse read
  exact openStatement_of_parse? parsed

end Introspect.Grammar
