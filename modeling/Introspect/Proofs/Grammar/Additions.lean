import Introspect.Grammar.Strings

/-! # What parsers add

A parser adds trees to the node under construction, and many a parser answers with a tree.  What
holds of these trees is carried from the steps of a parser to the whole:

* `AddsFor`, `Adds` — all trees that a parser adds satisfy a predicate;
* `Answers`, `Reads` — the answer of a parser satisfies one, or both the answer and what is added;
* `Loose`, `AboutFields` — a predicate that tokens satisfy anyway, or that asks something only of
  trees in certain fields;
* `adds_settle`, `adds_mark`, `adds_repeatWhile`, … — what stands between tokens, tokens,
  repetition;
* `buildWith_eq_some`, `reads_buildWith` — nodes.

A node collects its children apart from those of the node outside, so that `adds_buildWith` holds
for every parser inside.
-/

namespace Introspect.Grammar.Parser

open Introspect.Syntax

/-- With an answer that is `good`, the parser has added only trees that satisfy `q`. -/
def AddsFor (q : ParseTree → Prop) (good : α → Prop) (p : Parser α) : Prop :=
  ∀ ⦃ctx s a s'⦄, p ctx s = some (a, s') → good a →
    ∃ added, s'.done = added ++ s.done ∧ ∀ t ∈ added, q t

def Adds (q : ParseTree → Prop) (p : Parser α) : Prop := AddsFor q (fun _ => True) p

/-- The parser only looks ahead. -/
def Looks (p : Parser α) : Prop := ∀ ⦃ctx s a s'⦄, p ctx s = some (a, s') → s' = s

/-- Every answer of the parser satisfies `r`. -/
def Answers (r : α → Prop) (p : Parser α) : Prop := ∀ ⦃ctx s a s'⦄, p ctx s = some (a, s') → r a

/-- Behind the parser, the node under construction has a child. -/
def Fills (p : Parser α) : Prop := ∀ ⦃ctx s a s'⦄, p ctx s = some (a, s') → s'.done ≠ []

/-- The tree that the parser reads satisfies `q`, and so do the trees that it adds before it. -/
structure Reads (q : ParseTree → Prop) (p : Parser ParseTree) : Prop where
  answers : Answers q p
  adds : Adds q p

theorem bind_eq_some {p : Parser α} {k : α → Parser β} {ctx : Context} {s s'' : State} {b : β}
    (ran : (p >>= k) ctx s = some (b, s'')) :
    ∃ a s', p ctx s = some (a, s') ∧ k a ctx s' = some (b, s'') := by
  obtain ⟨⟨a, s'⟩, first, second⟩ := Option.bind_eq_some_iff.1 ran
  exact ⟨a, s', first, second⟩

theorem orElse_eq_some {p q : Parser α} {ctx : Context} {s s' : State} {a : α}
    (ran : (p <|> q) ctx s = some (a, s')) :
    p ctx s = some (a, s') ∨ q ctx s = some (a, s') := by
  have ran : (p ctx s <|> q ctx s) = some (a, s') := ran
  cases first : p ctx s with
  | none =>
    rw [first] at ran
    exact .inr ran
  | some answer =>
    rw [first] at ran
    exact .inl ran

/-! ## Sequences of steps -/

section

variable {q : ParseTree → Prop} {good : β → Prop} {p : Parser α} {k : α → Parser β}

theorem Looks.bind (first : Looks p) (second : ∀ a, Looks (k a)) : Looks (p >>= k) := by
  intro ctx s b s'' ran
  obtain ⟨a, s', ran, ran'⟩ := bind_eq_some ran
  exact (second a ran').trans (first ran)

theorem Looks.adds (h : Looks p) : Adds q p := by
  intro ctx s a s' ran _
  exact ⟨[], by rw [h ran]; rfl, by simp⟩

theorem Adds.addsFor {p : Parser β} (h : Adds q p) : AddsFor q good p :=
  fun _ _ _ _ ran _ => h ran trivial

theorem Adds.mono {q' : ParseTree → Prop} (h : Adds q p) (weaker : ∀ t, q t → q' t) :
    Adds q' p := by
  intro ctx s a s' ran isGood
  obtain ⟨added, eq, fits⟩ := h ran isGood
  exact ⟨added, eq, fun t member => weaker t (fits t member)⟩

theorem Adds.bind (first : Adds q p) (second : ∀ a, AddsFor q good (k a)) :
    AddsFor q good (p >>= k) := by
  intro ctx s b s'' ran isGood
  obtain ⟨a, s', ran, ran'⟩ := bind_eq_some ran
  obtain ⟨added, eq, fits⟩ := first ran trivial
  obtain ⟨more, eq', fits'⟩ := second a ran' isGood
  refine ⟨more ++ added, by rw [eq', eq, List.append_assoc], fun t member => ?_⟩
  rcases List.mem_append.1 member with late | early
  · exact fits' t late
  · exact fits t early

theorem AddsFor.ite {c : Prop} [Decidable c] {yes no : Parser β} (first : AddsFor q good yes)
    (second : AddsFor q good no) : AddsFor q good (if c then yes else no) := by
  split
  · exact first
  · exact second

/-- A step that may be left out, and what follows it in either case. -/
theorem AddsFor.stepIf {c : Prop} [Decidable c] {p : Parser Unit} {k : Unit → Parser β}
    (step : Adds q p) (rest : ∀ u, AddsFor q good (k u)) :
    AddsFor q good (if c then p >>= k else k ()) :=
  .ite (step.bind rest) (rest ())

theorem Answers.bind (second : ∀ a, Answers good (k a)) : Answers good (p >>= k) := by
  intro ctx s b s'' ran
  obtain ⟨a, s', -, ran'⟩ := bind_eq_some ran
  exact second a ran'

theorem Fills.bind (second : ∀ a, Fills (k a)) : Fills (p >>= k) := by
  intro ctx s b s'' ran
  obtain ⟨a, s', -, ran'⟩ := bind_eq_some ran
  exact second a ran'

/-- Where no answer is good, nothing is asked of what is added. -/
theorem Answers.addsFor {p : Parser β} (never : Answers (fun b => ¬ good b) p) : AddsFor q good p :=
  fun _ _ _ _ ran isGood => absurd isGood (never ran)

theorem answers_pure {b : β} (isGood : good b) : Answers good (pure b) := by
  intro ctx s a s' ran
  cases ran
  exact isGood

end

section

variable {q : ParseTree → Prop} {p : Parser α} {k : α → Parser ParseTree}
  {yes no : Parser ParseTree}

theorem Reads.bind (first : Adds q p) (second : ∀ a, Reads q (k a)) : Reads q (p >>= k) :=
  ⟨Answers.bind fun a => (second a).answers, first.bind fun a => (second a).adds⟩

theorem Reads.ite {c : Prop} [Decidable c] (first : Reads q yes) (second : Reads q no) :
    Reads q (if c then yes else no) := by
  split
  · exact first
  · exact second

theorem Reads.orElse (first : Reads q yes) (second : Reads q no) : Reads q (yes <|> no) := by
  refine ⟨fun ctx s a s' ran => ?_, fun ctx s a s' ran isGood => ?_⟩
  · exact (orElse_eq_some ran).elim (first.answers ·) (second.answers ·)
  · exact (orElse_eq_some ran).elim (first.adds · isGood) (second.adds · isGood)

theorem Reads.mono {q' : ParseTree → Prop} (h : Reads q yes) (weaker : ∀ t, q t → q' t) :
    Reads q' yes :=
  ⟨fun _ _ _ _ ran => weaker _ (h.answers ran), h.adds.mono weaker⟩

/-- A parser without any answer. -/
theorem reads_failure : Reads q failure := by
  constructor
  · intro ctx s a s' ran
    cases ran
  · intro ctx s a s' ran
    cases ran

end

theorem Answers.ite {r : α → Prop} {c : Prop} [Decidable c] {yes no : Parser α}
    (first : Answers r yes) (second : Answers r no) : Answers r (if c then yes else no) := by
  split
  · exact first
  · exact second

/-! ## Looking ahead -/

theorem looks_pure (a : α) : Looks (pure a) := by
  intro ctx s b s' ran
  cases ran
  rfl

theorem looks_read : Looks (read : Parser Context) := by
  intro ctx s b s' ran
  cases ran
  rfl

theorem looks_get : Looks (get : Parser State) := by
  intro ctx s b s' ran
  cases ran
  rfl

theorem looks_guard (c : Prop) [Decidable c] : Looks (guard c : Parser Unit) := by
  intro ctx s b s' ran
  have ran : (if c then pure () else failure : Parser Unit) ctx s = some (b, s') := ran
  split at ran
  · exact looks_pure () ran
  · cases ran

theorem looks_lookahead (p : Parser Bool) : Looks (lookahead p) := by
  intro ctx s b s' ran
  obtain ⟨before, s₁, got, ran⟩ := bind_eq_some ran
  obtain ⟨answer, s₂, -, ran⟩ := bind_eq_some ran
  obtain ⟨u, s₃, restored, last⟩ := bind_eq_some ran
  cases got
  cases restored
  cases last
  rfl

theorem Looks.withAuto {p : Parser α} (h : Looks p) (auto : Bool) : Looks (withAuto auto p) :=
  fun _ _ _ _ ran => h ran

theorem looks_ahead : Looks ahead := looks_read.bind fun _ => looks_get.bind fun _ => looks_pure _

theorem looks_next : Looks next := by
  refine looks_ahead.bind fun a => ?_
  split
  · exact looks_read.bind fun _ => looks_pure _
  · exact looks_pure _

theorem looks_nextWord : Looks nextWord :=
  looks_read.bind fun _ => looks_next.bind fun _ => looks_pure _

theorem looks_nextMark : Looks nextMark :=
  looks_read.bind fun _ => looks_next.bind fun _ => looks_pure _

theorem looks_nextIs (m : String) : Looks (nextIs m) := looks_nextMark.bind fun _ => looks_pure _

theorem looks_nextWordIs (w : String) : Looks (nextWordIs w) :=
  looks_nextWord.bind fun _ => looks_pure _

theorem looks_tokenFrom (i : Nat) : Looks (tokenFrom i) := looks_read.bind fun _ => looks_pure _

theorem looks_markAfter (width : Nat) : Looks (markAfter width) :=
  looks_read.bind fun _ => looks_next.bind fun _ => (looks_tokenFrom _).bind fun _ => looks_pure _

theorem looks_markAfterWord : Looks markAfterWord :=
  looks_read.bind fun _ => looks_next.bind fun _ => (looks_tokenFrom _).bind fun _ => looks_pure _

theorem looks_wordAfterWord : Looks wordAfterWord :=
  looks_read.bind fun _ => looks_next.bind fun _ => (looks_tokenFrom _).bind fun _ => looks_pure _

theorem looks_rounds : Looks rounds :=
  looks_read.bind fun _ => looks_get.bind fun _ => looks_pure _

/-! ## What stands between tokens -/

/-- All tokens satisfy the predicate, and so do comments and page text. -/
def Loose (q : ParseTree → Prop) : Prop :=
  ∀ t : ParseTree, t.field = none → t.children = [] ∨ t.kind = "text_interpolation" → q t

/-- The predicate asks something only of trees in one of the fields. -/
def AboutFields (names : List String) (q : ParseTree → Prop) : Prop :=
  ∀ t : ParseTree, (∀ name ∈ names, t.field ≠ some name) → q t

theorem AboutFields.bare {names : List String} {q : ParseTree → Prop}
    (about : AboutFields names q) {t : ParseTree} (bare : t.field = none) : q t :=
  about t (by simp [bare])

theorem AboutFields.loose {names : List String} {q : ParseTree → Prop}
    (about : AboutFields names q) : Loose q :=
  fun _ bare _ => about.bare bare

theorem pageBreak_bare (input : Input) (i : Nat) :
    (pageBreak input i).1.field = none ∧ (pageBreak input i).1.kind = "text_interpolation" := by
  unfold pageBreak
  dsimp only
  repeat' split
  all_goals exact ⟨rfl, rfl⟩

section

variable {q : ParseTree → Prop} (loose : Loose q)
include loose

theorem Loose.leaf (input : Input) (kind : String) (named : Bool) (start stop : Nat) :
    q (leaf input kind named start stop) :=
  loose _ rfl (.inl rfl)

theorem extras_aheadFrom (ctx : Context) (fuel i : Nat) (extras : List ParseTree)
    (fit : ∀ t ∈ extras, q t) : ∀ t ∈ (aheadFrom ctx fuel i extras).extras, q t := by
  induction fuel generalizing i extras with
  | zero => exact fit
  | succ fuel ih =>
    simp only [aheadFrom]
    split
    · exact fit
    · split
      · exact ih _ _ (List.forall_mem_cons.2 ⟨loose.leaf _ _ _ _ _, fit⟩)
      · split
        · have page := pageBreak_bare ctx.input (ctx.input.skipBlank i)
          exact ih _ _ (List.forall_mem_cons.2 ⟨loose _ page.1 (.inr page.2), fit⟩)
        · exact fit

theorem extras_ahead {ctx : Context} {s s' : State} {a : Ahead}
    (ran : ahead ctx s = some (a, s')) : ∀ t ∈ a.extras, q t := by
  cases ran
  exact extras_aheadFrom loose ctx _ _ [] (List.forall_mem_nil _)

theorem adds_gather : Adds q gather := by
  intro ctx s a s' ran _
  obtain ⟨found, s₁, looked, ran⟩ := bind_eq_some ran
  obtain ⟨u, s₂, guarded, moved⟩ := bind_eq_some ran
  have between := extras_ahead loose looked
  obtain rfl := looks_ahead looked
  obtain rfl := looks_guard _ guarded
  cases moved
  exact ⟨found.extras, rfl, between⟩

theorem adds_settle : Adds q settle := by
  refine looks_get.adds.bind fun s => ?_
  split
  · exact (looks_pure _).adds
  · exact adds_gather loose

end

/-! ## Tokens -/

theorem adds_takeTo {q : ParseTree → Prop} (kind : String) (named : Bool) (stop : Nat) :
    Adds q (takeTo kind named stop) := by
  intro ctx s a s' ran _
  cases ran
  exact ⟨[], rfl, by simp⟩

theorem Loose.reads_takeTo {q : ParseTree → Prop} (loose : Loose q) (kind : String) (named : Bool)
    (stop : Nat) : Reads q (takeTo kind named stop) := by
  refine ⟨fun ctx s t s' ran => ?_, adds_takeTo kind named stop⟩
  cases ran
  exact loose.leaf _ _ _ _ _

section

variable {q : ParseTree → Prop}

theorem Reads.child {p : Parser ParseTree} (h : Reads q p) : Adds q (child p) := by
  intro ctx s a s' ran _
  obtain ⟨t, s₁, read, pushed⟩ := bind_eq_some ran
  obtain ⟨added, eq, fits⟩ := h.adds read trivial
  cases pushed
  exact ⟨t :: added, congrArg (t :: ·) eq, List.forall_mem_cons.2 ⟨h.answers read, fits⟩⟩

theorem adds_field {name : String} {p : Parser ParseTree} (inner : Adds q p)
    (fits : Answers (fun t => q (t.withField name)) p) : Adds q (field name p) := by
  intro ctx s a s' ran _
  obtain ⟨t, s₁, read, pushed⟩ := bind_eq_some ran
  obtain ⟨added, eq, between⟩ := inner read trivial
  cases pushed
  exact ⟨t.withField name :: added, congrArg (t.withField name :: ·) eq,
    List.forall_mem_cons.2 ⟨fits read, between⟩⟩

theorem field_withField (t : ParseTree) (name : String) : (t.withField name).field = some name := by
  cases t
  rfl

theorem children_withField (t : ParseTree) (name : String) :
    (t.withField name).children = t.children := by
  cases t
  rfl

theorem AboutFields.adds_field {names : List String} {other : String}
    (about : AboutFields names q) (elsewhere : other ∉ names) {p : Parser ParseTree}
    (inner : Adds q p) : Adds q (field other p) := by
  refine Parser.adds_field inner fun ctx s t s' _ => about _ fun name member inField => ?_
  rw [field_withField, Option.some.injEq] at inField
  exact elsewhere (inField ▸ member)

theorem AddsFor.withAuto {good : α → Prop} {p : Parser α} (h : AddsFor q good p) (auto : Bool) :
    AddsFor q good (withAuto auto p) :=
  fun _ _ _ _ ran => h ran

theorem AddsFor.withColonBranch {good : α → Prop} {p : Parser α} (h : AddsFor q good p)
    (allowed : Bool) : AddsFor q good (withColonBranch allowed p) :=
  fun _ _ _ _ ran => h ran

theorem Fills.withAuto {p : Parser α} (h : Fills p) (auto : Bool) : Fills (withAuto auto p) :=
  fun _ _ _ _ ran => h ran

theorem Fills.withColonBranch {p : Parser α} (h : Fills p) (allowed : Bool) :
    Fills (withColonBranch allowed p) :=
  fun _ _ _ _ ran => h ran

theorem fills_child (p : Parser ParseTree) : Fills (child p) := by
  intro ctx s a s' ran
  obtain ⟨t, s₁, -, pushed⟩ := bind_eq_some ran
  cases pushed
  exact List.cons_ne_nil _ _

theorem fills_mark (m : String) : Fills (mark m) :=
  .bind fun _ => .bind fun _ => .bind fun _ => .bind fun _ => fills_child _

theorem fills_bracketed (opening closing : String) (p : Parser Unit) :
    Fills (bracketed opening closing p) :=
  .bind fun _ => (Fills.bind fun _ => fills_mark closing).withAuto false

theorem Reads.withAuto {p : Parser ParseTree} (h : Reads q p) (auto : Bool) :
    Reads q (withAuto auto p) :=
  ⟨fun _ _ _ _ ran => h.answers ran, h.adds.withAuto auto⟩

variable (loose : Loose q)
include loose

theorem adds_token (kind : String) (named : Bool) (stop : Nat) : Adds q (token kind named stop) :=
  (loose.reads_takeTo kind named stop).child

theorem adds_mark (m : String) : Adds q (mark m) :=
  (adds_settle loose).bind fun _ => looks_get.adds.bind fun _ => looks_read.adds.bind fun _ =>
    (looks_guard _).adds.bind fun _ => adds_token loose _ _ _

theorem adds_keyword (w : String) : Adds q (keyword w) :=
  (adds_settle loose).bind fun _ => looks_get.adds.bind fun _ => looks_read.adds.bind fun _ =>
    (looks_guard _).adds.bind fun _ => adds_token loose _ _ _

theorem adds_name (reserved : List String) : Adds q (name reserved) :=
  (adds_settle loose).bind fun _ => looks_get.adds.bind fun _ => looks_read.adds.bind fun _ =>
    (looks_guard _).adds.bind fun _ => adds_takeTo _ _ _

theorem adds_semicolon : Adds q semicolon := by
  refine AddsFor.withAuto ?_ true
  intro ctx s u s' ran _
  obtain ⟨found, s₁, looked, ended⟩ := bind_eq_some ran
  have between := extras_ahead loose looked
  obtain rfl := looks_ahead looked
  split at ended
  · cases ended
    exact ⟨found.extras, rfl, between⟩
  · exact adds_mark loose ";" ended trivial

theorem adds_bracketed {p : Parser Unit} (inner : Adds q p) (opening closing : String) :
    Adds q (bracketed opening closing p) :=
  (adds_mark loose opening).bind fun _ =>
    AddsFor.withAuto (inner.bind fun _ => adds_mark loose closing) false

end

/-! ## Repetition -/

section

variable {q : ParseTree → Prop}

theorem adds_iterateFor {step : α → Parser (Option α)} (each : ∀ a, Adds q (step a)) (fuel : Nat)
    (a : α) : Adds q (iterateFor step fuel a) := by
  induction fuel generalizing a with
  | zero =>
    intro ctx s b s' ran
    cases ran
  | succ fuel ih =>
    refine (each a).bind fun next => ?_
    cases next with
    | none => exact (looks_pure a).adds
    | some b => exact ih b

theorem adds_repeatWhile {test : Parser Bool} {p : Parser Unit} (looks : Looks test)
    (each : Adds q p) : Adds q (repeatWhile test p) := by
  refine looks_rounds.adds.bind fun rounds => adds_iterateFor (fun _ => ?_) rounds ()
  refine looks.adds.bind fun goesOn => ?_
  split
  · exact each.bind fun _ => (looks_pure _).adds
  · exact (looks_pure _).adds

theorem adds_itemsUntil {item : Parser Unit} (close : String) (each : Adds q item) :
    Adds q (itemsUntil close item) :=
  adds_repeatWhile ((looks_nextIs close).bind fun _ => looks_pure _) each

section

variable (loose : Loose q) {item : Parser Unit} (close : String) (each : Adds q item)
include loose each

theorem adds_listUntil : Adds q (listUntil close item) := by
  refine Adds.bind (looks_rounds.adds.bind fun rounds =>
    adds_iterateFor (fun more => ?_) rounds true) fun _ => (looks_pure ()).adds
  refine (looks_nextIs close).adds.bind fun _ => .ite (looks_pure _).adds ?_
  refine each.bind fun _ => (looks_nextIs ",").adds.bind fun _ => .ite ?_ (looks_pure _).adds
  exact (adds_mark loose ",").bind fun _ => (looks_pure _).adds

theorem adds_looseListUntil : Adds q (looseListUntil close item) :=
  (looks_nextIs ",").adds.bind fun _ => .ite (adds_mark loose ",") (adds_listUntil loose close each)

end

end

/-! ## Nodes -/

theorem buildWith_eq_some {p : Parser String} {ctx : Context} {s s' : State} {t : ParseTree}
    (ran : buildWith p ctx s = some (t, s')) :
    ∃ s₁ inner, settle ctx s = some ((), s₁) ∧ p ctx ⟨s₁.pos, []⟩ = some (t.kind, inner) ∧
      t.field = none ∧ t.children = inner.done.reverse ∧ s'.done = s₁.done := by
  obtain ⟨⟨node, kind⟩, s₁, built, last⟩ := bind_eq_some ran
  cases last
  obtain ⟨u, s₂, settled, built⟩ := bind_eq_some built
  obtain ⟨outer, _, got, built⟩ := bind_eq_some built
  cases got
  obtain ⟨_, _, cleared, built⟩ := bind_eq_some built
  cases cleared
  obtain ⟨answer, inner, collected, finished⟩ := bind_eq_some built
  cases finished
  exact ⟨s₂, inner, settled, collected, rfl, rfl, rfl⟩

theorem build_eq_some {kind : String} {p : Parser Unit} {ctx : Context} {s s' : State}
    {t : ParseTree} (ran : build kind p ctx s = some (t, s')) :
    t.kind = kind ∧ ∃ s₁ inner, p ctx s₁ = some ((), inner) ∧ s₁.done = [] ∧
      t.children = inner.done.reverse := by
  obtain ⟨s₁, inner, -, collected, -, children, -⟩ := buildWith_eq_some ran
  obtain ⟨u, s₂, collected, last⟩ := bind_eq_some collected
  cases last
  exact ⟨rfl, _, inner, collected, rfl, children⟩

/-- What a parser leaves in the node under construction are the children of the node. -/
theorem children_build_ne_nil {kind : String} {p : Parser Unit} (fills : Fills p) :
    Answers (fun t => t.children ≠ []) (build kind p) := by
  intro ctx s t s' ran
  obtain ⟨-, s₁, inner, collected, -, children⟩ := build_eq_some ran
  rw [children, ne_eq, List.reverse_eq_nil_iff]
  exact fills collected

theorem bare_buildWith (p : Parser String) : Answers (fun t => t.field = none) (buildWith p) := by
  intro ctx s t s' ran
  obtain ⟨s₁, inner, -, -, bare, -⟩ := buildWith_eq_some ran
  exact bare

theorem kind_buildWith {r : String → Prop} {p : Parser String} (h : Answers r p) :
    Answers (fun t => r t.kind) (buildWith p) := by
  intro ctx s t s' ran
  obtain ⟨s₁, inner, -, collected, -, -, -⟩ := buildWith_eq_some ran
  exact h collected

theorem kind_build (kind : String) (p : Parser Unit) :
    Answers (fun t => t.kind = kind) (build kind p) :=
  fun _ _ _ _ ran => (build_eq_some ran).1

section

variable {q : ParseTree → Prop}

/-- Of a kind that is good, a node has the children that are added with a good answer. -/
theorem AddsFor.children {good : String → Prop} {p : Parser String} (inner : AddsFor q good p) :
    Answers (fun t => good t.kind → ∀ c ∈ t.children, q c) (buildWith p) := by
  intro ctx s t s' ran isGood
  obtain ⟨s₁, inside, -, collected, -, children, -⟩ := buildWith_eq_some ran
  obtain ⟨added, eq, fits⟩ := inner collected isGood
  rw [children, eq, List.append_nil]
  simpa using fits

theorem children_build {kind : String} {p : Parser Unit} (inner : Adds q p) :
    Answers (fun t => ∀ c ∈ t.children, q c) (build kind p) :=
  have whole : Adds q (p >>= fun _ => pure kind) := inner.bind fun _ => (looks_pure kind).adds
  fun _ _ _ _ ran => whole.children ran trivial

theorem adds_buildWith (loose : Loose q) (p : Parser String) : Adds q (buildWith p) := by
  intro ctx s t s' ran _
  obtain ⟨s₁, inner, settled, -, -, -, restored⟩ := buildWith_eq_some ran
  rw [restored]
  exact adds_settle loose settled trivial

theorem adds_extend (left : ParseTree) (p : Parser String) : Adds q (extend left p) := by
  intro ctx s t s' ran _
  obtain ⟨outer, _, got, ran⟩ := bind_eq_some ran
  cases got
  obtain ⟨_, _, begun, ran⟩ := bind_eq_some ran
  cases begun
  obtain ⟨kind, inner, -, finished⟩ := bind_eq_some ran
  cases finished
  exact ⟨[], rfl, by simp⟩

/-- A node stands in no field by itself. -/
theorem AboutFields.reads_buildWith {names : List String} (about : AboutFields names q)
    (p : Parser String) : Reads q (buildWith p) :=
  ⟨fun _ _ _ _ ran => about.bare (bare_buildWith p ran), adds_buildWith about.loose p⟩

end

end Introspect.Grammar.Parser
