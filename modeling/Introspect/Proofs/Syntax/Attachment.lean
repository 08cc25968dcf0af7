import Introspect.Proofs.Syntax.Documentation

/-! # Documentation and what it is attached to

A tracker holds one comment at a time.  Over a whole list of siblings this is a law about places:

* `CommentRun` — the longest run of comments that ends directly before a place;
* `LastDoc` — the last documentation comment of a run;
* `Attached` — a documentation comment and the sibling that gets it;
* `DocTracker.getElem?_observeAll` — each answer, in terms of the siblings before its place;
* `DocTracker.answered_by_runs` — a sibling gets the last documentation comment of the run before
  it, and no documentation comment goes to two siblings or past another one.
-/

namespace Introspect.Syntax

variable {siblings : List (String × String)} {start i j k : Nat} {d : String}

/-! ## Runs of comments -/

/-- The sibling at a place is a comment. -/
def CommentAt (siblings : List (String × String)) (i : Nat) : Prop :=
  ∃ text, siblings[i]? = some ("comment", text)

/-- The sibling at a place is there and is no comment. -/
def OtherAt (siblings : List (String × String)) (i : Nat) : Prop :=
  ∃ kind text, siblings[i]? = some (kind, text) ∧ kind ≠ "comment"

/-- The comments from `start` up to `i` are the longest run that ends directly before `i`. -/
structure CommentRun (siblings : List (String × String)) (start i : Nat) : Prop where
  ordered : start ≤ i
  comments : ∀ k, start ≤ k → k < i → CommentAt siblings k
  maximal : ∀ k, k + 1 = start → OtherAt siblings k

/-- At `j` stands the last documentation comment of the run from `start` up to `i`. -/
structure LastDoc (siblings : List (String × String)) (start i j : Nat) (d : String) : Prop where
  behind : start ≤ j
  before : j < i
  found : siblings[j]? = some ("comment", d)
  isDoc : Text.startsWith d "/**" = true
  last : ∀ k text, j < k → k < i → siblings[k]? = some ("comment", text) →
    Text.startsWith text "/**" = false

/-- The sibling at `i` gets the documentation comment at `j`. -/
def Attached (siblings : List (String × String)) (j i : Nat) : Prop :=
  OtherAt siblings i ∧ ∃ start d, CommentRun siblings start i ∧ LastDoc siblings start i j d

theorem OtherAt.not_commentAt (other : OtherAt siblings i) : ¬ CommentAt siblings i := by
  obtain ⟨kind, text, found, differs⟩ := other
  rintro ⟨comment, isComment⟩
  rw [found, Option.some.injEq, Prod.mk.injEq] at isComment
  exact differs isComment.1

theorem commentAt_or_otherAt (inside : i < siblings.length) :
    CommentAt siblings i ∨ OtherAt siblings i := by
  obtain ⟨⟨kind, text⟩, found⟩ : ∃ s, siblings[i]? = some s :=
    ⟨_, List.getElem?_eq_getElem inside⟩
  by_cases comment : kind = "comment"
  · exact .inl ⟨text, comment ▸ found⟩
  · exact .inr ⟨kind, text, found, comment⟩

theorem exists_commentRun (inside : i ≤ siblings.length) :
    ∃ start, CommentRun siblings start i := by
  induction i with
  | zero =>
    refine ⟨0, Nat.le_refl 0, ?_, ?_⟩
    · intro k _ before
      omega
    · intro k before
      omega
  | succ i ih =>
    obtain ⟨start, run⟩ := ih (by omega)
    rcases commentAt_or_otherAt (i := i) inside with comment | other
    · -- The run before `i` goes on with the comment at `i`.
      refine ⟨start, by have := run.ordered; omega, fun k behind before => ?_, run.maximal⟩
      by_cases here : k = i
      · exact here ▸ comment
      · exact run.comments k behind (by omega)
    · refine ⟨i + 1, Nat.le_refl _, fun k behind before => by omega, fun k same => ?_⟩
      have here : k = i := by omega
      exact here ▸ other

theorem CommentRun.unique {start' : Nat} (run : CommentRun siblings start i)
    (run' : CommentRun siblings start' i) : start = start' := by
  -- Before the run that starts later stands a sibling that is none of the other run's comments.
  have noneEarlier {a b : Nat} (first : CommentRun siblings a i)
      (second : CommentRun siblings b i) : ¬ a < b := by
    intro earlier
    have other := second.maximal (b - 1) (by omega)
    have ordered := second.ordered
    exact other.not_commentAt (first.comments (b - 1) (by omega) (by omega))
  have := noneEarlier run run'
  have := noneEarlier run' run
  omega

/-! ## What is pending -/

/-- Before place `i` the documentation comment at `j` is pending: only comments without
documentation stand in between. -/
structure PendingAt (siblings : List (String × String)) (j i : Nat) (d : String) : Prop where
  before : j < i
  found : siblings[j]? = some ("comment", d)
  isDoc : Text.startsWith d "/**" = true
  between : ∀ k, j < k → k < i →
    ∃ text, siblings[k]? = some ("comment", text) ∧ Text.startsWith text "/**" = false

/-- One place on, the sibling just passed is pending itself, or it is a plain comment that leaves
pending what was. -/
theorem pendingAt_succ_iff :
    PendingAt siblings j (i + 1) d ↔
      (j = i ∧ siblings[i]? = some ("comment", d) ∧ Text.startsWith d "/**" = true) ∨
      (PendingAt siblings j i d ∧
        ∃ text, siblings[i]? = some ("comment", text) ∧ Text.startsWith text "/**" = false) := by
  constructor
  · rintro ⟨before, found, isDoc, between⟩
    by_cases here : j = i
    · exact .inl ⟨here, here ▸ found, isDoc⟩
    · exact .inr ⟨⟨by omega, found, isDoc, fun k behind before => between k behind (by omega)⟩,
        between i (by omega) (by omega)⟩
  · rintro (⟨rfl, found, isDoc⟩ | ⟨⟨before, found, isDoc, between⟩, plain⟩)
    · exact ⟨by omega, found, isDoc, fun k behind before => by omega⟩
    · refine ⟨by omega, found, isDoc, fun k behind before => ?_⟩
      by_cases here : k = i
      · exact here ▸ plain
      · exact between k behind (by omega)

theorem docBehind_take_eq_some_iff (inside : i ≤ siblings.length) :
    docBehind (siblings.take i) = some d ↔ ∃ j, PendingAt siblings j i d := by
  induction i with
  | zero =>
    refine ⟨fun held => by simp [docBehind] at held, ?_⟩
    rintro ⟨j, pending⟩
    exact absurd pending.before (Nat.not_lt_zero j)
  | succ i ih =>
    obtain ⟨⟨kind, text⟩, here⟩ : ∃ s, siblings[i]? = some s :=
      ⟨_, List.getElem?_eq_getElem inside⟩
    have longer : siblings.take (i + 1) = siblings.take i ++ [(kind, text)] := by
      rw [List.take_add_one, here]
      rfl
    simp only [longer, pendingAt_succ_iff, here, Option.some.injEq, Prod.mk.injEq]
    by_cases comment : kind = "comment"
    · subst comment
      rw [docBehind_comment]
      cases isDoc : Text.startsWith text "/**" with
      | true =>
        rw [if_pos rfl, Option.some.injEq]
        constructor
        · rintro rfl
          exact ⟨i, .inl ⟨rfl, ⟨rfl, rfl⟩, isDoc⟩⟩
        · rintro ⟨j, ⟨-, same, -⟩ | ⟨-, other, same, plain⟩⟩
          · exact same.2
          · rw [← same.2, isDoc] at plain
            cases plain
      | false =>
        rw [if_neg Bool.false_ne_true, ih (by omega)]
        constructor
        · rintro ⟨j, pending⟩
          exact ⟨j, .inr ⟨pending, text, ⟨rfl, rfl⟩, isDoc⟩⟩
        · rintro ⟨j, ⟨-, same, doc⟩ | ⟨pending, -⟩⟩
          · rw [← same.2, isDoc] at doc
            cases doc
          · exact ⟨j, pending⟩
    · rw [docBehind_other _ text comment]
      simp [comment]

/-- What is pending before a place is the last documentation comment of the run before it. -/
theorem CommentRun.pendingAt_iff (run : CommentRun siblings start i) :
    PendingAt siblings j i d ↔ LastDoc siblings start i j d := by
  constructor
  · intro pending
    refine ⟨?_, pending.before, pending.found, pending.isDoc, fun k text behind before found => ?_⟩
    · -- The sibling before the run would stand among the comments behind `j`.
      refine Nat.le_of_not_lt fun earlier => ?_
      have other := run.maximal (start - 1) (by omega)
      have ordered := run.ordered
      by_cases here : j = start - 1
      · exact other.not_commentAt ⟨d, here ▸ pending.found⟩
      · obtain ⟨text, found, -⟩ := pending.between (start - 1) (by omega) (by omega)
        exact other.not_commentAt ⟨text, found⟩
    · obtain ⟨other, isOther, plain⟩ := pending.between k behind before
      rw [found, Option.some.injEq, Prod.mk.injEq] at isOther
      rw [isOther.2, plain]
  · intro doc
    refine ⟨doc.before, doc.found, doc.isDoc, fun k behind before => ?_⟩
    have := doc.behind
    obtain ⟨text, found⟩ := run.comments k (by omega) before
    exact ⟨text, found, doc.last k text behind before found⟩

theorem exists_pendingAt_of_attached (attached : Attached siblings j i) :
    OtherAt siblings i ∧ ∃ d, PendingAt siblings j i d := by
  obtain ⟨other, start, d, run, doc⟩ := attached
  exact ⟨other, d, run.pendingAt_iff.2 doc⟩

theorem attached_of_pendingAt (other : OtherAt siblings i) (pending : PendingAt siblings j i d) :
    Attached siblings j i := by
  have inside : i < siblings.length := by
    obtain ⟨kind, text, found, -⟩ := other
    exact (List.getElem?_eq_some_iff.1 found).1
  obtain ⟨start, run⟩ := exists_commentRun (Nat.le_of_lt inside)
  exact ⟨other, start, d, run, run.pendingAt_iff.1 pending⟩

theorem commentAt_of_attached (attached : Attached siblings j i) (behind : j < k) (before : k < i) :
    CommentAt siblings k := by
  obtain ⟨-, d, pending⟩ := exists_pendingAt_of_attached attached
  obtain ⟨text, found, -⟩ := pending.between k behind before
  exact ⟨text, found⟩

theorem attached_unique {i' : Nat} (first : Attached siblings j i)
    (second : Attached siblings j i') : i = i' := by
  have noneLater {a b : Nat} (here : Attached siblings j a) (there : Attached siblings j b) :
      ¬ a < b := by
    intro earlier
    obtain ⟨other, d, pending⟩ := exists_pendingAt_of_attached here
    exact other.not_commentAt (commentAt_of_attached there pending.before earlier)
  have := noneLater first second
  have := noneLater second first
  omega

/-! ## Another text for one comment -/

section

variable {d' : String} (found : siblings[j]? = some ("comment", d))
  (isDoc : Text.startsWith d "/**" = true) (isDoc' : Text.startsWith d' "/**" = true)
include found

theorem otherAt_set_iff : OtherAt (siblings.set j ("comment", d')) i ↔ OtherAt siblings i := by
  by_cases here : j = i
  · subst here
    have inside := (List.getElem?_eq_some_iff.1 found).1
    unfold OtherAt
    rw [List.getElem?_set_self inside, found]
    simp
  · rw [OtherAt, List.getElem?_set_ne here, OtherAt]

include isDoc isDoc'

/-- A documentation comment keeps its place in the order whatever its text is. -/
theorem pendingAt_set_iff {e : String} :
    PendingAt (siblings.set j ("comment", d')) k i e ↔
      (k = j ∧ e = d' ∧ PendingAt siblings j i d) ∨ (k ≠ j ∧ PendingAt siblings k i e) := by
  have inside := (List.getElem?_eq_some_iff.1 found).1
  induction i with
  | zero =>
    constructor
    · intro pending
      exact absurd pending.before (Nat.not_lt_zero k)
    · rintro (⟨-, -, pending⟩ | ⟨-, pending⟩) <;> exact absurd pending.before (Nat.not_lt_zero _)
  | succ i ih =>
    simp only [pendingAt_succ_iff, ih]
    by_cases here : j = i
    · subst here
      have fresh : ¬ PendingAt siblings j j d := fun pending => Nat.lt_irrefl j pending.before
      simp only [List.getElem?_set_self inside, found, Option.some.injEq, Prod.mk.injEq]
      grind
    · rw [List.getElem?_set_ne here]
      grind

end

/-! ## The answers of a tracker -/

namespace DocTracker

/-- Each answer is read off the siblings before its place. -/
theorem getElem?_observeAll (before siblings : List (String × String)) (i : Nat) :
    (observeAll ⟨docBehind before⟩ siblings)[i]? =
      siblings[i]?.map fun s =>
        if s.1 == "comment" then none else docBehind (before ++ siblings.take i) := by
  induction siblings generalizing before i with
  | nil => simp [observeAll]
  | cons s rest ih =>
    obtain ⟨kind, text⟩ := s
    rw [observeAll, observe_docBehind]
    cases i with
    | zero => simp
    | succ i => simp [ih]

theorem length_observeAll (t : DocTracker) (siblings : List (String × String)) :
    (t.observeAll siblings).length = siblings.length := by
  induction siblings generalizing t with
  | nil => rfl
  | cons s rest ih => rw [observeAll, List.length_cons, ih, List.length_cons]

theorem answer_eq_some_iff :
    (observeAll {} siblings)[i]? = some (some d) ↔
      OtherAt siblings i ∧ ∃ j, PendingAt siblings j i d := by
  have answer := getElem?_observeAll [] siblings i
  rw [List.nil_append] at answer
  have start : (⟨docBehind []⟩ : DocTracker) = {} := rfl
  rw [← start, answer]
  cases here : siblings[i]? with
  | none => simp [OtherAt, here]
  | some s =>
    obtain ⟨kind, text⟩ := s
    have inside := (List.getElem?_eq_some_iff.1 here).1
    rw [← docBehind_take_eq_some_iff (Nat.le_of_lt inside)]
    by_cases comment : kind = "comment" <;> simp [OtherAt, here, comment]

/-- Answers to equally many siblings agree where they hand out the same documentation. -/
theorem answer_ext {others : List (String × String)} (sameLength : others.length = siblings.length)
    (same : ∀ e, (observeAll {} others)[i]? = some (some e) ↔
      (observeAll {} siblings)[i]? = some (some e)) :
    (observeAll {} others)[i]? = (observeAll {} siblings)[i]? := by
  have present : (observeAll {} others)[i]? = none ↔ (observeAll {} siblings)[i]? = none := by
    rw [List.getElem?_eq_none_iff, List.getElem?_eq_none_iff, length_observeAll, length_observeAll,
      sameLength]
  cases left : (observeAll {} others)[i]? with
  | none => exact (present.1 left).symm
  | some a =>
    cases right : (observeAll {} siblings)[i]? with
    | none =>
      rw [present.2 right] at left
      cases left
    | some b =>
      rw [left, right] at same
      have agree : ∀ e, a = some e ↔ b = some e := by simpa using same
      rw [Option.ext agree]

theorem answer_set {d' : String} (found : siblings[j]? = some ("comment", d))
    (isDoc : Text.startsWith d "/**" = true) (isDoc' : Text.startsWith d' "/**" = true) :
    (Attached siblings j i →
      (observeAll {} (siblings.set j ("comment", d')))[i]? = some (some d')) ∧
    (¬ Attached siblings j i →
      (observeAll {} (siblings.set j ("comment", d')))[i]? = (observeAll {} siblings)[i]?) := by
  constructor
  · intro attached
    obtain ⟨other, e, pending⟩ := exists_pendingAt_of_attached attached
    rw [answer_eq_some_iff, otherAt_set_iff found]
    refine ⟨other, j, (pendingAt_set_iff found isDoc isDoc').2 (.inl ⟨rfl, rfl, ?_⟩)⟩
    exact ⟨pending.before, found, isDoc, pending.between⟩
  · intro apart
    refine answer_ext (by simp) fun e => ?_
    rw [answer_eq_some_iff, answer_eq_some_iff, otherAt_set_iff found]
    refine and_congr_right fun other => exists_congr fun k => ?_
    rw [pendingAt_set_iff found isDoc isDoc']
    constructor
    · rintro (⟨-, -, pending⟩ | ⟨-, pending⟩)
      · exact absurd (attached_of_pendingAt other pending) apart
      · exact pending
    · intro pending
      refine .inr ⟨?_, pending⟩
      rintro rfl
      exact apart (attached_of_pendingAt other pending)

/-- Over any list of siblings there is one answer each, and directly before each sibling ends one
longest run of comments.  A sibling is answered with a documentation comment exactly if it is no
comment itself and that run holds one, and the answer is then the last one of the run.  So a
documentation comment is attached to one sibling at most, with nothing but comments in between: with
another text in its place, that sibling gets the other text and all other answers stay the same. -/
theorem answered_by_runs (siblings : List (String × String)) :
    (observeAll {} siblings).length = siblings.length ∧
    (∀ i < siblings.length, ∃ start, CommentRun siblings start i ∧
      ∀ other, CommentRun siblings other i → other = start) ∧
    (∀ start i d, CommentRun siblings start i →
      ((observeAll {} siblings)[i]? = some (some d) ↔
        OtherAt siblings i ∧ ∃ j, LastDoc siblings start i j d)) ∧
    (∀ j i i', Attached siblings j i → Attached siblings j i' → i = i') ∧
    (∀ j i k, Attached siblings j i → j < k → k < i → CommentAt siblings k) ∧
    ∀ j i d d', siblings[j]? = some ("comment", d) → Text.startsWith d "/**" = true →
      Text.startsWith d' "/**" = true →
      (Attached siblings j i →
        (observeAll {} (siblings.set j ("comment", d')))[i]? = some (some d')) ∧
      (¬ Attached siblings j i →
        (observeAll {} (siblings.set j ("comment", d')))[i]? = (observeAll {} siblings)[i]?) := by
  refine ⟨length_observeAll {} siblings, fun i inside => ?_, fun start i d run => ?_,
    fun _ _ _ => attached_unique, fun _ _ _ => commentAt_of_attached, fun _ _ _ _ => answer_set⟩
  · obtain ⟨start, run⟩ := exists_commentRun (Nat.le_of_lt inside)
    exact ⟨start, run, fun other run' => run'.unique run⟩
  · rw [answer_eq_some_iff]
    exact and_congr_right fun _ => exists_congr fun j => run.pendingAt_iff

/-- A documentation comment and a plain one before two members. -/
def commentedMembers : List (String × String) := [
  ("comment", "/** doc */"), ("comment", "// plain"), ("method_declaration", "function f();"),
  ("property_declaration", "public $p;")]

theorem answered_by_runs_commentedMembers :
    CommentRun commentedMembers 0 2 ∧ LastDoc commentedMembers 0 2 0 "/** doc */" ∧
    (observeAll {} commentedMembers)[2]? = some (some "/** doc */") := by
  have run : CommentRun commentedMembers 0 2 := by
    refine ⟨by decide, fun k _ before => ?_, fun k same => by omega⟩
    rcases (by omega : k = 0 ∨ k = 1) with rfl | rfl
    · exact ⟨_, rfl⟩
    · exact ⟨_, rfl⟩
  have last : LastDoc commentedMembers 0 2 0 "/** doc */" := by
    refine ⟨by decide, by decide, rfl, by decide, fun k text behind before found => ?_⟩
    obtain rfl : k = 1 := by omega
    cases found
    decide
  obtain ⟨-, -, answered, -⟩ := answered_by_runs commentedMembers
  have other : OtherAt commentedMembers 2 := ⟨_, _, rfl, by decide⟩
  exact ⟨run, last, (answered 0 2 _ run).2 ⟨other, 0, last⟩⟩

end DocTracker

end Introspect.Syntax
