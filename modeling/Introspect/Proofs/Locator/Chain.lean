import Introspect.Reflector

/-! # Chains of locators

A chain may hold chains, to any depth.  Which locator decides a lookup can be said without the
nesting:

* `Locator.leaves` — the locators of a chain and of the chains in it that are no chains themselves;
* `Locator.firstServing?` — the first of them that does not miss;
* `Locator.locate_eq_firstServing?` — what it finds is what the chain finds;
* `Reflector.reflect_eq_firstServing` — it decides the lookup, whatever stands behind it.

A failure is an answer: it ends the search like a find.  Answers with misses as neutral ones can be
put one after another in any grouping, which is why the nesting does not show.
-/

namespace Introspect

namespace Locator

/-! ## Answers one after another -/

/-- The second answer where the first one is a miss, and the first one anywhere else. -/
def orNext (first second : Except Error (Option Located)) : Except Error (Option Located) :=
  match first with
  | .ok none => second
  | answer => answer

theorem orNext_miss (answer : Except Error (Option Located)) : orNext answer (.ok none) = answer := by
  unfold orNext
  split <;> rfl

theorem orNext_assoc (a b c : Except Error (Option Located)) :
    orNext (orNext a b) c = orNext a (orNext b c) := by
  rcases a with e | (_ | found)
  · rfl
  · rfl
  · rfl

theorem locateFirst_nil (w : World) (i : Identifier) : locateFirst w i [] = .ok none := by
  rw [locateFirst]

/-- A locator that misses hands over to the rest, and any other one decides. -/
theorem locateFirst_cons (w : World) (i : Identifier) (l : Locator) (rest : List Locator) :
    locateFirst w i (l :: rest) = orNext (locate w i l) (locateFirst w i rest) := by
  rw [locateFirst]
  rcases locate w i l with e | (_ | found)
  · rfl
  · rfl
  · rfl

theorem locateFirst_singleton (w : World) (i : Identifier) (l : Locator) :
    locateFirst w i [l] = locate w i l := by
  rw [locateFirst_cons, locateFirst_nil, orNext_miss]

theorem locateFirst_append (w : World) (i : Identifier) (front back : List Locator) :
    locateFirst w i (front ++ back) =
      orNext (locateFirst w i front) (locateFirst w i back) := by
  induction front with
  | nil =>
    rw [locateFirst_nil]
    rfl
  | cons l rest ih => rw [List.cons_append, locateFirst_cons, locateFirst_cons, ih, orNext_assoc]

/-! ## Leaves -/

mutual

/-- The locators under a locator that are no chains, in the order in which they are asked. -/
def leaves : Locator → List Locator
  | chain members => leavesAll members
  | l => [l]

/-- The locators that are no chains under several locators side by side. -/
def leavesAll : List Locator → List Locator
  | [] => []
  | l :: rest => leaves l ++ leavesAll rest

end

mutual

/-- A locator finds what its leaves find one after another. -/
theorem locate_eq_locateFirst_leaves (w : World) (i : Identifier) :
    ∀ l, locate w i l = locateFirst w i (leaves l)
  | .chain members => by rw [locate, leaves, locateFirst_eq_locateFirst_leavesAll w i members]
  | .text code => (locateFirst_singleton w i (.text code)).symm
  | .file path => (locateFirst_singleton w i (.file path)).symm
  | .evaluated registry => (locateFirst_singleton w i (.evaluated registry)).symm
  | .builtin => (locateFirst_singleton w i .builtin).symm
  | .classMap paths => (locateFirst_singleton w i (.classMap paths)).symm
  | .autoload directories => (locateFirst_singleton w i (.autoload directories)).symm

theorem locateFirst_eq_locateFirst_leavesAll (w : World) (i : Identifier) :
    ∀ ls, locateFirst w i ls = locateFirst w i (leavesAll ls)
  | [] => by rw [leavesAll]
  | l :: rest => by
    rw [leavesAll, locateFirst_append, locateFirst_cons,
      ← locateFirst_eq_locateFirst_leavesAll w i rest, ← locate_eq_locateFirst_leaves w i l]

end

/-! ## The first leaf that serves -/

/-- Does the locator do anything but miss?  A failure is no miss. -/
def serves (w : World) (i : Identifier) (l : Locator) : Bool :=
  match locate w i l with
  | .ok none => false
  | _ => true

/-- The first leaf that does not miss. -/
def firstServing? (w : World) (i : Identifier) (l : Locator) : Option Locator :=
  (leaves l).find? (serves w i)

theorem orNext_locate (w : World) (i : Identifier) (l : Locator)
    (next : Except Error (Option Located)) :
    orNext (locate w i l) next = if serves w i l then locate w i l else next := by
  unfold serves
  rcases locate w i l with e | (_ | found) <;> rfl

theorem locateFirst_eq_find? (w : World) (i : Identifier) (ls : List Locator) :
    locateFirst w i ls =
      match ls.find? (serves w i) with
      | some l => locate w i l
      | none => .ok none := by
  induction ls with
  | nil => exact locateFirst_nil w i
  | cons l rest ih =>
    rw [locateFirst_cons, orNext_locate, List.find?_cons, ih]
    cases serves w i l <;> rfl

/-- A locator finds what the first of its leaves finds that does not miss. -/
theorem locate_eq_firstServing? (w : World) (i : Identifier) (l : Locator) :
    locate w i l =
      match firstServing? w i l with
      | some leaf => locate w i leaf
      | none => .ok none := by
  rw [locate_eq_locateFirst_leaves, locateFirst_eq_find?, firstServing?]

end Locator

/-! ## Lookups -/

namespace Reflector

open Locator

/-- All that a lookup takes from its locator is what the locator finds for the query. -/
theorem reflect_congr {l l' : Locator} {limit : Nat} {w : World} {i : Identifier}
    (h : l.locate w i = l'.locate w i) :
    reflect ⟨l, limit⟩ w i = reflect ⟨l', limit⟩ w i := by
  simp only [reflect, reflect?, h]

theorem reflect_of_miss {l : Locator} {limit : Nat} {w : World} {i : Identifier}
    (h : l.locate w i = .ok none) : reflect ⟨l, limit⟩ w i = .error (.notFound i) := by
  simp only [reflect, reflect?, h]
  rfl

/-- The first leaf that does not miss decides a lookup through a chain of chains, and without one the
lookup finds nothing.  So neither the grouping of the leaves matters, nor does anything that stands
behind the leaf that decides: there may be more locators, fewer, or others. -/
theorem reflect_eq_firstServing (l : Locator) (limit : Nat) (w : World) (i : Identifier) :
    (reflect ⟨l, limit⟩ w i =
      match firstServing? w i l with
      | some leaf => reflect ⟨leaf, limit⟩ w i
      | none => .error (.notFound i)) ∧
    (∀ l', leaves l' = leaves l → reflect ⟨l', limit⟩ w i = reflect ⟨l, limit⟩ w i) ∧
    ∀ before leaf after, leaves l = before ++ leaf :: after → serves w i leaf = true →
      ∀ l' after', leaves l' = before ++ leaf :: after' →
        reflect ⟨l', limit⟩ w i = reflect ⟨l, limit⟩ w i := by
  refine ⟨?_, fun l' regrouped => ?_, fun before leaf after split served l' after' split' => ?_⟩
  · have found := locate_eq_firstServing? w i l
    cases first : firstServing? w i l with
    | some leaf =>
      rw [first] at found
      exact reflect_congr found
    | none =>
      rw [first] at found
      exact reflect_of_miss found
  · apply reflect_congr
    rw [locate_eq_locateFirst_leaves, locate_eq_locateFirst_leaves, regrouped]
  · -- What the leaves up to the one that serves find is no miss, and hides all behind them.
    apply reflect_congr
    simp only [locate_eq_locateFirst_leaves w i l, locate_eq_locateFirst_leaves w i l', split,
      split', locateFirst_append, locateFirst_cons, orNext_locate, served, if_true]

/-- Two registries in a chain with a chain in it, before a text that declares nothing. -/
def nestedChain : Locator :=
  .chain [.evaluated, .chain [.builtin, .evaluated 1], .text "<?php"]

/-- The class is filed in the second registry. -/
def secondRegistry : World :=
  ({ files := .empty [] } : World).register 1 "A" "<?php class A \x7b\x7d"

/-- The second registry decides, so that the text behind it may as well be missing. -/
theorem reflect_nestedChain :
    firstServing? secondRegistry (.ofName .classLike "\\a") nestedChain = some (.evaluated 1) ∧
    serves secondRegistry (.ofName .classLike "\\a") (.evaluated 1) = true ∧
    reflect ⟨.chain [.evaluated, .builtin, .evaluated 1], 100⟩ secondRegistry
        (.ofName .classLike "\\a") =
      reflect ⟨nestedChain, 100⟩ secondRegistry (.ofName .classLike "\\a") := by
  have missed : serves secondRegistry (.ofName .classLike "\\a") .evaluated = false := by
    decide +kernel
  have notBuiltin : serves secondRegistry (.ofName .classLike "\\a") .builtin = false := by
    decide +kernel
  have served : serves secondRegistry (.ofName .classLike "\\a") (.evaluated 1) = true := by
    decide +kernel
  refine ⟨?_, served, ?_⟩
  · rw [firstServing?, nestedChain]
    simp only [leaves, leavesAll, List.append_nil, List.cons_append, List.nil_append,
      List.find?_cons, missed, notBuiltin, served]
  · exact (reflect_eq_firstServing nestedChain 100 _ _).2.2 [.evaluated, .builtin] (.evaluated 1)
      [.text "<?php"] rfl served _ [] rfl

end Reflector

end Introspect
