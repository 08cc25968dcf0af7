import Mathlib.Data.List.DropRight
import Introspect.Proofs.Locator.Chain
import Introspect.Proofs.Reflection.Misses

/-! # Spellings of a name

Two spellings of a name that are filed alike differ in letter case and in separators in front.
Locators other than directories by namespace, tables and searches all compare the filed form:

* `Locator.Spellable` — no directory by namespace is asked;
* `Locator.locate_ofName_congr` — such a locator finds the same for both spellings;
* `Reflector.reflect_spellings` — so does a lookup, up to the spelling in a miss, and what it finds
  is found again under its own name.
-/

namespace Introspect

/-! ## Filed names -/

@[simp] theorem unrooted_unrooted (name : String) : unrooted (unrooted name) = unrooted name := by
  simp [unrooted, Text.dropLeading, List.dropWhile_idempotent]

@[simp] theorem foldName_unrooted (name : String) : foldName (unrooted name) = foldName name := by
  simp [foldName]

theorem toLower_eq_star_iff {c : Char} : c.toLower = '*' ↔ c = '*' := by
  constructor
  · intro lower
    unfold Char.toLower at lower
    split at lower
    · -- A letter in upper case becomes a letter.
      rename_i upper
      obtain ⟨above, below⟩ := upper
      have shifted := congrArg (fun d => d.val.toNat) lower
      rw [ge_iff_le, UInt32.le_iff_toNat_le] at above
      rw [UInt32.le_iff_toNat_le] at below
      simp at shifted above below
      omega
    · exact lower
  · rintro rfl
    rfl

/-- The name that asks for everything has no other spelling. -/
theorem foldCase_eq_wildcardName_iff {name : String} :
    Text.foldCase name = wildcardName ↔ name = wildcardName := by
  rw [Text.foldCase, ← String.toList_inj, ← String.toList_inj, String.toList_ofList]
  change _ = ['*'] ↔ _ = ['*']
  rw [List.map_eq_singleton_iff]
  simp [toLower_eq_star_iff]

theorem isWildcard_ofName (kind : DeclKind) (name : String) :
    (Identifier.ofName kind name).isWildcard = (foldName name == wildcardName) := by
  rw [Bool.eq_iff_iff, beq_iff_eq, foldName, foldCase_eq_wildcardName_iff]
  exact beq_iff_eq

section

variable {kind : DeclKind} {a b : String} (same : foldName a = foldName b)
include same

theorem matchesName_ofName_congr (qualifiedName : String) :
    (Identifier.ofName kind a).matchesName qualifiedName =
      (Identifier.ofName kind b).matchesName qualifiedName := by
  rw [matchesName_ofName, matchesName_ofName, same]

theorem find?_ofName_congr (table : NameTable) :
    table.find? (Identifier.ofName kind a).name = table.find? (Identifier.ofName kind b).name := by
  simp only [NameTable.find?, Identifier.ofName, foldName_unrooted, same]

theorem findStub?_ofName_congr :
    findStub? (Identifier.ofName kind a) = findStub? (Identifier.ofName kind b) := by
  unfold findStub?
  simp only [matchesName_ofName_congr same]
  rfl

theorem namesClass_ofName_congr :
    Locator.namesClass (.ofName kind a) = Locator.namesClass (.ofName kind b) := by
  simp only [Locator.namesClass, isWildcard_ofName, same]
  rfl

theorem resolveOne_ofName_congr (limit : Nat) (source : Source) :
    resolveOne limit source (.ofName kind a) = resolveOne limit source (.ofName kind b) := by
  unfold resolveOne
  simp only [matchesName_ofName_congr same]
  rfl

end

/-! ## Locators -/

namespace Locator

def isAutoload : Locator → Bool
  | autoload _ => true
  | _ => false

/-- Nothing that the locator asks tells the spellings of a name apart: it has no directories by
namespace. -/
def Spellable (l : Locator) : Prop := ∀ leaf ∈ l.leaves, leaf.isAutoload = false

instance (l : Locator) : Decidable l.Spellable :=
  inferInstanceAs (Decidable (∀ leaf ∈ l.leaves, leaf.isAutoload = false))

mutual

theorem locate_ofName_congr (w : World) {kind : DeclKind} {a b : String}
    (same : foldName a = foldName b) : ∀ l : Locator, l.Spellable →
      locate w (.ofName kind a) l = locate w (.ofName kind b) l
  | .text code, _ => by rw [locate, locate]
  | .file path, _ => by rw [locate, locate]
  | .evaluated registry, _ => by
    rw [locate, locate, find?_ofName_congr same]
    rfl
  | .builtin, _ => by rw [locate, locate, findStub?_ofName_congr same]
  | .classMap paths, _ => by
    rw [locate, locate, namesClass_ofName_congr same, find?_ofName_congr same]
  | .autoload directories, spellable => by
    cases spellable (.autoload directories) (by simp [leaves])
  | .chain members, spellable => by
    rw [Spellable, leaves] at spellable
    rw [locate, locate, locateFirst_ofName_congr w same members spellable]

theorem locateFirst_ofName_congr (w : World) {kind : DeclKind} {a b : String}
    (same : foldName a = foldName b) : ∀ ls : List Locator,
      (∀ leaf ∈ leavesAll ls, leaf.isAutoload = false) →
      locateFirst w (.ofName kind a) ls = locateFirst w (.ofName kind b) ls
  | [], _ => by rw [locateFirst, locateFirst]
  | l :: rest, spellable => by
    rw [leavesAll, List.forall_mem_append] at spellable
    rw [locateFirst_cons, locateFirst_cons, locate_ofName_congr w same l spellable.1,
      locateFirst_ofName_congr w same rest spellable.2]

end

-- Directories by namespace tell spellings apart, as files do.
example :
    let w : World := { files := (FileTree.empty []).write "A.php" "<?php class A \x7b\x7d" }
    let l : Locator := .autoload (.ofList [("", ".")])
    locate w (.ofName .classLike "A") l = .ok (some (.potential "./A.php")) ∧
      locate w (.ofName .classLike "a") l = .ok none := by
  decide +kernel

end Locator

/-! ## Lookups -/

namespace Reflector

variable {r : Reflector} {w : World} {kind : DeclKind} {a b : String}

theorem reflect?_ofName_congr (spellable : r.locator.Spellable) (same : foldName a = foldName b) :
    r.reflect? w (.ofName kind a) = r.reflect? w (.ofName kind b) := by
  simp only [reflect?, Locator.locate_ofName_congr w same r.locator spellable,
    resolveOne_ofName_congr same]

theorem reflectClass_eq_ok_iff {c : Class} :
    r.reflectClass w a = .ok c ↔ r.reflect w (.ofName .classLike a) = .ok (.ofClass c) := by
  rw [← map_reflectClass]
  cases r.reflectClass w a with
  | error e => simp [Except.map]
  | ok d => simp [Except.map]

theorem reflect_eq_ok_iff {i : Identifier} {d : Reflection} :
    r.reflect w i = .ok d ↔ r.reflect? w i = .ok (some d) := by
  rcases reflect_cases r w i with ⟨_, -, outcome, reflected, -⟩ | ⟨missed, reflected, -⟩ |
    ⟨e, -, outcome, reflected, -⟩
  · simp [outcome, reflected]
  · simp [reflect?_eq_none_iff.2 missed, reflected]
  · simp [outcome, reflected]

/-- In the source that serves the query, declarations are named by leaves. -/
def ServesLeafNames (r : Reflector) (w : World) (i : Identifier) : Prop :=
  ∀ located source parsed, r.locator.locate w i = .ok (some located) →
    located.settle w.files = .ok source →
    Grammar.parse source.text source.label = .ok parsed → LeafNames parsed.tree

/-- What a lookup finds has the name that was asked for. -/
theorem foldName_of_reflect (names : r.ServesLeafNames w (.ofName kind a)) {d : Reflection}
    (found : r.reflect w (.ofName kind a) = .ok d) : foldName d.name = foldName a := by
  rw [reflect_eq_ok_iff] at found
  rcases reflect?_eq_ok_iff.1 found with ⟨-, absent⟩ |
    ⟨located, source, parsed, served, settled, -, success, described⟩
  · cases absent
  · obtain ⟨c, first, describes⟩ := Option.bind_eq_some_iff.1 described.symm
    obtain ⟨d', describes', name, -⟩ := describe?_of_mem_candidates
      (names located source parsed served settled success) (List.mem_of_find?_eq_some first)
    rw [describes] at describes'
    cases describes'
    have matched := List.find?_some first
    rw [matchesName_ofName, beq_iff_eq] at matched
    rw [name, matched]

/-- Two spellings of a name give the same description, are both missed, or fail alike, and the
question whether there is a declaration gets the same answer.  A class that was found is found
again under its own name. -/
theorem reflect_spellings (r : Reflector) (spellable : r.locator.Spellable) (w : World)
    (kind : DeclKind) {a b : String} (same : foldName a = foldName b) :
    ((∃ d, r.reflect w (.ofName kind a) = .ok d ∧ r.reflect w (.ofName kind b) = .ok d) ∨
      (r.reflect w (.ofName kind a) = .error (.notFound (.ofName kind a)) ∧
        r.reflect w (.ofName kind b) = .error (.notFound (.ofName kind b))) ∨
      ∃ e, e.isNotFound = false ∧ r.reflect w (.ofName kind a) = .error e ∧
        r.reflect w (.ofName kind b) = .error e) ∧
    r.has w (.ofName kind a) = r.has w (.ofName kind b) ∧
    ∀ c, r.ServesLeafNames w (.ofName .classLike a) → r.reflectClass w a = .ok c →
      r.reflectClass w c.name = .ok c := by
  have agree : r.reflect? w (.ofName kind a) = r.reflect? w (.ofName kind b) :=
    reflect?_ofName_congr spellable same
  refine ⟨?_, ?_, fun c names found => ?_⟩
  · rcases reflect_cases r w (.ofName kind a) with ⟨d, -, outcome, reflected, -⟩ |
      ⟨missed, reflected, -⟩ | ⟨e, fault, outcome, reflected, -⟩
    · rw [agree] at outcome
      exact .inl ⟨d, reflected, reflect_eq_ok_iff.2 outcome⟩
    · rw [← reflect?_eq_none_iff, agree, reflect?_eq_none_iff] at missed
      exact .inr (.inl ⟨reflected, reflect_eq_notFound_iff.2 ⟨rfl, missed⟩⟩)
    · rw [agree] at outcome
      refine .inr (.inr ⟨e, fault, reflected, ?_⟩)
      simp only [reflect, outcome]
      rfl
  · simp only [has, agree]
  · rw [reflectClass_eq_ok_iff] at found ⊢
    have ownName : foldName a = foldName c.name := (foldName_of_reflect names found).symm
    rw [reflect_eq_ok_iff] at found ⊢
    rwa [← reflect?_ofName_congr spellable ownName]

/-- A text that declares `N\Foo`, behind locators that miss it. -/
def mixedChain : Reflector where
  locator := .chain [.builtin, .chain [.evaluated, .classMap (.ofList [("N\\Bar", "Bar.php")])],
    .text "<?php namespace N; class Foo \x7b\x7d"]

theorem reflect_spellings_mixedChain :
    mixedChain.locator.Spellable ∧ foldName "\\n\\FOO" = foldName "N\\Foo" ∧
    mixedChain.ServesLeafNames { files := .empty [] } (.ofName .classLike "\\n\\FOO") ∧
    mixedChain.has { files := .empty [] } (.ofName .classLike "\\n\\FOO") =
      mixedChain.has { files := .empty [] } (.ofName .classLike "N\\Foo") ∧
    ∃ c, mixedChain.reflectClass { files := .empty [] } "\\n\\FOO" = .ok c ∧ c.name = "N\\Foo" ∧
      mixedChain.reflectClass { files := .empty [] } c.name = .ok c := by
  have spellable : mixedChain.locator.Spellable := by decide +kernel
  have same : foldName "\\n\\FOO" = foldName "N\\Foo" := by decide +kernel
  have served : mixedChain.locator.locate { files := .empty [] } (.ofName .classLike "\\n\\FOO") =
      .ok (some (.definite (.evaluated "<?php namespace N; class Foo \x7b\x7d"))) := by
    decide +kernel
  have checked : ((Grammar.parse "<?php namespace N; class Foo \x7b\x7d" "<evaluated>").toOption.all
      fun parsed => decide (LeafNames parsed.tree)) = true := by
    decide +kernel
  have names : mixedChain.ServesLeafNames { files := .empty [] }
      (.ofName .classLike "\\n\\FOO") := by
    intro located source parsed hit settled success
    rw [served] at hit
    cases hit
    cases settled
    change Grammar.parse _ "<evaluated>" = _ at success
    rw [Source.evaluated] at success
    rw [success] at checked
    exact of_decide_eq_true checked
  have found : ((mixedChain.reflectClass { files := .empty [] } "\\n\\FOO").toOption.any
      fun c => c.name == "N\\Foo") = true := by
    decide +kernel
  obtain ⟨-, answered, again⟩ :=
    reflect_spellings mixedChain spellable { files := .empty [] } .classLike same
  obtain ⟨c, present, name⟩ := (Option.any_eq_true _ _).1 found
  have reflected := eq_ok_of_toOption present
  exact ⟨spellable, same, names, answered, c, reflected, beq_iff_eq.1 name,
    again c names reflected⟩

end Reflector

end Introspect
