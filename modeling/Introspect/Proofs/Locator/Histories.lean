import Mathlib.Data.Set.Card
import Introspect.Proofs.Locator.Spelling
import Introspect.Proofs.Locator.Table
import Introspect.Session

/-! # Tables over their history

Tables, queries and the search among built-in declarations each bring names into a form of their own.
All of them tell the same names apart:

* `SameName` — the query for one name asks for the other;
* `NameTable.lastFiled?`, `NameTable.find?_ofList_eq` — a table answers with the last text filed under
  a name that is the same;
* `NameTable.nameClasses`, `NameTable.size_ofList` — and counts the names that are not;
* `TableUse`, `NameTable.answers_append` — in a history each lookup sees what was filed before it;
* `Session.locate_afterUses` — so do lookups of evaluated code in a session that registers more of it;
* `hasStub_iff` — a name is built in if the built-in declarations serve it;
* `NameTable.answered_by_name` — all this together.
-/

namespace Introspect

/-! ## Names that are the same -/

/-- The query for the first name asks for the second. -/
def SameName (a b : String) : Prop := (Identifier.ofName .classLike a).matchesName b = true

instance (a b : String) : Decidable (SameName a b) := inferInstanceAs (Decidable (_ = true))

theorem sameName_iff {a b : String} : SameName a b ↔ foldName a = foldName b := by
  rw [SameName, matchesName_ofName, beq_iff_eq, eq_comm]

theorem sameName_equivalence : Equivalence SameName where
  refl _ := sameName_iff.2 rfl
  symm same := sameName_iff.2 (sameName_iff.1 same).symm
  trans same same' := sameName_iff.2 ((sameName_iff.1 same).trans (sameName_iff.1 same'))

/-- Names up to those that are the same. -/
def nameSetoid : Setoid String := ⟨SameName, sameName_equivalence⟩

/-- The filed form, which the same names share and no others. -/
def filedForm : Quotient nameSetoid → String :=
  Quotient.lift foldName fun _ _ same => sameName_iff.1 same

theorem filedForm_injective : Function.Injective filedForm := by
  rintro ⟨a⟩ ⟨b⟩ same
  exact Quotient.sound (sameName_iff.2 same)

namespace NameTable

theorem find?_unrooted (t : NameTable) (name : String) : t.find? (unrooted name) = t.find? name := by
  rw [find?, foldName_unrooted, find?]

/-- The text of the last entry whose name is the one that is looked for. -/
def lastFiled? (entries : List (String × String)) (name : String) : Option String :=
  ((entries.filter fun e => SameName e.1 name).getLast?).map (·.2)

theorem find?_ofList_eq (entries : List (String × String)) (name : String) :
    (ofList entries).find? name = lastFiled? entries name := by
  have filters : (fun e : String × String => foldName e.1 == foldName name) =
      fun e => decide (SameName e.1 name) := by
    funext e
    rw [Bool.eq_iff_iff, beq_iff_eq, decide_eq_true_iff, sameName_iff]
  rw [find?_ofList, filters, lastFiled?]

/-! ## Size -/

def keys (t : NameTable) : List String := t.entries.map (·.1)

theorem keys_insert (t : NameTable) (name text : String) :
    (t.insert name text).keys = foldName name :: t.keys.filter (· != foldName name) := by
  simp [insert, keys, List.filter_map, Function.comp_def]

/-- The classes of the names that texts are filed under. -/
def nameClasses (entries : List (String × String)) : Set (Quotient nameSetoid) :=
  {c | ∃ e ∈ entries, Quotient.mk nameSetoid e.1 = c}

theorem keys_ofList (entries : List (String × String)) :
    (ofList entries).keys.Nodup ∧
      ∀ key, key ∈ (ofList entries).keys ↔ ∃ e ∈ entries, foldName e.1 = key := by
  induction entries using List.reverseRecOn with
  | nil => exact ⟨List.nodup_nil, by simp [ofList, keys]⟩
  | append_singleton entries e ih =>
    -- The new key goes in front, and is taken out behind, so that it stands once.
    obtain ⟨nodup, members⟩ := ih
    rw [ofList_append_singleton, keys_insert]
    refine ⟨List.nodup_cons.2 ⟨by simp, nodup.filter _⟩, fun key => ?_⟩
    rw [List.mem_cons, List.mem_filter, members]
    by_cases new : key = foldName e.1
    · simp [new]
    · simp [new, Ne.symm new]

theorem size_ofList (entries : List (String × String)) :
    (ofList entries).size = (nameClasses entries).ncard := by
  obtain ⟨nodup, members⟩ := keys_ofList entries
  -- The filed form takes the classes to the keys, one to one.
  have forms : filedForm '' nameClasses entries = ((ofList entries).keys.toFinset : Set String) := by
    ext key
    simp only [nameClasses, Set.mem_image, Set.mem_ofPred_eq, Finset.mem_coe, List.mem_toFinset,
      members]
    constructor
    · rintro ⟨_, ⟨e, member, rfl⟩, rfl⟩
      exact ⟨e, member, rfl⟩
    · rintro ⟨e, member, rfl⟩
      exact ⟨_, ⟨e, member, rfl⟩, rfl⟩
  calc (ofList entries).size = (ofList entries).keys.length := (List.length_map _).symm
    _ = (ofList entries).keys.toFinset.card := (List.toFinset_card_of_nodup nodup).symm
    _ = (filedForm '' nameClasses entries).ncard := by rw [forms, Set.ncard_coe_finset]
    _ = (nameClasses entries).ncard := Set.ncard_image_of_injective _ filedForm_injective

end NameTable

/-! ## Histories -/

/-- One use of a table: a text is filed, or a name is looked for. -/
inductive TableUse where
  | file (name text : String)
  | find (name : String)
deriving DecidableEq, Repr

/-- What a history files, in order. -/
def TableUse.filings (uses : List TableUse) : List (String × String) :=
  uses.filterMap fun
    | file name text => some (name, text)
    | find _ => none

namespace NameTable

open TableUse

def afterUse (t : NameTable) : TableUse → NameTable
  | file name text => t.insert name text
  | find _ => t

def afterUses (t : NameTable) (uses : List TableUse) : NameTable := uses.foldl afterUse t

/-- What the lookups of a history find, in order. -/
def answers (t : NameTable) : List TableUse → List (Option String)
  | [] => []
  | file name text :: rest => (t.insert name text).answers rest
  | find name :: rest => t.find? name :: t.answers rest

theorem answers_append (t : NameTable) (before after : List TableUse) :
    t.answers (before ++ after) = t.answers before ++ (t.afterUses before).answers after := by
  induction before generalizing t with
  | nil => rfl
  | cons use before ih =>
    cases use with
    | file name text => exact ih (t.insert name text)
    | find name => exact congrArg (t.find? name :: ·) (ih t)

theorem afterUses_eq_foldl (t : NameTable) (uses : List TableUse) :
    t.afterUses uses = (filings uses).foldl (fun t e => t.insert e.1 e.2) t := by
  induction uses generalizing t with
  | nil => rfl
  | cons use uses ih =>
    cases use with
    | file name text => exact ih (t.insert name text)
    | find name => exact ih t

theorem afterUses_empty (uses : List TableUse) : afterUses {} uses = ofList (filings uses) :=
  afterUses_eq_foldl {} uses

end NameTable

namespace Session

open TableUse

/-- A use of one of several registries. -/
def afterUse (s : Session) : Nat × TableUse → Session
  | (registry, file name code) => s.register name code registry
  | (_, find _) => s

/-- The session after evaluated code was registered and looked for. -/
def afterUses (s : Session) (uses : List (Nat × TableUse)) : Session := uses.foldl afterUse s

/-- The uses of one registry. -/
def usesOf (registry : Nat) (uses : List (Nat × TableUse)) : List TableUse :=
  (uses.filter fun use => use.1 == registry).map (·.2)

/-- A registry is as its own uses leave it. -/
theorem registries_afterUses (s : Session) (uses : List (Nat × TableUse)) (registry : Nat) :
    (s.afterUses uses).world.registries registry =
      (s.world.registries registry).afterUses (usesOf registry uses) := by
  induction uses generalizing s with
  | nil => rfl
  | cons use uses ih =>
    have rest := ih (s.afterUse use)
    obtain ⟨used, use⟩ := use
    change (afterUses _ uses).world.registries registry = _
    rw [rest]
    by_cases same : used = registry
    · subst same
      cases use <;> simp [usesOf, afterUse, register, World.register, NameTable.afterUses,
        NameTable.afterUse]
    · have other : registry ≠ used := fun eq => same eq.symm
      cases use <;> simp [usesOf, afterUse, register, World.register, same, other]

section

variable (files : FileTree) (reflector : Reflector) (uses : List (Nat × TableUse)) (registry : Nat)

/-- In a session that begins with no evaluated code, what is at hand is what was registered. -/
theorem registries_afterUses_empty :
    (afterUses { world := { files }, reflector } uses).world.registries registry =
      NameTable.ofList (filings (usesOf registry uses)) := by
  rw [registries_afterUses]
  exact NameTable.afterUses_empty _

theorem locate_afterUses (name : String) :
    (Locator.evaluated registry).locate (afterUses { world := { files }, reflector } uses).world
        (.ofName .classLike name) =
      .ok ((NameTable.lastFiled? (filings (usesOf registry uses)) name).map fun code =>
        .definite (.evaluated code)) := by
  rw [← NameTable.find?_ofList_eq, ← registries_afterUses_empty files reflector,
    ← NameTable.find?_unrooted, Locator.locate]
  rfl

end

end Session

/-! ## Built-in declarations -/

theorem unrooted_of_mem_stubs : ∀ s ∈ stubs, unrooted s.name = s.name := by
  decide +kernel

/-- No declaration of a kind and name is listed twice. -/
theorem stubs_apart : stubs.Pairwise fun s t => s.kind = t.kind → ¬SameName s.name t.name := by
  decide +kernel

theorem sameName_of_matchesName {i : Identifier} {a b : String} (first : i.matchesName a = true)
    (second : i.matchesName b = true) : SameName a b := by
  rw [Identifier.matchesName, Text.sameFolded, beq_iff_eq] at first second
  exact sameName_iff.2 (first.symm.trans second)

/-- A query is served by what is listed of its kind under its name. -/
theorem findStub?_eq_some_iff {i : Identifier} {s : Stub} :
    findStub? i = some s ↔ s ∈ stubs ∧ s.kind = i.kind ∧ i.matchesName s.name = true := by
  rw [findStub?, List.find?_eq_some_iff_append, Bool.and_eq_true, beq_iff_eq]
  constructor
  · rintro ⟨asked, before, after, listed, -⟩
    exact ⟨by simp [listed], asked⟩
  · rintro ⟨member, kind, matched⟩
    obtain ⟨before, after, listed⟩ := List.append_of_mem member
    refine ⟨⟨kind, matched⟩, before, after, listed, fun t earlier => ?_⟩
    -- One that is listed before it and asked for as well would be the same declaration.
    have apart := stubs_apart
    rw [listed, List.pairwise_append] at apart
    have other := apart.2.2 t earlier s List.mem_cons_self
    rw [Bool.not_eq_true', Bool.and_eq_false_imp, beq_iff_eq]
    intro sameKind
    rw [← Bool.not_eq_true]
    intro matched'
    exact other (sameKind.trans kind.symm) (sameName_of_matchesName matched' matched)

theorem findStub?_eq_none_iff {i : Identifier} :
    findStub? i = none ↔ ∀ s ∈ stubs, s.kind = i.kind → ¬i.matchesName s.name = true := by
  simp only [Option.eq_none_iff_forall_ne_some, ne_eq, findStub?_eq_some_iff, not_and]

/-- The scan for either kind compares names as queries do. -/
theorem hasStub_iff_sameName {name : String} :
    hasStub name = true ↔ ∃ s ∈ stubs, SameName s.name name := by
  rw [hasStub, List.any_eq_true]
  refine exists_congr fun s => and_congr_right fun listed => ?_
  -- The scan trims only the name that is asked for, but the listed names are trimmed already.
  rw [SameName, Identifier.matchesName, Identifier.ofName, unrooted_of_mem_stubs s listed]

theorem locate_builtin_iff {w : World} {kind : DeclKind} {name : String} :
    (∃ located, Locator.builtin.locate w (.ofName kind name) = .ok (some located)) ↔
      ∃ s ∈ stubs, s.kind = kind ∧ SameName s.name name := by
  have served : (∃ located, Locator.builtin.locate w (.ofName kind name) = .ok (some located)) ↔
      ∃ s, findStub? (.ofName kind name) = some s := by
    rw [Locator.locate]
    simp
  simp only [served, findStub?_eq_some_iff]
  refine exists_congr fun s => and_congr_right fun _ => and_congr_right fun _ => ?_
  exact ⟨sameName_equivalence.symm, sameName_equivalence.symm⟩

theorem hasStub_iff {w : World} {name : String} :
    hasStub name = true ↔
      ∃ kind located, Locator.builtin.locate w (.ofName kind name) = .ok (some located) := by
  simp only [hasStub_iff_sameName, locate_builtin_iff]
  constructor
  · rintro ⟨s, listed, same⟩
    exact ⟨s.kind, s, listed, rfl, same⟩
  · rintro ⟨kind, s, listed, -, same⟩
    exact ⟨s, listed, same⟩

/-- A name is the same as another if the query for one asks for the other.  Up to such names, a
table gives what was filed last before a lookup, whatever was looked for in between, and its size
counts what was filed; the code that a session registers is found so too, in the registry that it was
filed in and in no other.  A name is built in if the built-in declarations serve it as a class or as a
function. -/
theorem NameTable.answered_by_name :
    Equivalence SameName ∧
    (∀ (before after : List TableUse) (name : String),
      answers {} (before ++ .find name :: after) =
        answers {} before ++ lastFiled? (TableUse.filings before) name ::
          (afterUses {} before).answers after) ∧
    (∀ uses : List TableUse,
      (afterUses {} uses).size = (nameClasses (TableUse.filings uses)).ncard) ∧
    (∀ (files : FileTree) (reflector : Reflector) (uses : List (Nat × TableUse)) (registry : Nat),
      let w := (Session.afterUses { world := { files }, reflector } uses).world
      let filed := TableUse.filings (Session.usesOf registry uses)
      (w.registries registry).size = (nameClasses filed).ncard ∧
      ∀ name, (Locator.evaluated registry).locate w (.ofName .classLike name) =
        .ok ((lastFiled? filed name).map fun code => .definite (.evaluated code))) ∧
    ∀ (w : World) (name : String), hasStub name = true ↔
      ∃ kind located, Locator.builtin.locate w (.ofName kind name) = .ok (some located) := by
  refine ⟨sameName_equivalence, fun before after name => ?_, fun uses => ?_,
    fun files reflector uses registry =>
      ⟨?_, Session.locate_afterUses files reflector uses registry⟩,
    fun w name => hasStub_iff⟩
  · rw [answers_append, answers, afterUses_empty, find?_ofList_eq]
  · rw [afterUses_empty, size_ofList]
  · rw [Session.registries_afterUses_empty, size_ofList]

end Introspect
