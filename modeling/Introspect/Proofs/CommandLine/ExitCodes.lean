import Introspect.CommandLine.Basic
import Introspect.Proofs.Reflection.Misses

/-! # Exit codes

A run exits with 1 only if it asked for one declaration and the lookup missed it:

* `lookUp_eq_reflect` — what the command line looks up is what the reflector reflects;
* `code_run_eq_one_iff` — the runs that exit with 1;
* `notFound_exactly_on_misses` — from locators to exit codes, that nothing was found means a miss.
-/

namespace Introspect

/-! ## Failures before the lookup -/

theorem missFree_mapM {f : α → Except Error β} (each : ∀ a, MissFree (f a)) (as : List α) :
    MissFree (as.mapM f) := by
  induction as with
  | nil => exact .ok []
  | cons a as ih =>
    rw [List.mapM_cons]
    exact (each a).bind fun b => ih.bind fun bs => .ok (b :: bs)

theorem Locator.missFree_ofFile (files : FileTree) (path : String) :
    MissFree (Locator.ofFile files path) := by
  unfold ofFile
  split
  · exact .fault rfl
  · split
    · exact .fault rfl
    · split
      · exact .fault rfl
      · exact .ok _

theorem Config.missFree_reflector (c : Config) (files : FileTree) :
    MissFree (c.reflector files) := by
  have located : MissFree (c.locators files) :=
    (missFree_mapM (Locator.missFree_ofFile files) c.filePaths).bind fun _ => .ok _
  exact located.bind fun _ => .ok _

theorem Config.missFree_ofText (root text : String) : MissFree (Config.ofText root text) := by
  unfold ofText
  split
  · exact .ok _
  · exact .fault rfl

theorem Config.missFree_load (files : FileTree) (root : String) :
    MissFree (Config.load files root) := by
  simp only [load]
  split
  · exact missFree_ofText root _
  · exact .ok _
  · exact .fault rfl

namespace CommandLine

theorem missFree_config (o : Options) (files : FileTree) : MissFree (o.config files) :=
  (Config.missFree_load files o.projectRoot).bind fun _ => .ok _

/-! ## Runs -/

theorem lookUp_eq_reflect (r : Reflector) (w : World) (kind : DeclKind) (name : String) :
    lookUp r w kind name = r.reflect w (.ofName kind name) := by
  cases kind with
  | classLike => exact r.map_reflectClass w name
  | function => exact r.map_reflectFunction w name

theorem map_lookUp_eq_notFound_iff {r : Reflector} {w : World} {kind : DeclKind} {name : String}
    {text : Reflection → String} {i : Identifier} :
    (lookUp r w kind name >>= fun d => pure (text d)) = .error (.notFound i) ↔
      i = .ofName kind name ∧ r.Misses w (.ofName kind name) := by
  rw [lookUp_eq_reflect, ← Reflector.reflect_eq_notFound_iff]
  cases r.reflect w (.ofName kind name) with
  | error e => simp [bind, Except.bind]
  | ok d => simp [bind, Except.bind, pure, Except.pure]

/-- A report fails with a miss only where one declaration was asked for, behind a configuration that
was read and locators that were built. -/
theorem report_eq_notFound_iff {files : FileTree} {o : Options} {command : Command}
    {i : Identifier} :
    report files o command = .error (.notFound i) ↔
      ∃ config, o.config files = .ok config ∧
        ∃ reflector, config.reflector files = .ok reflector ∧
          ∃ kind name, command = .describe kind name ∧ i = .ofName kind name ∧
            reflector.Misses { files } (.ofName kind name) := by
  rw [report, (missFree_config o files).bind_eq_notFound_iff]
  refine exists_congr fun config => and_congr_right fun _ => ?_
  rw [(config.missFree_reflector files).bind_eq_notFound_iff]
  refine exists_congr fun reflector => and_congr_right fun _ => ?_
  cases command with
  | describe kind name =>
    simp only [map_lookUp_eq_notFound_iff]
    constructor
    · rintro ⟨rfl, missed⟩
      exact ⟨kind, name, rfl, rfl, missed⟩
    · rintro ⟨_, _, ⟨⟩, rfl, missed⟩
      exact ⟨rfl, missed⟩
  | list kind =>
    have listed : MissFree (reflector.reflectAll { files } kind >>= fun rs =>
        pure (listText o.json rs)) :=
      (reflector.missFree_reflectAll { files } kind).bind fun _ => .ok _
    constructor
    · intro failed
      cases listed.ne_notFound i failed
    · rintro ⟨_, _, ⟨⟩, -⟩

theorem code_ofReport_eq_one_iff {x : Except Error String} :
    (Outcome.ofReport x).code = 1 ↔ ∃ i, x = .error (.notFound i) := by
  cases x with
  | ok text => simp [Outcome.ofReport]
  | error e => cases e <;> simp [Outcome.ofReport, exitCode, Error.isNotFound]

theorem code_run_eq_one_iff {files : FileTree} {arguments : List String} :
    (run files arguments).code = 1 ↔
      ∃ options kind name config reflector,
        Request.ofArguments arguments = .ok (.run options (.describe kind name)) ∧
        options.config files = .ok config ∧ config.reflector files = .ok reflector ∧
        reflector.Misses { files } (.ofName kind name) := by
  unfold run
  cases read : Request.ofArguments arguments with
  | error fault => simp
  | ok request =>
    cases request with
    | help => simp [Request.outcome]
    | version => simp [Request.outcome]
    | run options command =>
      simp only [Request.outcome, code_ofReport_eq_one_iff, report_eq_notFound_iff]
      constructor
      · rintro ⟨i, config, configured, reflector, built, kind, name, rfl, -, missed⟩
        exact ⟨options, kind, name, config, reflector, rfl, configured, built, missed⟩
      · rintro ⟨_, kind, name, config, reflector, ⟨⟩, configured, built, missed⟩
        exact ⟨_, config, configured, reflector, built, kind, name, rfl, rfl, missed⟩

end CommandLine

/-! ## From locators to exit codes -/

open CommandLine in
/-- That nothing was found is said of misses and of nothing else.  A lookup says it if its locators
serve nothing, or a source that can be read and searched and lacks the declaration; no stage before
says it, and neither does a listing.  Whether there is a declaration is answered accordingly, and
the lookups by kind lose nothing.  So a run exits with 1 only if it was to describe one declaration
and missed it. -/
theorem notFound_exactly_on_misses (r : Reflector) (w : World) (i : Identifier) :
    (∀ j, r.reflect w i = .error (.notFound j) ↔ j = i ∧ r.Misses w i) ∧
    (∀ j, r.locator.locate w i ≠ .error (.notFound j) ∧
      (∀ located : Located, located.settle w.files ≠ .error (.notFound j)) ∧
      (∀ source, sourceCandidates r.limit source i.kind ≠ .error (.notFound j) ∧
        resolveOne r.limit source i ≠ .error (.notFound j)) ∧
      r.reflectAll w i.kind ≠ .error (.notFound j)) ∧
    (r.has w i = .ok true ↔ ∃ d, r.reflect w i = .ok d) ∧
    (r.has w i = .ok false ↔ r.reflect w i = .error (.notFound i)) ∧
    (∀ e, r.has w i = .error e ↔ r.reflect w i = .error e ∧ e.isNotFound = false) ∧
    (∀ name, (r.reflectClass w name).map .ofClass = r.reflect w (.ofName .classLike name)) ∧
    (∀ name, (r.reflectFunction w name).map .ofFunction = r.reflect w (.ofName .function name)) ∧
    ∀ files arguments,
      ((run files arguments).code = 1 ↔
        ∃ options kind name config reflector,
          Request.ofArguments arguments = .ok (.run options (.describe kind name)) ∧
          options.config files = .ok config ∧ config.reflector files = .ok reflector ∧
          reflector.Misses { files } (.ofName kind name)) ∧
      ¬ ∃ options kind, Request.ofArguments arguments = .ok (.run options (.list kind)) ∧
        (run files arguments).code = 1 := by
  refine ⟨fun j => Reflector.reflect_eq_notFound_iff, fun j => ?_, Reflector.has_eq_true_iff,
    Reflector.has_eq_false_iff, fun e => Reflector.has_eq_error_iff, r.map_reflectClass w,
    r.map_reflectFunction w, fun files arguments => ⟨code_run_eq_one_iff, ?_⟩⟩
  · exact ⟨(Locator.missFree_locate w i r.locator).ne_notFound j,
      fun located => (missFree_settle w.files located).ne_notFound j,
      fun source => ⟨(missFree_sourceCandidates r.limit source i.kind).ne_notFound j,
        (missFree_resolveOne r.limit source i).ne_notFound j⟩,
      (r.missFree_reflectAll w i.kind).ne_notFound j⟩
  · rintro ⟨options, kind, listing, exited⟩
    obtain ⟨_, _, _, _, _, describing, -⟩ := code_run_eq_one_iff.1 exited
    rw [listing] at describing
    cases describing

-- A class that is declared in a namespace is found under its full name, in any letter case, and
-- missed under the name that it has there.
example :
    let r : Reflector := { locator := .text "<?php namespace N; class A \x7b\x7d" }
    let w : World := { files := .empty [] }
    (r.reflect w (.ofName .classLike "\\n\\a")).map Reflection.name = .ok "N\\A" ∧
      (r.reflect w (.ofName .classLike "A")).map Reflection.name =
        .error (.notFound (.ofName .classLike "A")) := by
  decide +kernel

end Introspect
