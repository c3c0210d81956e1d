import ModuleDiscovery.Disk.Tree
import ModuleDiscovery.Proofs.Collect.Reads
import ModuleDiscovery.Proofs.Command.Run

/-!
# A collection delivers all or nothing

A collection loads its configuration, checks it, reads the entry, collects the modules and
renders them.  Each of these steps can fail, and a walk can fail at any depth of it.  None of
them prints or writes: that is left to the one step behind them, which has the whole manifest.

## Strategy

* **Quiet steps.**  A step that only gives notice has a result of its own, which does not
  depend on what was done before (`Notifies`).  Such steps are put together like their
  results, so all that comes before the delivery is quiet, and `prepared` is its result.
* **The delivery.**  A collection is `prepare` and `deliver` behind it, and an outcome of it
  is one of four (`Delivery`).
  A stream takes all that is printed, and a file that is not refused is written as a whole
  and is none of the streams (`ModuleDiscovery.Command.Basic`), so nothing can come between
  the manifest and its destination.
* **No empty manifest.**  A manifest has a line for each module, and there is at least one:
  the entrypoint, or the first of the modules that are listed (`ne_nil_of_collectModules`).
  So a manifest that was printed is told from one that was not.

## Main results

* `collect_all_or_nothing`: what a collection leaves behind on standard output and in a file.
-/

namespace ModuleDiscovery

open Walk

/-! ## Manifests are not empty -/

theorem Manifest.line_ne_empty (m : WorkerModule) : Manifest.line m ≠ "" := by
  intro hline
  have hlength := congrArg String.length hline
  simp [Manifest.line] at hlength

theorem Manifest.render_ne_empty {modules : List WorkerModule} (hmodules : modules ≠ [])
    (format : ManifestFormat) : Manifest.render modules format ≠ "" := by
  intro hrender
  cases format with
  | json =>
      have hlength := congrArg String.length hrender
      simp [Manifest.render] at hlength
  | text =>
      obtain ⟨m, rest, rfl⟩ := List.exists_cons_of_ne_nil hmodules
      rw [Manifest.render, List.map_cons, String.join_cons, String.append_eq_empty_iff] at hrender
      exact Manifest.line_ne_empty m hrender.1

/-- A walk that succeeds from the beginning has recorded its entrypoint. -/
theorem modules_ne_nil_of_visitEntrypoint {w : Walker} {code : String} {path : Path} {s : State}
    (hrun : (w.visitEntrypoint code path).run .fresh = (.ok (), s)) : s.modules ≠ [] := by
  have hentry := entry w code path .fresh
  rw [hrun] at hentry
  cases hentry with
  | visited _ hvisited => cases hvisited
  | opened _ _ hopen hdrains =>
      cases opening_of_run hopen with
      | parsed specifiers hparse =>
          obtain ⟨more, hmore⟩ := hdrains.progress.modules
          rw [← hmore]
          simp

/-- The modules of a build include the entrypoint, or the first module that is listed. -/
theorem ne_nil_of_collectModules {source : ModuleSource} {options : WalkOptions}
    {runtime : Runtime} {parser : SpecifierParser} {modules : List WorkerModule} {log : List Event}
    (hsource : source ≠ .listed [])
    (hrun : ((collectModules source options runtime parser).run log).1 = .ok modules) :
    modules ≠ [] := by
  have hrun : (collectModules source options runtime parser).run log = (.ok modules, _) :=
    Prod.ext hrun rfl
  cases source with
  | entrypoint code path =>
      obtain ⟨w, s, -, hwalk, rfl, -⟩ := collectModules_entrypoint_eq_ok hrun
      exact modules_ne_nil_of_visitEntrypoint hwalk
  | listed definitions =>
      cases definitions with
      | nil => exact absurd rfl hsource
      | cons d rest =>
          obtain ⟨built, log₁, hlisted, hend⟩ := exists_of_run_bind_ok log hrun
          obtain rfl : built = modules := Except.ok.inj (congrArg Prod.fst hend)
          exact ne_nil_of_run_mapM log (run_of_run_adapt_ok log hlisted)

/-- A manifest at its destination: in the file that was asked for, or else on standard
output. -/
def Outcome.Delivers (outcome : Outcome) (manifest : String) : Option Path → Prop
  | none => outcome.printed = manifest
  | some target => outcome.written = some (target, Utf8.encode manifest)

namespace Command

variable {α β ε : Type} {s : Surroundings} {entryGiven : Bool} {flags : Flags}
  {given : Option Path} {cwd : Path} {modules : List WorkerModule}

/-! ## Quiet steps -/

/-- A step with a result that gives notice and does nothing else, whatever was done before. -/
def Notifies (x : Command α) (result : Except CommandError α) : Prop :=
  ∃ notices, ∀ t, x.run t = (result, t.note notices)

theorem notifies_pure (a : α) : Notifies (pure a) (.ok a) :=
  ⟨[], fun t => by rw [Transcript.note_nil]; rfl⟩

theorem notifies_throw (e : CommandError) : Notifies (throw e : Command α) (.error e) :=
  ⟨[], fun t => by rw [Transcript.note_nil]; rfl⟩

theorem notifies_note (notice : Notice) : Notifies (note notice) (.ok ()) :=
  ⟨[notice], run_note notice⟩

theorem notifies_pass (wrap : ε → CommandError) (x : Except ε α) :
    Notifies (pass wrap x) (x.mapError wrap) :=
  ⟨[], fun t => by rw [Transcript.note_nil, run_pass]⟩

theorem notifies_follow (wrap : ε → CommandError) (step : Logged ε α) :
    Notifies (follow wrap step) ((step.run []).1.mapError wrap) :=
  ⟨(step.run []).2.map .discovery, run_follow wrap step⟩

theorem notifies_loadConfig (s : Surroundings) (file : Option Path) (flags : Flags) (cwd : Path) :
    Notifies (loadConfig s file flags cwd)
      ((Config.load s.disk file s.environment flags cwd).mapError .config) :=
  ⟨loadNotices file, run_loadConfig s file flags cwd⟩

/-- Quiet steps one behind the other are quiet, and their results are put together. -/
theorem Notifies.bind {x : Command α} {f : α → Command β} {r : Except CommandError α}
    {g : α → Except CommandError β} (hx : Notifies x r) (hf : ∀ a, Notifies (f a) (g a)) :
    Notifies (x >>= f) (r >>= g) := by
  obtain ⟨notices, hx⟩ := hx
  cases r with
  | error e =>
      refine ⟨notices, fun t => ?_⟩
      rw [run_bind, hx]
      rfl
  | ok a =>
      obtain ⟨more, hf⟩ := hf a
      refine ⟨notices ++ more, fun t => ?_⟩
      rw [run_bind_ok t (hx t), hf, Transcript.note_note]
      rfl

/-! ## What comes before the delivery -/

/-- All of a collection before its delivery. -/
def prepare (s : Surroundings) (entryGiven : Bool) (flags : Flags) (given : Option Path) :
    Command (Path × List WorkerModule) := do
  let cwd ← workingDirectory s
  let config ← loadConfig s (Config.file? s.disk given cwd) flags cwd
  pass .config config.validate
  let modules ← gather s config entryGiven cwd
  note (.manifestReady modules.length)
  return (cwd, modules)

theorem collect_eq_prepare (s : Surroundings) (entry : Option Path) (flags : Flags)
    (given : Option Path) (format : ManifestFormat) (output : Option Path) :
    collect s entry flags given format output =
      prepare s entry.isSome flags given >>= fun (cwd, modules) =>
        deliver s.disk cwd modules.length (Manifest.render modules format) output := by
  simp only [collect, prepare, bind_assoc, pure_bind]

/-- Where the modules of a configuration come from. -/
inductive Starts (config : Config) (entryGiven : Bool) (runtime : Runtime) : ModuleSource → Prop
  /-- Modules that are declared, when there is no entry on the command line. -/
  | listed (hentry : entryGiven = false) (hmodules : config.modules ≠ []) :
      Starts config entryGiven runtime (.listed config.modules)
  /-- Otherwise the entrypoint, which is read. -/
  | read {main : Path} {source : ModuleSource}
      (hwalk : entryGiven = true ∨ config.modules = []) (hmain : config.main = some main)
      (hread : ((ModuleSource.ofFile runtime main).run []).1 = .ok source) :
      Starts config entryGiven runtime source

/-- The modules that a collection comes to when its configuration is loaded and valid, its
entry is read, and all modules are collected. -/
def Collected (s : Surroundings) (entryGiven : Bool) (flags : Flags) (given : Option Path)
    (cwd : Path) (modules : List WorkerModule) : Prop :=
  ∃ config source, s.disk.cwd = .ok cwd ∧
    Config.load s.disk (Config.file? s.disk given cwd) s.environment flags cwd = .ok config ∧
    config.validate = .ok () ∧ Starts config entryGiven s.disk.runtime source ∧
    ((collectModules source (config.walkOptions cwd) s.disk.runtime s.parser).run []).1 =
      .ok modules

/-- The source of the modules, as a result. -/
def sourced (config : Config) (entryGiven : Bool) (runtime : Runtime) :
    Except CommandError ModuleSource :=
  if !entryGiven && !config.modules.isEmpty then .ok (.listed config.modules)
  else
    match config.main with
    | some main => ((ModuleSource.ofFile runtime main).run []).1.mapError (.collect <| .module ·)
    | none => .error (.config .noEntrypoint)

theorem notifies_sourceOf (config : Config) (entryGiven : Bool) (runtime : Runtime) :
    Notifies (sourceOf config entryGiven runtime) (sourced config entryGiven runtime) := by
  unfold sourceOf sourced
  split_ifs
  · exact notifies_pure _
  · cases config.main with
    | none => exact notifies_throw _
    | some main => exact notifies_follow _ _

theorem sourced_eq_ok_iff {config : Config} {runtime : Runtime} {source : ModuleSource} :
    sourced config entryGiven runtime = .ok source ↔ Starts config entryGiven runtime source := by
  unfold sourced
  constructor
  · intro hsource
    split_ifs at hsource with hlisted
    · obtain rfl := Except.ok.inj hsource
      simp only [Bool.and_eq_true, Bool.not_eq_true', List.isEmpty_eq_false_iff] at hlisted
      exact Starts.listed hlisted.1 hlisted.2
    · have hwalk : entryGiven = true ∨ config.modules = [] := by
        cases entryGiven with
        | true => exact Or.inl rfl
        | false => simpa using hlisted
      cases hmain : config.main with
      | none =>
          rw [hmain] at hsource
          cases hsource
      | some main =>
          rw [hmain] at hsource
          exact Starts.read hwalk hmain (mapError_eq_ok_iff.mp hsource)
  · intro hstarts
    cases hstarts with
    | listed hentry hmodules => rw [if_pos (by simp [hentry, hmodules])]
    | read hwalk hmain hread =>
        rw [if_neg (by rcases hwalk with hwalk | hwalk <;> simp [hwalk]), hmain]
        exact mapError_eq_ok_iff.mpr hread

/-- All of a collection before its delivery, as a result. -/
def prepared (s : Surroundings) (entryGiven : Bool) (flags : Flags) (given : Option Path) :
    Except CommandError (Path × List WorkerModule) := do
  let cwd ← s.disk.cwd.mapError .adrift
  let config ← (Config.load s.disk (Config.file? s.disk given cwd) s.environment flags
    cwd).mapError .config
  config.validate.mapError .config
  let source ← sourced config entryGiven s.disk.runtime
  let modules ← ((collectModules source (config.walkOptions cwd) s.disk.runtime
    s.parser).run []).1.mapError .collect
  return (cwd, modules)

theorem notifies_prepare (s : Surroundings) (entryGiven : Bool) (flags : Flags)
    (given : Option Path) :
    Notifies (prepare s entryGiven flags given) (prepared s entryGiven flags given) := by
  unfold prepare prepared
  refine (notifies_pass .adrift s.disk.cwd).bind fun cwd => ?_
  refine (notifies_loadConfig s _ flags cwd).bind fun config => ?_
  refine (notifies_pass .config config.validate).bind fun _ => ?_
  rw [gather, bind_assoc]
  refine (notifies_sourceOf config entryGiven s.disk.runtime).bind fun source => ?_
  refine (notifies_follow .collect _).bind fun modules => ?_
  exact (notifies_note _).bind fun _ => notifies_pure _

theorem prepared_eq_ok_iff :
    prepared s entryGiven flags given = .ok (cwd, modules) ↔
      Collected s entryGiven flags given cwd modules := by
  simp only [prepared, bind_eq_ok_iff, mapError_eq_ok_iff, sourced_eq_ok_iff]
  constructor
  · rintro ⟨cwd', hcwd, config, hload, ⟨⟩, hvalid, source, hstarts, modules', hmodules, hpair⟩
    obtain ⟨rfl, rfl⟩ := Prod.mk.inj (Except.ok.inj hpair)
    exact ⟨config, source, hcwd, hload, hvalid, hstarts, hmodules⟩
  · rintro ⟨config, source, hcwd, hload, hvalid, hstarts, hmodules⟩
    exact ⟨cwd, hcwd, config, hload, (), hvalid, source, hstarts, modules, hmodules, rfl⟩

/-! ## The delivery -/

/-- The manifests of the modules that a collection comes to. -/
def ManifestOf (s : Surroundings) (entryGiven : Bool) (flags : Flags) (given : Option Path)
    (format : ManifestFormat) (cwd : Path) (manifest : String) : Prop :=
  ∃ modules, Collected s entryGiven flags given cwd modules ∧
    manifest = Manifest.render modules format

variable {format : ManifestFormat} {manifest : String}

theorem Collected.ne_nil (hcollected : Collected s entryGiven flags given cwd modules) :
    modules ≠ [] := by
  obtain ⟨config, source, -, -, -, hstarts, hmodules⟩ := hcollected
  refine ne_nil_of_collectModules ?_ hmodules
  cases hstarts with
  | listed _ hdeclared => simpa using hdeclared
  | read _ _ hread =>
      rw [run_ofFile] at hread
      rintro rfl
      split at hread
      · cases hread
      · split at hread <;> cases hread

theorem ManifestOf.ne_empty (hmanifest : ManifestOf s entryGiven flags given format cwd manifest) :
    manifest ≠ "" := by
  obtain ⟨modules, hcollected, rfl⟩ := hmanifest
  exact Manifest.render_ne_empty hcollected.ne_nil format

theorem ManifestOf.cwd_eq (hmanifest : ManifestOf s entryGiven flags given format cwd manifest) :
    s.disk.cwd = .ok cwd := by
  obtain ⟨_, ⟨_, _, hcwd, -⟩, -⟩ := hmanifest
  exact hcwd

/-- The outcomes of a collection whose log lines have a filter or not. -/
inductive Delivery (s : Surroundings) (filtered : Prop) (entryGiven : Bool) (flags : Flags)
    (given : Option Path) (format : ManifestFormat) (output : Option Path) : Outcome → Prop
  /-- It fails before there is a manifest. -/
  | nothing (code : ℕ) (hcode : code ≠ 0)
      (hnone : filtered → ∀ cwd manifest,
        ¬ ManifestOf s entryGiven flags given format cwd manifest) :
      Delivery s filtered entryGiven flags given format output ⟨code, "", none⟩
  /-- It has a manifest and may not write it. -/
  | refused {cwd target : Path} {manifest : String} {cause : DiskError} (hfilter : filtered)
      (hmanifest : ManifestOf s entryGiven flags given format cwd manifest)
      (houtput : output.map cwd.join = some target)
      (hrefusal : s.disk.refusal? target = some cause) :
      Delivery s filtered entryGiven flags given format output ⟨1, "", none⟩
  | printed {cwd : Path} {manifest : String} (hfilter : filtered)
      (hmanifest : ManifestOf s entryGiven flags given format cwd manifest)
      (houtput : output = none) :
      Delivery s filtered entryGiven flags given format output ⟨0, manifest, none⟩
  | written {cwd target : Path} {manifest : String} (hfilter : filtered)
      (hmanifest : ManifestOf s entryGiven flags given format cwd manifest)
      (houtput : output.map cwd.join = some target) (hrefusal : s.disk.refusal? target = none) :
      Delivery s filtered entryGiven flags given format output
        ⟨0, "", some (target, Utf8.encode manifest)⟩

/-- A run of `collect` is a delivery. -/
theorem delivery_of_run (s : Surroundings) {filtered : Prop} (hfilter : filtered)
    (entry : Option Path) (flags : Flags) (given : Option Path) (format : ManifestFormat)
    (output : Option Path) :
    Delivery s filtered entry.isSome flags given format output
      ((Request.collect entry flags given format output).run s).outcome := by
  have hrun : (Request.collect entry flags given format output).run s =
      ⟨((collect s entry flags given format output).run .empty).1,
        ((collect s entry flags given format output).run .empty).2⟩ := rfl
  obtain ⟨notices, hprepare⟩ := notifies_prepare s entry.isSome flags given
  rw [hrun, collect_eq_prepare, run_bind, hprepare]
  cases hprepared : prepared s entry.isSome flags given with
  | error e =>
      refine Delivery.nothing 1 Nat.one_ne_zero fun _ cwd manifest => ?_
      rintro ⟨modules, hcollected, -⟩
      rw [prepared_eq_ok_iff.mpr hcollected] at hprepared
      cases hprepared
  | ok pair =>
      obtain ⟨cwd, modules⟩ := pair
      have hmanifest : ManifestOf s entry.isSome flags given format cwd
          (Manifest.render modules format) := ⟨modules, prepared_eq_ok_iff.mp hprepared, rfl⟩
      dsimp only
      cases output with
      | none =>
          rw [deliver, run_print]
          have hprinted : ((Transcript.empty.note notices).print
              (Manifest.render modules format)).printed = Manifest.render modules format :=
            String.empty_append
          unfold Run.outcome
          dsimp only
          rw [hprinted]
          exact Delivery.printed hfilter hmanifest rfl
      | some file =>
          rw [deliver, run_bind, run_write]
          cases hrefusal : s.disk.refusal? (cwd.join file) with
          | some cause => exact Delivery.refused hfilter hmanifest rfl hrefusal
          | none => exact Delivery.written hfilter hmanifest rfl hrefusal

/-- Without a filter for its log lines, a program does not come to its request. -/
theorem delivery (s : Surroundings) {line : CommandLine} {entry : Option Path} {flags : Flags}
    {given : Option Path} {format : ManifestFormat} {output : Option Path}
    (hline : line.request = .collect entry flags given format output) :
    Delivery s (∃ filter, Run.logFilter line s.environment = .ok filter) entry.isSome flags given
      format output (line.outcome s) := by
  unfold CommandLine.outcome
  cases hfilter : Run.logFilter line s.environment with
  | error e =>
      refine Delivery.nothing Run.unfilteredExitCode (by decide) fun ⟨filter, hfiltered⟩ => ?_
      cases hfiltered
  | ok filter =>
      dsimp only
      rw [hline]
      exact delivery_of_run s ⟨filter, rfl⟩ entry flags given format output

/-! ## All or nothing -/

section

variable {filtered : Prop} {output : Option Path} {outcome : Outcome}
  (hdelivery : Delivery s filtered entryGiven flags given format output outcome)

include hdelivery

theorem Delivery.printed_eq : outcome.printed = "" ∨
    ∃ cwd, ManifestOf s entryGiven flags given format cwd outcome.printed := by
  cases hdelivery with
  | nothing | refused | written => exact Or.inl rfl
  | printed _ hmanifest => exact Or.inr ⟨_, hmanifest⟩

theorem Delivery.printed_eq_empty (hquiet : outcome.exitCode ≠ 0 ∨ output.isSome) :
    outcome.printed = "" := by
  cases hdelivery with
  | nothing | refused | written => rfl
  | printed _ _ houtput =>
      subst houtput
      simp at hquiet

theorem Delivery.of_written {target : Path} {bytes : Bytes}
    (hwritten : outcome.written = some (target, bytes)) :
    ∃ cwd manifest, ManifestOf s entryGiven flags given format cwd manifest ∧
      output.map cwd.join = some target ∧ bytes = Utf8.encode manifest := by
  cases hdelivery with
  | nothing | refused | printed => cases hwritten
  | written _ hmanifest houtput =>
      cases hwritten
      exact ⟨_, _, hmanifest, houtput, rfl⟩

/-- A manifest is not empty, so it is not at its destination by accident. -/
theorem Delivery.exitCode_eq_zero_iff_delivers : outcome.exitCode = 0 ↔
    ∃ cwd manifest, ManifestOf s entryGiven flags given format cwd manifest ∧
      outcome.Delivers manifest (output.map cwd.join) := by
  constructor
  · intro hcode
    cases hdelivery with
    | nothing _ hfailed => exact absurd hcode hfailed
    | refused => cases hcode
    | @printed cwd manifest _ hmanifest houtput =>
        subst houtput
        exact ⟨cwd, manifest, hmanifest, rfl⟩
    | @written cwd target manifest _ hmanifest houtput =>
        refine ⟨cwd, manifest, hmanifest, ?_⟩
        rw [houtput]
        rfl
  · rintro ⟨cwd, manifest, hmanifest, hdelivers⟩
    cases hdelivery with
    | printed | written => rfl
    | nothing =>
        cases output with
        | none => exact absurd hdelivers.symm hmanifest.ne_empty
        | some file => cases hdelivers
    | refused _ _ houtput =>
        obtain ⟨file, rfl, -⟩ := Option.map_eq_some_iff.mp houtput
        cases hdelivers

theorem Delivery.exitCode_eq_zero_iff : outcome.exitCode = 0 ↔ filtered ∧
    ∃ cwd manifest, ManifestOf s entryGiven flags given format cwd manifest ∧
      ∀ target ∈ output.map cwd.join, s.disk.refusal? target = none := by
  constructor
  · intro hcode
    cases hdelivery with
    | nothing _ hfailed => exact absurd hcode hfailed
    | refused => cases hcode
    | @printed cwd manifest hfilter hmanifest houtput =>
        subst houtput
        exact ⟨hfilter, cwd, manifest, hmanifest, by simp⟩
    | @written cwd target manifest hfilter hmanifest houtput hrefusal =>
        refine ⟨hfilter, cwd, manifest, hmanifest, fun other hother => ?_⟩
        obtain rfl : target = other := Option.some.inj (houtput.symm.trans hother)
        exact hrefusal
  · rintro ⟨hfilter, cwd, manifest, hmanifest, haccepted⟩
    cases hdelivery with
    | printed | written => rfl
    | nothing _ _ hnone => exact absurd hmanifest (hnone hfilter cwd manifest)
    | @refused dir target _ cause _ hother houtput hrefusal =>
        obtain rfl : dir = cwd := Except.ok.inj (hother.cwd_eq.symm.trans hmanifest.cwd_eq)
        rw [haccepted target houtput] at hrefusal
        cases hrefusal

end

/-- Whatever the command line, the environment and the disk, a collection leaves all of its
manifest at its destination, and its exit code is zero, or it leaves nothing.  It prints
nothing or the manifest of all modules that were collected, and nothing when it fails or is
to write a file.  It only writes the file it is to write, with the whole manifest, when the
configuration was loaded and is valid, the entry was read and the modules were collected.
It fails for nothing else than one of these steps, a filter for its log lines that cannot be
had, or a disk that refuses the file. -/
theorem collect_all_or_nothing (s : Surroundings) (line : CommandLine) (entry : Option Path)
    (flags : Flags) (given : Option Path) (format : ManifestFormat) (output : Option Path)
    (hline : line.request = .collect entry flags given format output) :
    let outcome := line.outcome s
    let IsManifest := ManifestOf s entry.isSome flags given format
    (outcome.printed = "" ∨ ∃ cwd, IsManifest cwd outcome.printed) ∧
    (outcome.exitCode ≠ 0 ∨ output.isSome → outcome.printed = "") ∧
    (∀ target bytes, outcome.written = some (target, bytes) → ∃ cwd manifest,
      IsManifest cwd manifest ∧ output.map cwd.join = some target ∧
        bytes = Utf8.encode manifest) ∧
    (outcome.exitCode = 0 ↔ ∃ cwd manifest, IsManifest cwd manifest ∧
      outcome.Delivers manifest (output.map cwd.join)) ∧
    (outcome.exitCode = 0 ↔ (∃ filter, Run.logFilter line s.environment = .ok filter) ∧
      ∃ cwd manifest, IsManifest cwd manifest ∧
        ∀ target ∈ output.map cwd.join, s.disk.refusal? target = none) := by
  intro outcome IsManifest
  have hdelivery := delivery s hline
  exact ⟨hdelivery.printed_eq, hdelivery.printed_eq_empty, fun _ _ => hdelivery.of_written,
    hdelivery.exitCode_eq_zero_iff_delivers, hdelivery.exitCode_eq_zero_iff⟩

/-- A directory with a file that imports nothing. -/
def secluded : Surroundings where
  disk := (Tree.plant ⟨[]⟩ (.ofTexts ["w", "a.js"]) []).disk (some (.ofTexts ["w"]))
  environment := []
  parser := fun _ _ => .ok []

/-- What was written says how the run ended. -/
theorem collect_all_or_nothing_secluded :
    let request := Request.collect (some "a.js") { Flags.empty with main := some "a.js" } none
      .text (some "out")
    let outcome := CommandLine.outcome ⟨false, false, false, request⟩ secluded
    outcome.exitCode = 0 ∧ outcome.printed = "" ∧
      outcome.written =
        some (("/w/out" : Path), Utf8.encode "ESModule           a.js  30 B\n") := by
  intro request outcome
  obtain ⟨-, hquiet, hfile, hdelivers, -⟩ := collect_all_or_nothing secluded
    ⟨false, false, false, request⟩ (some "a.js") _ none .text (some "out") rfl
  have hwritten : outcome.written =
      some (("/w/out" : Path), Utf8.encode "ESModule           a.js  30 B\n") := by
    decide +kernel
  obtain ⟨cwd, manifest, hmanifest, houtput, hbytes⟩ := hfile _ _ hwritten
  refine ⟨hdelivers.mpr ⟨cwd, manifest, hmanifest, ?_⟩, hquiet (Or.inr rfl), hwritten⟩
  rw [houtput, Outcome.Delivers, ← hbytes]
  exact hwritten

end Command

end ModuleDiscovery
