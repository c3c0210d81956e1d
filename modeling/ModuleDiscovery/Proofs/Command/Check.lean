import ModuleDiscovery.Disk.Tree
import ModuleDiscovery.Proofs.Collect.Listed
import ModuleDiscovery.Proofs.Collect.Reads
import ModuleDiscovery.Proofs.Command.Run
import ModuleDiscovery.Proofs.Config.Load
import ModuleDiscovery.Proofs.Config.Validation

/-!
# A check vouches for a collection

A check loads the configuration and looks for its files, and a collection loads it and
reads them.  The two come to the files in different ways: a check sees their paths from
the working directory and asks the disk whether files lie there, a collection hands the
paths to a build, which makes them absolute by itself and reads.

## Strategy

* **The same configuration.**  Without flags both commands load the same configuration,
  and its paths are canonical when the working directory is absolute
  (`Config.resolved_of_load`).  Such a path is the same from everywhere.
* **The same files.**  What the check has found is what the build reads: the bytes of all
  definitions, or those of the entrypoint (`Config.Vouched`).
* **What is left.**  A build of listed modules has nothing else to ask for.  A walk may
  still fail at what it finds, but not at its entrypoint, which it does not read again.

## Main results

* `collect_of_check`: what a collection can still come to after a check.
-/

namespace ModuleDiscovery

open Walk

/-! ## Files on a disk -/

theorem Disk.exists_readFile_of_isFile {disk : Disk} {p : Path} (hfile : disk.isFile p) :
    ∃ bytes, disk.runtime.readFile p = .ok bytes := by
  unfold isFile at hfile
  simp only [runtime, readBytes]
  split at hfile
  · next bytes hlook => exact ⟨bytes, by rw [hlook]; rfl⟩
  · cases hfile

/-! ## The loaded configuration -/

namespace Config

variable {disk : Disk} {cwd : Path} {config : Config}

/-- What a check has found out of a configuration. -/
structure Vouched (config : Config) (disk : Disk) : Prop where
  resolved : config.Resolved
  valid : config.validate = .ok ()
  main : ∀ main, config.main = some main → ∃ bytes, disk.runtime.readFile main = .ok bytes
  modules : ∀ d ∈ config.modules, ∃ bytes, d.bytesIn disk.runtime = .ok bytes

theorem vouched_of_validateFiles (hresolved : config.Resolved)
    (hfiles : config.validateFiles disk.isFile cwd = .ok ()) : config.Vouched disk := by
  obtain ⟨hvalid, hmain, hmodules⟩ := validateFiles_eq_ok_iff.mp hfiles
  refine ⟨hresolved, hvalid, fun main h => ?_, fun d hd => ?_⟩
  · have hfile := hmain main h
    rw [Path.join_of_isAbsolute cwd (hresolved.main main h).absolute] at hfile
    exact Disk.exists_readFile_of_isFile hfile
  · have hfile := hmodules d hd
    rw [Path.join_of_isAbsolute cwd (hresolved.modules d hd).absolute] at hfile
    unfold ModuleDefinition.bytesIn
    cases hcontents : d.contents with
    | some contents => exact ⟨_, rfl⟩
    | none => exact Disk.exists_readFile_of_isFile (hfile hcontents)

/-- Rules that pass the check make a walker. -/
theorem Vouched.exists_walker (hvouched : config.Vouched disk) (fallback : Path)
    (parser : SpecifierParser) :
    ∃ w, Walker.create (config.walkOptions fallback) disk.runtime parser = .ok w := by
  obtain ⟨-, -, -, compiled, hcompiled⟩ := (validate_eq_ok_iff_checks config).mp hvouched.valid
  rw [Walker.create, walkOptions, hcompiled]
  exact ⟨_, rfl⟩

/-- Without declared modules there is an entrypoint. -/
theorem Vouched.exists_main (hvouched : config.Vouched disk) (hmodules : config.modules = []) :
    ∃ main, config.main = some main := by
  obtain ⟨hstart, -⟩ := (validate_eq_ok_iff_checks config).mp hvouched.valid
  cases hmain : config.main with
  | some main => exact ⟨main, rfl⟩
  | none => exact absurd ⟨by rw [hmain]; rfl, by rw [hmodules]; rfl⟩ hstart

end Config

/-! ## Gathering the modules -/

namespace Command

variable {s : Surroundings} {given : Option Path} {cwd : Path} {config : Config} {main : Path}
  {bytes : Bytes} {t t₁ : Transcript} {e : CommandError}

/-- What a check does not vouch for. -/
inductive Unvouched (s : Surroundings) (config : Config) : CommandError → Prop
  | module (cause : ModuleError)
      (hmain : ∀ main why, config.main = some main → cause ≠ .readFailure main why) :
      Unvouched s config (.collect (.module cause))
  /-- The disk does not list its files, so a walk may be cut off. -/
  | tooDeep (hfinite : ¬ s.disk.runtime.FinitelyServed) : Unvouched s config (.collect .tooDeep)

/-- Declared modules are built without the entrypoint. -/
theorem run_gather_listed (hmodules : config.modules ≠ []) (t : Transcript) :
    (gather s config false cwd).run t =
      (follow .collect (collectModules (.listed config.modules) (config.walkOptions cwd)
        s.disk.runtime s.parser)).run t := by
  have hsource : (sourceOf config false s.disk.runtime).run t =
      (.ok (.listed config.modules), t) := by
    rw [sourceOf, if_pos (by simpa using hmodules)]
    rfl
  rw [gather, run_bind_ok t hsource]

/-- Without them the entrypoint is read and walked. -/
theorem run_gather_main (hmodules : config.modules = []) (hmain : config.main = some main)
    (hcanonical : main.Canonical) (hread : s.disk.runtime.readFile main = .ok bytes)
    (t : Transcript) :
    (gather s config false cwd).run t =
      (follow .collect (collectModules (.entrypoint (Utf8.decodeLossy bytes) main)
        (config.walkOptions cwd) s.disk.runtime s.parser)).run
          (t.note [.discovery (.read main)]) := by
  have hfile : (ModuleSource.ofFile s.disk.runtime main).run [] =
      (.ok (.entrypoint (Utf8.decodeLossy bytes) main), [.read main]) := by
    rw [run_ofFile, fromWorkingDirectory_of_isAbsolute hcanonical.absolute]
    dsimp only
    rw [hcanonical.clean_eq, hread]
    rfl
  have hsource : (sourceOf config false s.disk.runtime).run t =
      (.ok (.entrypoint (Utf8.decodeLossy bytes) main), t.note [.discovery (.read main)]) := by
    rw [sourceOf, if_neg (by simp [hmodules]), hmain]
    dsimp only
    rw [run_follow, hfile]
    rfl
  rw [gather, run_bind_ok t hsource]

/-- With the bytes of all definitions at hand, the declared modules are gathered. -/
theorem exists_run_gather_listed (hvouched : config.Vouched s.disk) (hmodules : config.modules ≠ [])
    (cwd : Path) (t : Transcript) :
    ∃ modules t₁, (gather s config false cwd).run t = (.ok modules, t₁) ∧
      t₁.printed = t.printed ∧
        List.Forall₂ (ModuleDefinition.StandsFor (config.walkOptions cwd).root s.disk.runtime)
          config.modules modules := by
  have hdefinitions : ∀ d ∈ config.modules,
      d.path.isAbsolute ∧ ∃ bytes, d.bytesIn s.disk.runtime = .ok bytes := fun d hd =>
    ⟨(hvouched.resolved.modules d hd).absolute, hvouched.modules d hd⟩
  obtain ⟨modules, hbuild, hstands⟩ :=
    exists_run_collectModules_listed (config.walkOptions cwd) s.parser hdefinitions []
  have hrun : (gather s config false cwd).run t = _ := run_gather_listed hmodules t
  rw [run_follow, hbuild] at hrun
  exact ⟨modules, _, hrun, rfl, hstands⟩

/-- A walk from an entrypoint that is there fails at nothing that was checked. -/
theorem unvouched_of_gather (hvouched : config.Vouched s.disk) (hmodules : config.modules = [])
    (hrun : (gather s config false cwd).run t = (.error e, t₁)) : Unvouched s config e := by
  obtain ⟨main, hmain⟩ := hvouched.exists_main hmodules
  obtain ⟨bytes, hread⟩ := hvouched.main main hmain
  obtain ⟨w, hw⟩ := hvouched.exists_walker cwd s.parser
  have hcanonical := hvouched.resolved.main main hmain
  rw [run_gather_main hmodules hmain hcanonical hread, run_follow] at hrun
  obtain ⟨error, herror, rfl⟩ := exists_of_mapError_eq_error (congrArg Prod.fst hrun)
  have hruntime := (create_eq_ok hw).2
  -- the entrypoint was there and the rules were good, so it is the walk that failed
  rcases collectModules_entrypoint_error hw herror with ⟨cause, rfl, hwalk⟩ | ⟨rfl, hwalk⟩
  · refine Unvouched.module cause fun main' why hmain' hcause => ?_
    obtain rfl := Option.some.inj (hmain.symm.trans hmain')
    subst hcause
    exact ne_entry_of_readFailure (absolutize_of_canonical hcanonical) hwalk rfl
  · refine Unvouched.tooDeep fun hfinite => ?_
    rw [← hruntime] at hfinite
    exact visitEntrypoint_ne_tooDeep hfinite _ main .fresh hwalk

/-! ## Check and collect -/

/-- In a working directory that is absolute, a check that succeeds vouches for a collection
with the same configuration file and no flags, whatever the format.  The collection loads a
configuration as well, and fails neither with an error of it or of its rules nor for want
of the entrypoint.  When modules are declared it succeeds, and prints the manifest of one
module for each definition, in their order. -/
theorem collect_of_check (s : Surroundings) (given : Option Path) (format : ManifestFormat)
    (cwd : Path) (hcwd : s.disk.cwd = .ok cwd) (habs : cwd.isAbsolute)
    (hcheck : ((Request.check given).run s).result = .ok ()) :
    let run := (Request.collect none Flags.empty given format none).run s
    ∃ config, Config.load s.disk (Config.file? s.disk given cwd) s.environment Flags.empty cwd =
        .ok config ∧
      (∀ e, run.result = .error e → Unvouched s config e) ∧
      (config.modules ≠ [] → run.result = .ok () ∧ ∃ modules,
        List.Forall₂ (ModuleDefinition.StandsFor (config.walkOptions cwd).root s.disk.runtime)
          config.modules modules ∧
        run.transcript.printed = Manifest.render modules format) := by
  intro run
  obtain ⟨file, config, hfile, hload, hfiles⟩ := check_eq_ok hcwd (Prod.ext hcheck rfl)
  have hvouched := Config.vouched_of_validateFiles (Config.resolved_of_load habs hload) hfiles
  rw [← hfile] at hload
  have hcollect := run_collect hcwd hload hvouched.valid none format .empty
  rw [Option.isSome_none] at hcollect
  have hresult : run.result = ((collect s none Flags.empty given format none).run .empty).1 := rfl
  have hprinted : run.transcript.printed =
      ((collect s none Flags.empty given format none).run .empty).2.printed := rfl
  rw [hresult, hprinted, hcollect]
  -- only a walk can fail, and there is one only when no modules are declared
  by_cases hmodules : config.modules = []
  · refine ⟨config, hload, fun e he => ?_, fun hdeclared => absurd hmodules hdeclared⟩
    rcases hgather : (gather s config false cwd).run _ with ⟨e' | modules, t₁⟩ <;>
      rw [hgather] at he
    · obtain rfl := Except.error.inj he
      exact unvouched_of_gather hvouched hmodules hgather
    · cases he
  · obtain ⟨modules, t₁, hgather, hsilent, hstands⟩ :=
      exists_run_gather_listed hvouched hmodules cwd
        (Transcript.empty.note (loadNotices (Config.file? s.disk given cwd)))
    rw [hgather]
    refine ⟨config, hload, fun e he => ?_, fun _ => ⟨rfl, modules, hstands, ?_⟩⟩
    · cases he
    · rw [Transcript.printed_print, Transcript.printed_note, hsilent]
      exact String.empty_append

/-- A working directory with a configuration and one more file, which is empty. -/
def working (config file : String) (parser : SpecifierParser) : Surroundings where
  disk := ((Tree.plant ⟨[]⟩ (.ofTexts ["w", "rove.toml"]) (Utf8.encode config)).plant
    (.ofTexts ["w", file]) []).disk (some (.ofTexts ["w"]))
  environment := []
  parser := parser

/-- The configuration declares a file and a module with contents of its own. -/
def declaring : Surroundings :=
  working "modules = [[\"Text\", \"a\"], [\"Data\", \"b\", \"x\"]]" "a" fun _ _ => .ok []

/-- The configuration names an entrypoint, which imports a file that is missing. -/
def importing : Surroundings :=
  working "main = \"a.mjs\"" "a.mjs" fun _ _ => .ok [.literal "./b.mjs" ⟨1, 1⟩]

/-- A declared file is read, and a module with contents needs none.  A walk from an entrypoint
that is there may still miss another file. -/
theorem collect_of_check_declaring :
    let request := Request.collect none Flags.empty none .text none
    let missing := CommandError.collect
      (.module (.readFailure "/w/b.mjs" (.fileNotFound "/w/b.mjs")))
    ((request.run declaring).result = .ok () ∧ (request.run declaring).transcript.printed =
        "Text               a  0 B\nData               b  1 B\n") ∧
      (request.run importing).result = .error missing ∧
        ∃ config, config.main = some ("/w/a.mjs" : Path) ∧
          Unvouched importing config missing := by
  intro request missing
  constructor
  · obtain ⟨config, hload, -, hlisted⟩ :=
      collect_of_check declaring none .text "/w" (by decide +kernel) (by decide) (by decide +kernel)
    have hlength : (Config.load declaring.disk (Config.file? declaring.disk none "/w")
        declaring.environment Flags.empty "/w").map (·.modules.length) = .ok 2 := by
      decide +kernel
    have hmodules : config.modules ≠ [] := by
      rw [hload] at hlength
      have htwo : config.modules.length = 2 := Except.ok.inj hlength
      exact List.ne_nil_of_length_pos (by omega)
    exact ⟨(hlisted hmodules).1, by decide +kernel⟩
  · obtain ⟨config, hload, hunvouched, -⟩ :=
      collect_of_check importing none .text "/w" (by decide +kernel) (by decide) (by decide +kernel)
    have hrun : (request.run importing).result = .error missing := by decide +kernel
    have hmain : (Config.load importing.disk (Config.file? importing.disk none "/w")
        importing.environment Flags.empty "/w").map (·.main) = .ok (some ("/w/a.mjs" : Path)) := by
      decide +kernel
    rw [hload] at hmain
    exact ⟨hrun, config, Except.ok.inj hmain, hunvouched missing hrun⟩

end Command

end ModuleDiscovery
