import ModuleDiscovery.Command.Program
import ModuleDiscovery.Proofs.Run

/-!
# Running the steps of a command

A command takes a transcript to a result and a transcript.  Its steps either come to a
result and leave notices, or print and write, which is the last that a command does.
This file says of each step what it comes to, and takes the two commands apart into
their steps.
-/

namespace ModuleDiscovery

namespace Transcript

/-- The transcript with more notices. -/
def note (t : Transcript) (notices : List Notice) : Transcript :=
  { t with notices := t.notices ++ notices }

/-- The transcript with more printed text. -/
def print (t : Transcript) (text : String) : Transcript :=
  { t with printed := t.printed ++ text }

/-- The transcript with a file that was written. -/
def write (t : Transcript) (path : Path) (bytes : Bytes) : Transcript :=
  { t with written := some (path, bytes) }

variable (t : Transcript) (notices more : List Notice)

@[simp] theorem printed_note : (t.note notices).printed = t.printed := rfl

theorem note_nil : t.note [] = t := by
  simp [note]

theorem note_note : (t.note notices).note more = t.note (notices ++ more) := by
  simp [note]

@[simp] theorem printed_print (text : String) : (t.print text).printed = t.printed ++ text := rfl

end Transcript

namespace Command

variable {ε α : Type} {s : Surroundings} {cwd : Path} {config : Config} {given : Option Path}
  {flags : Flags} {t t' : Transcript}

/-! ## Steps -/

theorem run_pass (wrap : ε → CommandError) (x : Except ε α) (t : Transcript) :
    (pass wrap x).run t = (x.mapError wrap, t) := by
  cases x <;> rfl

theorem run_pass_ok {x : Except ε α} {a : α} (hx : x = .ok a) (wrap : ε → CommandError)
    (t : Transcript) : (pass wrap x).run t = (.ok a, t) := by
  rw [run_pass, hx]
  rfl

theorem run_note (notice : Notice) (t : Transcript) :
    (note notice).run t = (.ok (), t.note [notice]) := rfl

theorem run_print (text : String) (t : Transcript) :
    (print text).run t = (.ok (), t.print text) := rfl

theorem run_follow (wrap : ε → CommandError) (step : Logged ε α) (t : Transcript) :
    (follow wrap step).run t =
      ((step.run []).1.mapError wrap, t.note ((step.run []).2.map .discovery)) := by
  unfold follow
  rcases step.run [] with ⟨_ | _, _⟩ <;> rfl

theorem run_workingDirectory (hcwd : s.disk.cwd = .ok cwd) (t : Transcript) :
    (workingDirectory s).run t = (.ok cwd, t) :=
  run_pass_ok hcwd .adrift t

theorem run_write (disk : Disk) (path : Path) (bytes : Bytes) (t : Transcript) :
    (write disk path bytes).run t =
      match disk.refusal? path with
      | some cause => (.error (.unwritten path cause), t)
      | none => (.ok (), t.write path bytes) := by
  unfold write
  cases disk.refusal? path <;> rfl

/-- The notices of the configuration file. -/
def loadNotices : Option Path → List Notice
  | some path => [.mergingConfig path, .loadingConfig path]
  | none => []

theorem run_loadConfig (s : Surroundings) (file : Option Path) (flags : Flags) (cwd : Path)
    (t : Transcript) :
    (loadConfig s file flags cwd).run t =
      ((Config.load s.disk file s.environment flags cwd).mapError .config,
        t.note (loadNotices file)) := by
  unfold loadConfig
  cases file with
  | none =>
      dsimp only
      rw [run_pass, loadNotices, Transcript.note_nil]
  | some path =>
      dsimp only
      rw [run_bind_ok t (run_note _ t), run_bind_ok _ (run_note _ _), run_pass,
        Transcript.note_note]
      rfl

/-! ## Commands -/

/-- A check that succeeds has loaded a configuration from a file and found its files. -/
theorem check_eq_ok (hcwd : s.disk.cwd = .ok cwd) (hrun : (check s given).run t = (.ok (), t')) :
    ∃ file config, Config.file? s.disk given cwd = some file ∧
      Config.load s.disk (some file) s.environment Flags.empty cwd = .ok config ∧
        config.validateFiles s.disk.isFile cwd = .ok () := by
  rw [check, run_bind_ok t (run_workingDirectory hcwd t)] at hrun
  cases hfile : Config.file? s.disk given cwd with
  | none =>
      rw [hfile] at hrun
      cases hrun
  | some file =>
      rw [hfile] at hrun
      dsimp only at hrun
      obtain ⟨_, t₁, -, hrun⟩ := exists_of_run_bind_ok _ hrun
      obtain ⟨config, t₂, hload, hrun⟩ := exists_of_run_bind_ok _ hrun
      obtain ⟨_, t₃, hfiles, -⟩ := exists_of_run_bind_ok _ hrun
      rw [run_loadConfig] at hload
      rw [run_pass] at hfiles
      have hload := mapError_eq_ok_iff.mp (congrArg Prod.fst hload)
      have hfiles := mapError_eq_ok_iff.mp (congrArg Prod.fst hfiles)
      exact ⟨file, config, rfl, hload, hfiles⟩

/-- With a configuration that passes, all that is left of a collection is to gather the
modules and to print their manifest. -/
theorem run_collect (hcwd : s.disk.cwd = .ok cwd)
    (hload : Config.load s.disk (Config.file? s.disk given cwd) s.environment flags cwd =
      .ok config)
    (hvalid : config.validate = .ok ()) (entry : Option Path) (format : ManifestFormat)
    (t : Transcript) :
    (collect s entry flags given format none).run t =
      match (gather s config entry.isSome cwd).run
          (t.note (loadNotices (Config.file? s.disk given cwd))) with
      | (.ok modules, t₁) =>
        (.ok (), (t₁.note [.manifestReady modules.length]).print (Manifest.render modules format))
      | (.error e, t₁) => (.error e, t₁) := by
  rw [collect, run_bind_ok t (run_workingDirectory hcwd t)]
  have hconfig := run_loadConfig s (Config.file? s.disk given cwd) flags cwd t
  rw [hload] at hconfig
  rw [run_bind_ok t hconfig, run_bind_ok _ (run_pass_ok hvalid .config _), run_bind]
  rcases (gather s config entry.isSome cwd).run _ with ⟨e | modules, t₁⟩
  · rfl
  · dsimp only
    rw [run_bind_ok t₁ (run_note _ t₁)]
    exact run_print _ _

end Command

end ModuleDiscovery
