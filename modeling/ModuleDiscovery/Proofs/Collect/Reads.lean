import ModuleDiscovery.Proofs.Collect

/-!
# Each module of a build is read once

To build the modules of a file, the file is read first, and a walk reads whatever it
comes to from there.  The path of the file is made absolute and clean in both places, so
the walk knows its entrypoint again when a module imports it, and does not read it a
second time.

The trace of such a build has one read for each module, in the order in which the
modules are listed, and the name of a module tells which file was read for it, as far as
names tell files.

## Main results

* `reads_eq_files`: the reads of a build from a file are the files of its modules, and
  which of these the names lead to.
* `ne_entry_of_readFailure`: a file that a walk cannot read is not its entrypoint.
-/

namespace ModuleDiscovery

open Walk

variable {options : WalkOptions} {runtime : Runtime} {parser : SpecifierParser} {w : Walker}
  {code : String} {entry : Path} {modules : List WorkerModule} {log log' : List Event}

/-- A fresh walk adds its trace to the log, whatever came of it. -/
theorem run_walkFresh (w : Walker) (code : String) (path : Path) (log : List Event) :
    (walkFresh w code path).run log =
      (match ((w.visitEntrypoint code path).run .fresh).1 with
        | .ok () => .ok ((w.visitEntrypoint code path).run .fresh).2.modules
        | .error (.failed e) => .error (.module e)
        | .error .tooDeep => .error .tooDeep,
        log ++ ((w.visitEntrypoint code path).run .fresh).2.events) := by
  unfold walkFresh
  generalize (w.visitEntrypoint code path).run .fresh = outcome
  obtain ⟨result, s⟩ := outcome
  have hlog : (modifyThe (List Event) (· ++ s.events) : Logged CollectError PUnit).run log =
      (.ok (), log ++ s.events) := rfl
  dsimp only
  rw [run_bind_ok log hlog]
  rcases result with (e | _) | _ <;> rfl

/-- A build from an entrypoint that succeeds is a successful walk. -/
theorem collectModules_entrypoint_eq_ok
    (hrun : (collectModules (.entrypoint code entry) options runtime parser).run log =
      (.ok modules, log')) :
    ∃ w s, Walker.create options runtime parser = .ok w ∧
      (w.visitEntrypoint code entry).run .fresh = (.ok (), s) ∧ modules = s.modules ∧
        log' = log ++ s.events ++ [.collected modules.length] := by
  unfold collectModules at hrun
  cases hw : Walker.create options runtime parser with
  | error e =>
      simp only [hw] at hrun
      cases hrun
  | ok w =>
      simp only [hw] at hrun
      rw [run_bind, run_walkFresh] at hrun
      cases hwalk : (w.visitEntrypoint code entry).run .fresh with
      | mk result s =>
          rw [hwalk] at hrun
          rcases result with (e | _) | _
          · cases hrun
          · cases hrun
          · cases hrun
            exact ⟨w, s, rfl, hwalk, rfl, rfl⟩

/-- A walk that cannot read a file is not at its entrypoint, which it does not read. -/
theorem ne_entry_of_readFailure {w : Walker} {path entry p : Path} {cause : RuntimeError}
    (habs : w.absolutize path = .ok entry)
    (hrun : ((w.visitEntrypoint code path).run .fresh).1 =
      .error (.failed (.readFailure p cause))) : p ≠ entry := by
  have hkept : Kept w fun _ s => entry ∈ s.visited :=
    ⟨fun hentry harrive => harrive.progress.subset hentry, fun hentry harrive hopen => by
      rw [hopen.changes.1]
      exact harrive.progress.subset hentry⟩
  have hwalk := Walk.entry w code path .fresh
  generalize (w.visitEntrypoint code path).run .fresh = outcome at hrun hwalk
  obtain ⟨r, s⟩ := outcome
  subst hrun
  rcases hwalk.ends hkept habs List.not_mem_nil
    (fun _ _ hopen => by simp [hopen.changes.1]) with hends | ⟨stop, hstop, hopen⟩
  · cases hends with
    | halted hentry harrive => cases harrive with
      | unreadable _ _ _ _ _ hnew => exact fun h => hnew (h ▸ hentry)
    | unparsable _ _ hopen => cases hopen
  · cases hstop
    cases hopen

/-- A build from an entrypoint under good rules fails as its walk does. -/
theorem collectModules_entrypoint_error {e : CollectError}
    (hw : Walker.create options runtime parser = .ok w)
    (hrun : ((collectModules (.entrypoint code entry) options runtime parser).run log).1 =
      .error e) :
    (∃ cause, e = .module cause ∧
        ((w.visitEntrypoint code entry).run .fresh).1 = .error (.failed cause)) ∨
      e = .tooDeep ∧ ((w.visitEntrypoint code entry).run .fresh).1 = .error .tooDeep := by
  unfold collectModules at hrun
  simp only [hw] at hrun
  rw [run_bind, run_walkFresh] at hrun
  rcases hwalk : (w.visitEntrypoint code entry).run .fresh with ⟨(cause | _) | _, s⟩ <;>
    rw [hwalk] at hrun
  · exact Or.inl ⟨cause, (Except.error.inj hrun).symm, rfl⟩
  · exact Or.inr ⟨(Except.error.inj hrun).symm, rfl⟩
  · cases hrun

/-- With no file at `/`, a build from a file, over the file itself and the walk behind it,
reads one file for each module, in the order of the modules, and each file once.  A module
is named after its file, and its name leads from the root to what is shown of the file; so
the reads are the files that the names lead to exactly if the ways to them are text.  The
first of them is the entrypoint, which is not read again, whoever imports it. -/
theorem reads_eq_files (options : WalkOptions) (runtime : Runtime) (parser : SpecifierParser)
    (hcwd : ∀ dir, runtime.cwd = .ok dir → dir.isAbsolute) (hrootless : runtime.Rootless)
    (path : Path) (source : ModuleSource) (modules : List WorkerModule) (log log' : List Event)
    (hfile : (ModuleSource.ofFile runtime path).run [] = (.ok source, log))
    (hbuild : (collectModules source options runtime parser).run log = (.ok modules, log')) :
    let reads := log'.filterMap Event.readPath?
    let files := modules.map fun m => (options.root.clean.join m.name).clean
    modules.map WorkerModule.name = reads.map (moduleName options.root) ∧
      files = reads.map (·.shownFrom options.root) ∧
      (files = reads ↔ ∀ p ∈ reads, p.isTextFrom options.root) ∧
      (reads.map Path.segments).Nodup ∧
      ∃ code entry, source = .entrypoint code entry ∧ reads.head? = some entry ∧
        reads.count entry = 1 := by
  intro reads files
  obtain ⟨entry, bytes, rfl, hentry, hread, rfl⟩ := ofFile_eq_ok_source hcwd hfile
  obtain ⟨w, s, hw, hrun, rfl, rfl⟩ := collectModules_entrypoint_eq_ok hbuild
  obtain ⟨hroot, rfl⟩ := create_eq_ok hw
  have habs : w.absolutize entry = .ok entry := absolutize_of_canonical hentry
  have hvisited : s.visited = entry :: s.reads := visited_eq_of_ok habs hrun
  have hcanonical : ∀ p ∈ s.visited, p.Canonical := by
    have hplaces := canonical_of_visitEntrypoint hrootless habs hentry (hrootless.ne_root hread)
      (Utf8.decodeLossy bytes)
    rwa [hrun] at hplaces
  have hnodup : s.visited.Nodup := by
    have hnodup := nodup_visited w (Utf8.decodeLossy bytes) entry
    rwa [hrun] at hnodup
  have hpairs := (frontier_of_ok habs hrun).forall₂
  have hreads : reads = s.visited := by
    simp [reads, hvisited, State.reads, List.filterMap_cons]
  have hfiles : files = s.visited.map (·.shownFrom options.root) := by
    have hfiles := map_clean_join_name hpairs fun p hp => (hcanonical p hp).absolute
    simpa only [hroot, Path.clean_clean, Path.shownFrom_clean] using hfiles
  rw [hreads]
  refine ⟨?_, hfiles, ?_, nodup_segments hnodup (List.Subset.refl _) fun p hp =>
    (hcanonical p hp).clean_eq, _, entry, rfl, by rw [hvisited, List.head?_cons], ?_⟩
  · rw [map_name_eq hpairs, hroot]
    exact List.map_congr_left fun p _ => Path.moduleName_clean options.root p
  · rw [hfiles, Path.map_shownFrom_eq_iff hcanonical]
  · exact List.count_eq_one_of_mem hnodup (by simp [hvisited])

theorem exists_eq_ok_of_map_eq {ε σ α β : Type} {outcome : Except ε α × σ} {f : α → β} {b : β}
    (hok : outcome.1.map f = .ok b) : ∃ a, outcome = (.ok a, outcome.2) ∧ f a = b := by
  obtain ⟨e | a, s⟩ := outcome
  · cases hok
  · exact ⟨a, rfl, Except.ok.inj hok⟩

/-- The file is spelled in a roundabout way, and its modules import it under its own name. -/
theorem reads_eq_files_circle :
    let options : WalkOptions := ⟨"/lib", [], .none, []⟩
    (ModuleSource.ofFile Walker.circle.runtime "x/../a.js").run [] =
        (.ok (.entrypoint "" "/a.js"), [.read "/a.js"]) ∧
      let build := (collectModules (.entrypoint "" "/a.js") options Walker.circle.runtime
        Walker.circle.parser).run [.read "/a.js"]
      build.1.map (List.map WorkerModule.name) = .ok ["../a.js", "../b.js"] ∧
        (build.2.filterMap Event.readPath?).count ("/a.js" : Path) = 1 := by
  have hfile : (ModuleSource.ofFile Walker.circle.runtime "x/../a.js").run [] =
      (.ok (.entrypoint "" "/a.js"), [.read "/a.js"]) :=
    Prod.ext (by decide +kernel) (by decide +kernel)
  have hnames : ((collectModules (.entrypoint "" "/a.js") ⟨"/lib", [], .none, []⟩
      Walker.circle.runtime Walker.circle.parser).run [.read "/a.js"]).1.map
        (List.map WorkerModule.name) = .ok ["../a.js", "../b.js"] := by
    decide +kernel
  refine ⟨hfile, hnames, ?_⟩
  obtain ⟨modules, hbuild, -⟩ := exists_eq_ok_of_map_eq hnames
  obtain ⟨-, -, -, -, code, entry, hsource, -, hcount⟩ :=
    reads_eq_files ⟨"/lib", [], .none, []⟩ Walker.circle.runtime Walker.circle.parser
      Walker.isAbsolute_cwd_circle Walker.rootless_circle "x/../a.js" _ modules _ _ hfile hbuild
  cases hsource
  exact hcount

/-- The name of a file whose path is not text leads to another path than the one that was
read. -/
theorem reads_ne_files :
    let file : Path := ⟨Utf8.encode "/w/" ++ 0xFF :: Utf8.encode ".js"⟩
    let runtime := Runtime.ofFiles (.ok "/w") [(file, .ok [])]
    let opened := (ModuleSource.ofFile runtime file).run []
    let build := (collectModules (.entrypoint "" file) ⟨"/w", [], .none, []⟩ runtime
      fun _ _ => .ok []).run opened.2
    runtime.readFile "/" = .error (.fileNotFound "/") ∧
      opened.1 = .ok (.entrypoint "" file) ∧
      build.1.map (List.map WorkerModule.name) = .ok ["\uFFFD.js"] ∧
        build.2.filterMap Event.readPath? = [file] ∧
        ((Path.clean "/w").join "\uFFFD.js").clean = "/w/\uFFFD.js" ∧
        file ≠ "/w/\uFFFD.js" := by
  decide +kernel

end ModuleDiscovery
