import ModuleDiscovery.Proofs.Walk.Names

/-!
# Modules found by a walk can be listed by hand

A walk that meets a specifier it cannot evaluate reports the modules it has found so
far, as definitions that a user may list by hand.  This file shows that such a list
builds the very modules of the walk, in their order.

## Strategy

Every recorded module comes from a canonical path, which has its bytes, and is named
by the way from the root to that path (`FromFile`).  Where the way is text, the name leads
back to the path (`Path.clean_join_moduleName_eq_iff`), so the definition of the module
reads the same bytes and gives them the same stamp.  Any other name leads to another file,
or to none (`register_astray`).

That a recorded path is canonical needs the directory of its importer, which an
importer at `/` does not have; hence no file may be there.

## Main results

* `collectModules_register`: whatever came of the walk from a file, listing the
  modules it recorded builds them again, if the ways to them are text.
-/

namespace ModuleDiscovery

open Walk

variable {root p : Path} {runtime : Runtime} {kind : ContentKind} {bytes : Bytes}
  {d : ModuleDefinition} {m : WorkerModule} {modules : List WorkerModule} {w : Walker}

/-- A module that is named and built after a file to which the way is text. -/
inductive FromFile (root : Path) (runtime : Runtime) : WorkerModule → Prop
  | intro {p : Path} {bytes : Bytes} (kind : ContentKind) (hp : p.Canonical)
      (htext : p.isTextFrom root) (hread : runtime.readFile p = .ok bytes) :
      FromFile root runtime ⟨moduleName root p, ModuleDefinition.contentsOf kind p bytes⟩

/-! ## Building a listed module -/

theorem fromWorkingDirectory_of_isAbsolute (habs : p.isAbsolute) :
    fromWorkingDirectory runtime p = .ok p :=
  if_pos habs

/-- The bytes of a definition: its own, or those of the file at its path. -/
def ModuleDefinition.bytesIn (runtime : Runtime) (d : ModuleDefinition) :
    Except RuntimeError Bytes :=
  match d.contents with
  | some contents => .ok contents.toBytes
  | none => runtime.readFile d.path

/-- What is left in the trace when the bytes of a definition are asked for. -/
def ModuleDefinition.reading (d : ModuleDefinition) : List Event :=
  match d.contents with
  | some _ => []
  | none => [.read d.path]

/-- The definition with another path. -/
def ModuleDefinition.atPath (d : ModuleDefinition) (p : Path) : ModuleDefinition :=
  { d with path := p }

@[simp] theorem ModuleDefinition.kind_atPath (d : ModuleDefinition) (p : Path) :
    (d.atPath p).kind = d.kind := rfl

@[simp] theorem ModuleDefinition.atPath_atPath (d : ModuleDefinition) (p q : Path) :
    (d.atPath p).atPath q = d.atPath q := rfl

/-- A definition is built at the path that it has from the working directory, which is not
cleaned. -/
theorem run_toModule (hpath : fromWorkingDirectory runtime d.path = .ok p) (log : List Event) :
    (ModuleDefinition.toModule root runtime d).run log =
      ((((d.atPath p).bytesIn runtime).mapError (.readFailure p)).map (.ofBytes root d.kind p),
        log ++ (d.atPath p).reading) := by
  obtain ⟨kind, path, contents⟩ := d
  have hlift : (ModuleDefinition.toModule.liftExcept (.ok p)).run log = (.ok p, log) := rfl
  rw [ModuleDefinition.toModule, hpath, run_bind_ok log hlift]
  cases contents with
  | some contents =>
      have hnothing : (ModuleDefinition.atPath ⟨kind, path, some contents⟩ p).reading = [] := rfl
      rw [hnothing, List.append_nil]
      rfl
  | none =>
      rw [run_bind, run_readLogged]
      simp only [ModuleDefinition.bytesIn, ModuleDefinition.atPath]
      cases runtime.readFile p <;> rfl

theorem run_toModule_of_bytesIn (root : Path) (habs : d.path.isAbsolute)
    (hbytes : d.bytesIn runtime = .ok bytes) (log : List Event) :
    (ModuleDefinition.toModule root runtime d).run log =
      (.ok (.ofBytes root d.kind d.path bytes), log ++ d.reading) := by
  have hbytes : (d.atPath d.path).bytesIn runtime = .ok bytes := hbytes
  rw [run_toModule (fromWorkingDirectory_of_isAbsolute habs), hbytes]
  rfl

/-- What is built from a definition comes from the bytes of the definition. -/
theorem exists_of_run_toModule {log log' : List Event}
    (hrun : (ModuleDefinition.toModule root runtime d).run log = (.ok m, log')) :
    ∃ p bytes, fromWorkingDirectory runtime d.path = .ok p ∧
      (d.atPath p).bytesIn runtime = .ok bytes ∧ m = .ofBytes root d.kind p bytes := by
  cases hpath : fromWorkingDirectory runtime d.path with
  | error e =>
      rw [ModuleDefinition.toModule, hpath] at hrun
      cases hrun
  | ok p =>
      rw [run_toModule hpath] at hrun
      cases hbytes : (d.atPath p).bytesIn runtime with
      | error cause =>
          rw [hbytes] at hrun
          cases hrun
      | ok bytes =>
          rw [hbytes] at hrun
          cases hrun
          exact ⟨p, bytes, rfl, hbytes, rfl⟩

/-- The registered definition of a module from a file. -/
theorem FromFile.exists_definition (hm : FromFile root.clean runtime m) (log : List Event) :
    ∃ d log', (∀ others, Walker.register root.clean (m :: others) =
        d :: Walker.register root.clean others) ∧
      (ModuleDefinition.toModule root.clean runtime d).run log = (.ok m, log') := by
  cases hm with
  | @intro p bytes kind hp htext hread =>
      -- the name leads back to `p`, so that is the path of the definition
      let d : ModuleDefinition := ⟨kind, p, none⟩
      have habs : d.path.isAbsolute := hp.absolute
      have hbytes : d.bytesIn runtime = .ok bytes := hread
      have hrun := run_toModule_of_bytesIn root.clean habs hbytes log
      refine ⟨d, _, fun others => ?_, hrun⟩
      have hpath := (Path.clean_join_moduleName_eq_iff root.clean hp).mpr htext
      rw [Path.clean_clean] at hpath
      simp [d, Walker.register, WorkerModule.kind?, hpath]

theorem run_mapM_register (hmodules : ∀ m ∈ modules, FromFile root.clean runtime m)
    (log : List Event) :
    ∃ log', ((Walker.register root.clean modules).mapM
      (ModuleDefinition.toModule root.clean runtime)).run log = (.ok modules, log') := by
  induction modules generalizing log with
  | nil => exact ⟨log, rfl⟩
  | cons m modules ih =>
      rw [List.forall_mem_cons] at hmodules
      obtain ⟨d, log₁, hregister, hmodule⟩ := hmodules.1.exists_definition log
      obtain ⟨log₂, hrest⟩ := ih hmodules.2 log₁
      refine ⟨log₂, ?_⟩
      rw [hregister, List.mapM_cons, run_bind_ok log hmodule, run_bind_ok log₁ hrest]
      rfl

/-- Listing modules that come from files builds them again. -/
theorem run_collectModules_register {options : WalkOptions} {parser : SpecifierParser}
    (hmodules : ∀ m ∈ modules, FromFile options.root.clean runtime m) (log : List Event) :
    ((collectModules (.listed (Walker.register options.root.clean modules)) options runtime
      parser).run log).1 = .ok modules := by
  obtain ⟨log', hrun⟩ := run_mapM_register hmodules log
  have hmodules : (toModules options.root.clean runtime
      (Walker.register options.root.clean modules)).run log = (.ok modules, log') :=
    run_adapt_ok log hrun CollectError.module
  rw [collectModules, run_bind_ok log hmodules]
  rfl

/-! ## What a walk records -/

namespace Walk

/-- The module at a canonical path comes from the file there, if the entrypoint does. -/
theorem fromFile_of_recordAt? {entry : Path} (hp : p.Canonical) (htext : p.isTextFrom w.root)
    (hread : w.runtime.readFile entry = .ok bytes)
    (hrecord : recordAt? w (Utf8.decodeLossy bytes) entry p = some m) :
    FromFile w.root w.runtime m := by
  by_cases hentry : p = entry
  · subst hentry
    obtain rfl := Option.some.inj (hrecord.symm.trans (recordAt?_of_source sourceAt?_entry))
    exact FromFile.intro .esModule hp htext hread
  · obtain ⟨rule, contents, -, hread, hname, -, hcontents⟩ :=
      fileRecord_of_recordAt? hrecord hentry
    obtain ⟨name, _⟩ := m
    subst hname hcontents
    exact FromFile.intro rule.kind hp htext hread

/-- The paths that a walk has recorded modules for are the first that it visited. -/
theorem forall₂_recorded {entry path : Path} (habs : w.absolutize path = .ok entry)
    (code : String) :
    let s := ((w.visitEntrypoint code path).run .fresh).2
    List.Forall₂ (fun p m => recordAt? w code entry p = some m)
      (s.visited.take s.modules.length) s.modules := by
  intro s
  obtain ⟨recorded, hfront, hpairs⟩ := exists_recorded habs code
  have htake : recorded = s.visited.take s.modules.length := by
    rw [List.prefix_iff_eq_take.mp hfront, hpairs.length_eq]
  rwa [← htake]

/-- A walk from a canonical file records modules that come from such files. -/
theorem fromFile_visitEntrypoint (hrootless : w.runtime.Rootless) (hp : p.Canonical)
    (hread : w.runtime.readFile p = .ok bytes) :
    let s := ((w.visitEntrypoint (Utf8.decodeLossy bytes) p).run .fresh).2
    (∀ q ∈ s.visited.take s.modules.length, q.isTextFrom w.root) →
      ∀ m ∈ s.modules, FromFile w.root w.runtime m := by
  intro s htext m hm
  have habs : w.absolutize p = .ok p := absolutize_of_canonical hp
  have hvisited := canonical_of_visitEntrypoint hrootless habs hp (hrootless.ne_root hread)
    (Utf8.decodeLossy bytes)
  obtain ⟨q, hmem, hrecord⟩ :=
    exists_partner_of_mem_right (forall₂_recorded habs (Utf8.decodeLossy bytes)) hm
  have hq := (List.of_mem_zip hmem).1
  exact fromFile_of_recordAt? (hvisited q (List.mem_of_mem_take hq)) (htext q hq) hread hrecord

end Walk

/-! ## Entrypoints in files -/

theorem isAbsolute_of_fromWorkingDirectory
    (hcwd : ∀ dir, runtime.cwd = .ok dir → dir.isAbsolute) {path : Path}
    (hpath : fromWorkingDirectory runtime path = .ok p) : p.isAbsolute := by
  unfold fromWorkingDirectory at hpath
  split_ifs at hpath with habs
  · obtain rfl := Except.ok.inj hpath
    exact habs
  · cases hdir : runtime.cwd with
    | error cause => simp [hdir] at hpath
    | ok dir =>
        rw [hdir] at hpath
        obtain rfl := Except.ok.inj hpath
        exact Path.isAbsolute_join (hcwd dir hdir) path

theorem run_ofFile (runtime : Runtime) (path : Path) (log : List Event) :
    (ModuleSource.ofFile runtime path).run log =
      match fromWorkingDirectory runtime path with
      | .error e => (.error e, log)
      | .ok target =>
        match runtime.readFile target.clean with
        | .error cause =>
          (.error (.readFailure target.clean cause), log ++ [.read target.clean])
        | .ok bytes =>
          (.ok (.entrypoint (Utf8.decodeLossy bytes) target.clean),
            log ++ [.read target.clean]) := by
  rw [ModuleSource.ofFile]
  cases fromWorkingDirectory runtime path with
  | error e => rfl
  | ok target =>
      dsimp only
      rw [run_bind, run_readLogged]
      cases runtime.readFile target.clean <;> rfl

/-- The entrypoint in a file is a canonical path, with the text of the file, which was
read once. -/
theorem ofFile_eq_ok_source (hcwd : ∀ dir, runtime.cwd = .ok dir → dir.isAbsolute) {path : Path}
    {source : ModuleSource} {log log' : List Event}
    (hfile : (ModuleSource.ofFile runtime path).run log = (.ok source, log')) :
    ∃ entry bytes, source = .entrypoint (Utf8.decodeLossy bytes) entry ∧ entry.Canonical ∧
      runtime.readFile entry = .ok bytes ∧ log' = log ++ [.read entry] := by
  rw [run_ofFile] at hfile
  cases hpath : fromWorkingDirectory runtime path with
  | error e =>
      rw [hpath] at hfile
      cases hfile
  | ok target =>
      rw [hpath] at hfile
      dsimp only at hfile
      cases hread : runtime.readFile target.clean with
      | error cause =>
          rw [hread] at hfile
          cases hfile
      | ok bytes =>
          rw [hread] at hfile
          cases hfile
          exact ⟨_, bytes, rfl,
            Path.canonical_clean (isAbsolute_of_fromWorkingDirectory hcwd hpath), hread, rfl⟩

theorem ofFile_eq_ok (hcwd : ∀ dir, runtime.cwd = .ok dir → dir.isAbsolute) {path entry : Path}
    {code : String} {log log' : List Event}
    (hfile : (ModuleSource.ofFile runtime path).run log = (.ok (.entrypoint code entry), log')) :
    entry.Canonical ∧
      ∃ bytes, runtime.readFile entry = .ok bytes ∧ code = Utf8.decodeLossy bytes := by
  obtain ⟨_, bytes, hsource, hcanonical, hread, -⟩ := ofFile_eq_ok_source hcwd hfile
  cases hsource
  exact ⟨hcanonical, bytes, hread, rfl⟩

theorem create_eq_ok {options : WalkOptions} {parser : SpecifierParser}
    (hw : Walker.create options runtime parser = .ok w) :
    w.root = options.root.clean ∧ w.runtime = runtime := by
  unfold Walker.create at hw
  cases hrules : ModuleRule.compile options.rules with
  | error e => simp [hrules, Except.map] at hw
  | ok rules =>
      rw [hrules] at hw
      obtain rfl := Except.ok.inj hw
      exact ⟨rfl, rfl⟩

/-- Listing the modules of a walk from a file, complete or not, builds them again, if the
ways from the root to the files that they were recorded for are text. -/
theorem collectModules_register (options : WalkOptions) (runtime : Runtime)
    (parser : SpecifierParser) (hcwd : ∀ dir, runtime.cwd = .ok dir → dir.isAbsolute)
    (hrootless : runtime.Rootless) (w : Walker)
    (hw : Walker.create options runtime parser = .ok w) (path entry : Path) (code : String)
    (log before after : List Event)
    (hfile : (ModuleSource.ofFile runtime path).run before =
      (.ok (.entrypoint code entry), after)) :
    let s := ((w.visitEntrypoint code entry).run .fresh).2
    (∀ p ∈ s.visited.take s.modules.length, p.isTextFrom options.root) →
      ((collectModules (.listed (Walker.register w.root s.modules)) options runtime parser).run
        log).1 = .ok s.modules := by
  obtain ⟨hroot, rfl⟩ := create_eq_ok hw
  obtain ⟨hentry, bytes, hread, rfl⟩ := ofFile_eq_ok hcwd hfile
  intro s htext
  have hmodules : ∀ m ∈ s.modules, FromFile w.root w.runtime m := by
    refine fromFile_visitEntrypoint hrootless hentry hread fun p hp => ?_
    rw [hroot, Path.isTextFrom_clean]
    exact htext p hp
  rw [hroot] at hmodules ⊢
  exact run_collectModules_register hmodules log

/-- The files lie outside the root that names them. -/
theorem collectModules_register_circle :
    ∃ w, Walker.create ⟨"/lib", [], .none, []⟩ Walker.circle.runtime Walker.circle.parser =
        .ok w ∧
      let modules := ((w.visitEntrypoint "" "/a.js").run .fresh).2.modules
      modules.map WorkerModule.name = ["../a.js", "../b.js"] ∧
        ((collectModules (.listed (Walker.register w.root modules)) ⟨"/lib", [], .none, []⟩
          Walker.circle.runtime Walker.circle.parser).run []).1 = .ok modules := by
  refine ⟨_, rfl, by decide +kernel, ?_⟩
  exact collectModules_register ⟨"/lib", [], .none, []⟩ _ _ Walker.isAbsolute_cwd_circle
    Walker.rootless_circle _ rfl "a.js" "/a.js" "" [] [] [.read "/a.js"] rfl (by decide +kernel)

/-- A module from a file whose path is not text is listed under a path that has no file. -/
theorem register_astray :
    let file : Path := ⟨Utf8.encode "/w/" ++ 0xFF :: Utf8.encode ".js"⟩
    let shown : Path := "/w/\uFFFD.js"
    let options : WalkOptions := ⟨"/w", [], .none, []⟩
    let runtime := Runtime.ofFiles (.ok "/w") [(file, .ok [])]
    let parser : SpecifierParser := fun _ _ => .ok []
    ((ModuleSource.ofFile runtime file).run []).1 = .ok (.entrypoint "" file) ∧
      runtime.readFile "/" = .error (.fileNotFound "/") ∧
      ∃ w, Walker.create options runtime parser = .ok w ∧
        let modules := ((w.visitEntrypoint "" file).run .fresh).2.modules
        modules.map WorkerModule.name = ["\uFFFD.js"] ∧
          ((collectModules (.listed (Walker.register w.root modules)) options runtime parser).run
            []).1 = .error (.module (.readFailure shown (.fileNotFound shown))) := by
  intro file shown options runtime parser
  exact ⟨by decide +kernel, by decide +kernel, _, rfl, by decide +kernel, by decide +kernel⟩

end ModuleDiscovery
