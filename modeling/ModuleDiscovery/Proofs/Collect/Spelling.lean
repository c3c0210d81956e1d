import ModuleDiscovery.Proofs.Collect.Listed
import ModuleDiscovery.Proofs.SourceUrl.Locator
import ModuleDiscovery.Proofs.SourceUrl.Marker

/-!
# How the path of a definition is spelled

A walk cleans every path before it reads, names or stamps a module.  A definition is taken
from the working directory as it is spelled, so it may read another file than a walk would,
and its stamp shows the spelling.  Its name is the one a walk would give.

## Main results

* `toModule_spelling`: what is built from a definition of a JavaScript source, and when it is
  what is built from the clean path, which is what a walk records.
* `toModule_unclean`: a stamp with a `..` in it.
-/

namespace ModuleDiscovery

variable {root cwd p q : Path} {runtime : Runtime} {kind : ContentKind} {mode : ParseMode}
  {bytes : Bytes}

theorem fromWorkingDirectory_eq (hcwd : runtime.cwd = .ok cwd) (p : Path) :
    fromWorkingDirectory runtime p = .ok (cwd.join p) := by
  unfold fromWorkingDirectory
  split_ifs with habs
  · rw [Path.join_of_isAbsolute cwd habs]
  · rw [hcwd]

theorem javaScriptContents_inj {code other : String} :
    Walker.javaScriptContents mode code = Walker.javaScriptContents mode other ↔ code = other := by
  cases mode <;> simp [Walker.javaScriptContents]

/-- A definition of a JavaScript source depends on the path by the name and the locator. -/
theorem ofBytes_eq_iff (hkind : kind.parseMode? = some mode) :
    WorkerModule.ofBytes root kind p bytes = .ofBytes root kind q bytes ↔
      moduleName root p = moduleName root q ∧
        (SourceUrl.isStamped (Utf8.decodeLossy bytes) = true ∨
          SourceUrl.locator p = SourceUrl.locator q) := by
  rw [WorkerModule.ofBytes, WorkerModule.ofBytes, WorkerModule.mk.injEq,
    contentsOf_of_source hkind, contentsOf_of_source hkind, javaScriptContents_inj]
  exact and_congr_right fun _ => SourceUrl.stamp_eq_stamp_iff

/-- A definition is built at a path: its bytes are read there, unless it has them, and the
module is named and located there. -/
def ModuleDefinition.BuiltAt (root : Path) (runtime : Runtime) (d : ModuleDefinition) (p : Path) :
    Prop :=
  ∀ log, (d.toModule root runtime).run log =
    ((((d.atPath p).bytesIn runtime).mapError (.readFailure p)).map (.ofBytes root d.kind p),
      log ++ (d.atPath p).reading)

/-- A definition of a JavaScript source is built at its path from the working directory, spelled
as it is.  With the clean path it is built there, which is where a walk finds the source, reads
it, and makes the same module of it.  The two modules have the same name, and where they are made
of the same bytes, they are the same exactly if the bytes hold a marker or the path has no `..`. -/
theorem toModule_spelling (root : Path) (runtime : Runtime) (cwd : Path)
    (hcwd : runtime.cwd = .ok cwd) (habs : cwd.isAbsolute) (d : ModuleDefinition) (mode : ParseMode)
    (hkind : d.kind.parseMode? = some mode) :
    let target := cwd.join d.path
    d.BuiltAt root runtime target ∧ (d.atPath target.clean).BuiltAt root runtime target.clean ∧
    ∀ bytes,
      let spelled := WorkerModule.ofBytes root d.kind target bytes
      let cleaned := WorkerModule.ofBytes root d.kind target.clean bytes
      (∀ w : Walker, w.root = root.clean →
        w.sourceModule ⟨Utf8.decodeLossy bytes, target.clean, mode⟩ = cleaned) ∧
      spelled.name = cleaned.name ∧
      (spelled = cleaned ↔
        SourceUrl.isStamped (Utf8.decodeLossy bytes) = true ∨ .up ∉ target.segments) := by
  intro target
  have htarget : target.isAbsolute := Path.isAbsolute_join habs d.path
  have hclean : fromWorkingDirectory runtime (d.atPath target.clean).path = .ok target.clean :=
    fromWorkingDirectory_of_isAbsolute (Path.isAbsolute_clean htarget)
  have hname : moduleName root target = moduleName root target.clean :=
    (Path.moduleName_clean_file root htarget).symm
  refine ⟨fun log => run_toModule (fromWorkingDirectory_eq hcwd d.path) log,
    fun log => run_toModule hclean log, fun bytes => ⟨fun w hroot => ?_, ?_, ?_⟩⟩
  · rw [← ofBytes_of_source hkind, hroot, WorkerModule.ofBytes, Path.moduleName_clean,
      WorkerModule.ofBytes]
  · rw [WorkerModule.name_ofBytes, WorkerModule.name_ofBytes, hname]
  · rw [ofBytes_eq_iff hkind, and_iff_right hname, ← SourceUrl.locator_clean_iff htarget,
      eq_comm (a := SourceUrl.locator target)]

/-- A file is read by a path with dots and slashes to spare, but without a `..`. -/
theorem toModule_spelling_dots :
    let runtime : Runtime := .ofFiles (.ok "/w") [("/w/lib/a.mjs", .ok [])]
    let d : ModuleDefinition := ⟨.esModule, "./lib//a.mjs", none⟩
    (d.atPath "/w/./lib//a.mjs").bytesIn runtime = .ok [] ∧
      d.BuiltAt "/w" runtime "/w/./lib//a.mjs" ∧
      WorkerModule.ofBytes "/w" .esModule "/w/./lib//a.mjs" [] =
        .ofBytes "/w" .esModule "/w/lib/a.mjs" [] := by
  intro runtime d
  have htarget : Path.join "/w" d.path = "/w/./lib//a.mjs" := by decide +kernel
  have hclean : ("/w/./lib//a.mjs" : Path).clean = "/w/lib/a.mjs" := by decide +kernel
  obtain ⟨hbuilt, -, hmodules⟩ :=
    toModule_spelling "/w" runtime "/w" rfl (by decide) d .module rfl
  obtain ⟨-, -, hsame⟩ := hmodules []
  rw [htarget] at hbuilt hsame
  rw [hclean] at hsame
  exact ⟨by decide +kernel, hbuilt, hsame.mpr (Or.inr (by decide +kernel))⟩

/-- The name is that of `/w/a.mjs`, and the stamp leads to a debugger that looks for the source
through `lib`. -/
theorem toModule_unclean :
    let runtime : Runtime := .ofFiles (.ok "/w") []
    let d : ModuleDefinition := ⟨.esModule, "lib/../a.mjs", some (.text "export \x7b\x7d")⟩
    let m : WorkerModule :=
      ⟨"a.mjs", .esModule "export \x7b\x7d\n//# sourceURL=file:///w/lib/../a.mjs\n"⟩
    let discovered : WorkerModule :=
      ⟨"a.mjs", .esModule "export \x7b\x7d\n//# sourceURL=file:///w/a.mjs\n"⟩
    (Path.join "/w" d.path).clean = "/w/a.mjs" ∧
      SourceUrl.isStamped "export \x7b\x7d" = false ∧
      (ModuleDefinition.toModule "/w" runtime d).run [] = (.ok m, []) ∧
      (ModuleDefinition.toModule "/w" runtime (d.atPath "/w/a.mjs")).run [] =
        (.ok discovered, []) ∧ m ≠ discovered := by
  intro runtime d m discovered
  have hpath : fromWorkingDirectory runtime d.path = .ok "/w/lib/../a.mjs" := by
    decide +kernel
  have hmodule : .ofBytes "/w" .esModule "/w/lib/../a.mjs"
      (Utf8.encode "export \x7b\x7d") = m := by
    decide +kernel
  have hdiscovered : .ofBytes "/w" .esModule "/w/a.mjs"
      (Utf8.encode "export \x7b\x7d") = discovered := by
    decide +kernel
  have hclean : fromWorkingDirectory runtime (d.atPath "/w/a.mjs").path = .ok "/w/a.mjs" :=
    fromWorkingDirectory_of_isAbsolute (by decide)
  refine ⟨by decide +kernel, by decide +kernel, ?_, ?_, by decide +kernel⟩
  · rw [run_toModule hpath, ← hmodule]
    rfl
  · rw [run_toModule hclean, ← hdiscovered]
    rfl

end ModuleDiscovery
