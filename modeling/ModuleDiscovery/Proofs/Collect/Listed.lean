import ModuleDiscovery.Proofs.Collect

/-!
# Modules that are listed by hand

A definition has the bytes of its module or leaves them to be read from its path.  When
all of them can be had, a build of listed modules succeeds, with one module for each
definition, in the order of the list.
-/

namespace ModuleDiscovery

variable {root : Path} {runtime : Runtime} {d : ModuleDefinition} {bytes : Bytes}
  {definitions : List ModuleDefinition} {log : List Event}

/-- A module that a definition stands for. -/
def ModuleDefinition.StandsFor (root : Path) (runtime : Runtime) (d : ModuleDefinition)
    (m : WorkerModule) : Prop :=
  ∃ bytes, d.bytesIn runtime = .ok bytes ∧
    m = ⟨moduleName root d.path, contentsOf d.kind d.path bytes⟩

/-- Definitions whose bytes can be had are built one after the other. -/
theorem exists_run_mapM_toModule (root : Path)
    (hdefinitions : ∀ d ∈ definitions, d.path.isAbsolute ∧ ∃ bytes, d.bytesIn runtime = .ok bytes)
    (log : List Event) :
    ∃ modules log', (definitions.mapM (ModuleDefinition.toModule root runtime)).run log =
        (.ok modules, log') ∧
      List.Forall₂ (ModuleDefinition.StandsFor root runtime) definitions modules := by
  induction definitions generalizing log with
  | nil => exact ⟨[], log, rfl, List.Forall₂.nil⟩
  | cons d definitions ih =>
      obtain ⟨⟨habs, bytes, hbytes⟩, hrest⟩ := List.forall_mem_cons.mp hdefinitions
      have hmodule := run_toModule_of_bytesIn root habs hbytes log
      obtain ⟨modules, log₂, hmodules, hstands⟩ := ih hrest (log ++ d.reading)
      refine ⟨_ :: modules, log₂, ?_, List.Forall₂.cons ⟨bytes, hbytes, rfl⟩ hstands⟩
      rw [List.mapM_cons, run_bind_ok log hmodule, run_bind_ok (log ++ d.reading) hmodules]
      rfl

/-- A build of listed modules whose bytes can be had. -/
theorem exists_run_collectModules_listed (options : WalkOptions) (parser : SpecifierParser)
    (hdefinitions : ∀ d ∈ definitions, d.path.isAbsolute ∧ ∃ bytes, d.bytesIn runtime = .ok bytes)
    (log : List Event) :
    ∃ modules, ((collectModules (.listed definitions) options runtime parser).run log).1 =
        .ok modules ∧
      List.Forall₂ (ModuleDefinition.StandsFor options.root runtime) definitions modules := by
  obtain ⟨modules, log', hmodules, hstands⟩ :=
    exists_run_mapM_toModule options.root.clean hdefinitions log
  have hlisted : (toModules options.root.clean runtime definitions).run log =
      (.ok modules, log') := run_adapt_ok log hmodules CollectError.module
  refine ⟨modules, ?_, hstands.imp ?_⟩
  · rw [collectModules, run_bind_ok log hlisted]
    rfl
  · rintro d m ⟨bytes, hbytes, rfl⟩
    exact ⟨bytes, hbytes, by rw [Path.moduleName_clean]⟩

end ModuleDiscovery
