import ModuleDiscovery.Proofs.Text.Utf8
import ModuleDiscovery.Proofs.Walk.Names

/-!
# Where the modules of a walker come from

A walker may have been given any number of entrypoints, and some of them may have failed.  The
modules it holds then stand for visited paths, and each was made by one of the calls
(`Held`), of the code that the call gave or of the file at the path.

With no file and no entrypoint at `/`, these paths are canonical, or inline scripts
(`canonical_or_script_visitAll`).
-/

namespace ModuleDiscovery.Walk

variable {w : Walker} {calls : List (String × Path)} {p : Path} {m : WorkerModule}
  {source : Source} {s : State}

/-- A module that a walker holds after some calls, with the path that it stands for. -/
structure Held (w : Walker) (calls : List (String × Path)) (p : Path) (m : WorkerModule) :
    Prop where
  visited : p ∈ (w.visitAll calls .fresh).visited
  record : ∃ call ∈ calls, ∃ entry, w.absolutize call.2 = .ok entry ∧
    recordAt? w call.1 entry p = some m

theorem exists_held (hm : m ∈ (w.visitAll calls .fresh).modules) : ∃ p, Held w calls p m := by
  rw [modules_visitAll] at hm
  obtain ⟨⟨p, record⟩, hposting, hrecord⟩ := List.mem_filterMap.mp hm
  obtain rfl : record = some m := hrecord
  refine ⟨p, ?_, stands_ledger hposting⟩
  rw [visited_visitAll]
  exact List.mem_map_of_mem hposting

theorem Held.name_eq (hheld : Held w calls p m) : m.name = moduleName w.root p := by
  obtain ⟨call, -, entry, -, hrecord⟩ := hheld.record
  exact name_of_recordAt? hrecord

theorem exists_sourceModule_eq (w : Walker) (source : Source) :
    ∃ kind bytes, w.sourceModule source = .ofBytes w.root kind source.path bytes := by
  obtain ⟨text, path, mode⟩ := source
  cases mode with
  | module =>
      refine ⟨.esModule, Utf8.encode text, ?_⟩
      rw [ofBytes_of_source rfl, Utf8.decodeLossy_encode]
  | script =>
      refine ⟨.commonJs, Utf8.encode text, ?_⟩
      rw [ofBytes_of_source rfl, Utf8.decodeLossy_encode]

/-- A module is made of some bytes at its path, also if they were given as the code of a
call. -/
theorem Held.exists_ofBytes (hheld : Held w calls p m) :
    ∃ kind bytes, m = .ofBytes w.root kind p bytes := by
  obtain ⟨call, -, entry, -, hrecord⟩ := hheld.record
  by_cases hentry : p = entry
  · subst hentry
    obtain rfl := Option.some.inj (hrecord.symm.trans (recordAt?_of_source sourceAt?_entry))
    exact exists_sourceModule_eq w ⟨call.1, p, .module⟩
  · obtain ⟨rule, bytes, -, -, hname, -, hcontents⟩ := fileRecord_of_recordAt? hrecord hentry
    obtain ⟨name, contents⟩ := m
    subst hname hcontents
    exact ⟨rule.kind, bytes, rfl⟩

/-! ## Visited paths -/

theorem canonical_or_script_visitAll (hcwd : ∀ dir, w.runtime.cwd = .ok dir → dir.isAbsolute)
    (hrootless : w.runtime.Rootless) (hcalls : ∀ call ∈ calls, w.absolutize call.2 ≠ .ok "/")
    (hs : ∀ p ∈ s.visited, p.Canonical ∨ p.isScriptId) :
    ∀ p ∈ (w.visitAll calls s).visited, p.Canonical ∨ p.isScriptId := by
  induction calls generalizing s with
  | nil => exact hs
  | cons call calls ih =>
      obtain ⟨hcall, hrest⟩ := List.forall_mem_cons.mp hcalls
      refine ih hrest (grounded_stateAfter hrootless (·.isScriptId) call hs ?_)
      intro entry habs
      rcases canonical_or_script_of_absolutize hcwd habs with hcanonical | ⟨hscript, -⟩
      · exact Or.inl ⟨hcanonical, fun hroot => hcall (hroot ▸ habs)⟩
      · exact Or.inr ⟨hscript, hscript⟩

end ModuleDiscovery.Walk
