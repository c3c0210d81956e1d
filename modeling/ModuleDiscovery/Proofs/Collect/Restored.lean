import ModuleDiscovery.Proofs.Collect.Listed
import ModuleDiscovery.Proofs.ModuleName.Shortest
import ModuleDiscovery.Proofs.SourceUrl.Marker
import ModuleDiscovery.Proofs.Text.Utf8
import ModuleDiscovery.Proofs.Walk.Origin

/-!
# A module is built again from its definition

The definition of a module has its kind, its contents, and the path that its name leads to.
That is enough to build the module again, whether a walker holds it or it was built from a
definition before.  Only the name can be lost, where it does not lead back to a file.

## Strategy

Either way the module is made of some bytes at a path, which is a file or an inline script
(`Produced.exists_ofBytes`).  Three facts about such a module bring it back.

* **The kind.**  Every content kind is told by the contents it makes (`kind?_contentsOf`).
* **The contents.**  They are decoded text or bytes, and decoding does nothing to text that
  is written out again.  A JavaScript source has its stamp, so that it gets no other, even
  where the path is another now (`contentsOf_inline`).
* **The name.**  A file leads to what is shown of it, which has the name of the file unless
  it shares more with the root (`moduleName_join_moduleName_iff`).  An inline script leads
  to a file that poses as the script, and goes by its name.
-/

namespace ModuleDiscovery

open Walk

variable {root p q : Path} {runtime : Runtime} {kind : ContentKind} {bytes : Bytes}
  {m : WorkerModule}

/-! ## Names and contents -/

theorem shownFrom_of_isScriptId (hroot : root.isAbsolute) (hscript : p.isScriptId) :
    p.shownFrom root = p := by
  obtain ⟨names, -, hbase⟩ := (Path.canonical_clean hroot).segments
  have hclean := Path.clean_of_isScriptId hscript
  have hlegible : (Segment.name p.bytes).legible = .name p.bytes := by
    rw [Segment.legible]
    exact congrArg _ (Path.encode_text_of_isScriptId hscript)
  rw [Path.shownFrom, Path.sharedWith, hclean, hbase, Path.segments_of_isScriptId hscript]
  simp only [Segment.commonLength, reduceCtorEq, if_false, List.take_zero, List.drop_zero,
    List.nil_append, List.map_cons, List.map_nil, hlegible]
  rw [← Path.segments_of_isScriptId hscript, Path.ofSegments_segments hclean]

/-- The path in the definition of a module has the name of the module exactly if it shares as
much with the root as the path of the module. -/
theorem moduleName_join_moduleName_iff (hroot : root.isAbsolute)
    (hp : p.isAbsolute ∨ p.isScriptId) :
    moduleName root (root.join (moduleName root p)).clean = moduleName root p ↔
      (p.shownFrom root).sharedWith root = p.sharedWith root := by
  rw [← Path.clean_join_clean root]
  rcases hp with hfile | hscript
  · rw [Path.clean_join_moduleName root hfile, Path.moduleName_shownFrom_eq_iff hroot hfile]
  · rw [Path.moduleName_of_isScriptId root hscript, Path.ofText_text_of_isScriptId hscript,
      Path.moduleName_of_poses hroot hscript, shownFrom_of_isScriptId hroot hscript]
    simp only

theorem sharedWith_shownFrom (hroot : root.isAbsolute) (hp : p.isAbsolute ∨ p.isScriptId)
    (htext : p.isTextFrom root) : (p.shownFrom root).sharedWith root = p.sharedWith root := by
  rcases hp with hfile | hscript
  · rw [(Path.shownFrom_eq_iff hfile root).mpr htext, Path.sharedWith, Path.clean_clean,
      Path.sharedWith]
  · rw [shownFrom_of_isScriptId hroot hscript]

/-- Contents that are written out and read back for another path are the same. -/
theorem contentsOf_inline (kind : ContentKind) (p q : Path) (bytes : Bytes) :
    let contents := ModuleDefinition.contentsOf kind p bytes
    ModuleDefinition.contentsOf kind q contents.inline.toBytes = contents := by
  have hsource : ∀ text : String,
      SourceUrl.stamp (Utf8.decodeLossy (Utf8.encode (SourceUrl.stamp text (SourceUrl.locator p))))
        (SourceUrl.locator q) = SourceUrl.stamp text (SourceUrl.locator p) := by
    intro text
    rw [Utf8.decodeLossy_encode, SourceUrl.stamp_stamp]
  intro contents
  cases kind with
  | esModule => exact congrArg ModuleContents.esModule (hsource _)
  | commonJs => exact congrArg ModuleContents.commonJs (hsource _)
  | text => exact congrArg ModuleContents.text (Utf8.decodeLossy_encode _)
  | pythonModule => exact congrArg ModuleContents.pythonModule (Utf8.decodeLossy_encode _)
  | pythonRequirement =>
      exact congrArg ModuleContents.pythonRequirement (Utf8.decodeLossy_encode _)
  | data | compiledWasm => rfl

/-- A module that was made of bytes at a path is built again, without a read, under the name
of the path that its own name leads to. -/
theorem toModule_of_ofBytes (hroot : root.isAbsolute) (runtime : Runtime) (kind : ContentKind)
    (p : Path) (bytes : Bytes) :
    let m := WorkerModule.ofBytes root kind p bytes
    ∃ d, m.toDefinition? root = some d ∧ d.path = (root.join m.name).clean ∧
      ∀ log, (ModuleDefinition.toModule root runtime d).run log =
        (.ok ⟨moduleName root d.path, m.contents⟩, log) := by
  intro m
  let d : ModuleDefinition := ⟨kind, (root.join m.name).clean, some m.contents.inline⟩
  have hkind : m.kind? = some kind := kind?_contentsOf kind p bytes
  refine ⟨d, ?_, rfl, fun log => ?_⟩
  · rw [WorkerModule.toDefinition?, hkind, Option.map_some]
  · have habs : d.path.isAbsolute := Path.isAbsolute_clean (Path.isAbsolute_join hroot _)
    have hbytes : d.bytesIn runtime = .ok m.contents.inline.toBytes := rfl
    have hnothing : d.reading = [] := rfl
    have hcontents : ModuleDefinition.contentsOf kind d.path m.contents.inline.toBytes =
        m.contents := contentsOf_inline kind p d.path bytes
    rw [run_toModule_of_bytesIn root habs hbytes, hnothing, List.append_nil, WorkerModule.ofBytes,
      hcontents]

/-! ## Modules that are produced -/

/-- A module that a walker holds after any calls, none of them from `/`, or that was built
from a definition. -/
inductive Produced (root : Path) (runtime : Runtime) (m : WorkerModule) : Prop
  | walked (w : Walker) (calls : List (String × Path)) (hroot : w.root = root.clean)
      (hruntime : w.runtime = runtime) (hrootless : runtime.Rootless)
      (hcalls : ∀ call ∈ calls, w.absolutize call.2 ≠ .ok "/")
      (hm : m ∈ (w.visitAll calls .fresh).modules)
  | listed (d : ModuleDefinition) (log log' : List Event)
      (hrun : (ModuleDefinition.toModule root runtime d).run log = (.ok m, log'))

/-- Every module is made of bytes at a path. -/
theorem Produced.exists_ofBytes (hcwd : ∀ dir, runtime.cwd = .ok dir → dir.isAbsolute)
    (hm : Produced root runtime m) :
    ∃ p kind bytes, (p.isAbsolute ∨ p.isScriptId) ∧ m = .ofBytes root kind p bytes := by
  cases hm with
  | walked w calls hroot hruntime hrootless hcalls hm =>
      subst hruntime
      obtain ⟨p, hheld⟩ := exists_held hm
      obtain ⟨kind, bytes, rfl⟩ := hheld.exists_ofBytes
      have hplace := canonical_or_script_visitAll hcwd hrootless hcalls
        (s := .fresh) (by simp [State.fresh]) p hheld.visited
      refine ⟨p, kind, bytes, hplace.imp_left Path.Canonical.absolute, ?_⟩
      rw [hroot, WorkerModule.ofBytes, Path.moduleName_clean, WorkerModule.ofBytes]
  | listed d log log' hrun =>
      obtain ⟨p, bytes, hpath, -, rfl⟩ := exists_of_run_toModule hrun
      exact ⟨p, d.kind, bytes, Or.inl (isAbsolute_of_fromWorkingDirectory hcwd hpath), rfl⟩

/-- Under an absolute root and below an absolute working directory, every module has a
definition.  Building the definition reads no file, and gives the contents of the module under
the name of the path in the definition.  The module is named after a file or an inline script,
and for any such path the name is the same exactly if what is shown of the path shares as much
with the root as the path itself, as it does where the way from the root is text. -/
theorem toModule_toDefinition (root : Path) (hroot : root.isAbsolute) (runtime : Runtime)
    (hcwd : ∀ dir, runtime.cwd = .ok dir → dir.isAbsolute) (m : WorkerModule)
    (hm : Produced root runtime m) :
    ∃ d, m.toDefinition? root = some d ∧
      (∀ log, (ModuleDefinition.toModule root runtime d).run log =
        (.ok ⟨moduleName root d.path, m.contents⟩, log)) ∧
      (∃ p : Path, (p.isAbsolute ∨ p.isScriptId) ∧ m.name = moduleName root p) ∧
      ∀ p : Path, (p.isAbsolute ∨ p.isScriptId) → m.name = moduleName root p →
        (moduleName root d.path = m.name ↔
          (p.shownFrom root).sharedWith root = p.sharedWith root) ∧
        (p.isTextFrom root → moduleName root d.path = m.name) := by
  obtain ⟨p, kind, bytes, hp, rfl⟩ := hm.exists_ofBytes hcwd
  obtain ⟨d, hd, hpath, hrun⟩ := toModule_of_ofBytes hroot runtime kind p bytes
  refine ⟨d, hd, hrun, ⟨p, hp, WorkerModule.name_ofBytes root kind p bytes⟩, fun q hq hname => ?_⟩
  have hsame : moduleName root d.path = (WorkerModule.ofBytes root kind p bytes).name ↔
      (q.shownFrom root).sharedWith root = q.sharedWith root := by
    rw [hpath, hname]
    exact moduleName_join_moduleName_iff hroot hq
  exact ⟨hsame, fun htext => hsame.mpr (sharedWith_shownFrom hroot hq htext)⟩

/-- An inline script and two files that the root does not hold, and a definition whose bytes
are not all text; the root and the paths are spelled in roundabout ways. -/
theorem toModule_toDefinition_circle :
    let root : Path := "/lib/."
    let w : Walker := { Walker.circle with root := root.clean }
    let held := (w.visitAll [("", "<script:0>"), ("", "x/../a.js")] .fresh).modules
    let built : WorkerModule :=
      ⟨"../b.cjs", .commonJs "h\uFFFD\n//# sourceURL=file:///x/../b.cjs\n"⟩
    let places : List Path := ["/x/../b.cjs", "<script:0>", "/a.js", "/b.js"]
    (built :: held).map WorkerModule.name = places.map (moduleName root) ∧
      ∀ m ∈ built :: held, ∃ d, m.toDefinition? root = some d ∧
        ∀ log, (ModuleDefinition.toModule root w.runtime d).run log = (.ok m, log) := by
  intro root w held built places
  have hcalls : ∀ call ∈ [("", ("<script:0>" : Path)), ("", "x/../a.js")],
      w.absolutize call.2 ≠ .ok "/" := by
    decide +kernel
  let d : ModuleDefinition := ⟨.commonJs, "x/../b.cjs", some (.bytes [0x68, 0xFF])⟩
  have hpath : fromWorkingDirectory w.runtime d.path = .ok "/x/../b.cjs" := by
    decide +kernel
  have hmodule : .ofBytes root .commonJs "/x/../b.cjs" [0x68, 0xFF] = built := by
    decide +kernel
  have hbuilt : (ModuleDefinition.toModule root w.runtime d).run [] = (.ok built, []) := by
    rw [run_toModule hpath, ← hmodule]
    rfl
  have hnames : (built :: held).map WorkerModule.name = places.map (moduleName root) := by
    decide +kernel
  have hproduced : ∀ m ∈ built :: held, Produced root w.runtime m := by
    intro m hm
    rcases List.mem_cons.mp hm with rfl | hheld
    · exact Produced.listed d [] [] hbuilt
    · exact Produced.walked w _ rfl rfl Walker.rootless_circle hcalls hheld
  refine ⟨hnames, fun m hm => ?_⟩
  obtain ⟨p, hp, hname⟩ := List.mem_map.mp (hnames ▸ List.mem_map_of_mem hm)
  have hplace : ∀ p ∈ places, (p.isAbsolute ∨ p.isScriptId) ∧ p.isTextFrom root := by
    decide +kernel
  obtain ⟨d, hd, hrun, -, hback⟩ := toModule_toDefinition root (by decide) w.runtime
    Walker.isAbsolute_cwd_circle m (hproduced m hm)
  refine ⟨d, hd, fun log => ?_⟩
  rw [hrun, (hback p (hplace p hp).1 hname.symm).2 (hplace p hp).2]

/-- What is shown of the file lies in the root, and the file itself does not. -/
theorem toModule_renamed :
    let root : Path := "/\uFFFD"
    let runtime : Runtime := .ofFiles (.ok "/") []
    let d : ModuleDefinition :=
      ⟨.text, ⟨Segment.slash :: 0xFF :: Utf8.encode "/x"⟩, some (.text "t")⟩
    let m : WorkerModule := ⟨"../\uFFFD/x", .text "t"⟩
    let back : ModuleDefinition := ⟨.text, "/\uFFFD/x", some (.text "t")⟩
    ((ModuleDefinition.toModule root runtime d).run []).1 = .ok m ∧
      m.toDefinition? root = some back ∧
      ((ModuleDefinition.toModule root runtime back).run []).1 = .ok ⟨"x", .text "t"⟩ := by
  decide +kernel

end ModuleDiscovery
