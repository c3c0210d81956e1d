import ModuleDiscovery.Proofs.Walk.Names

/-!
# The root only names modules

A walk goes from path to path, and its root only turns the paths into names.  There is
one way back from a name into the walk: a specifier is refused when the name of its module
is that of an inline script.  So two walks with different roots may come to different
ends, but when both succeed they have done the same, and the names are all that differs.

## Strategy

Success leaves nothing to the names.

* **One specifier.**  What an arrival comes to when it succeeds is told by the paths alone
  (`Walker.target`, `Arrival.eq_target`).
* **Side by side.**  The two stacks hold the same specifiers, under names of their own,
  and each pop finds the same in both (`Drains.visited_eq`).
* **Everything else.**  The records, the reads and the sources that were parsed are
  settled by the visited paths and their order (`Frontier`, `visited_eq_of_ok`,
  `parseCalls_eq_of_ok`).

## Main results

* `visit_withRoot`: two successful walks with different roots differ in names only.
-/

namespace ModuleDiscovery

open Walk

namespace Walker

/-- The walker with another root. -/
def withRoot (w : Walker) (root : Path) : Walker :=
  { w with root := root }

/-- Options with another root make the walker with that root. -/
theorem create_withRoot (options : WalkOptions) (runtime : Runtime) (parser : SpecifierParser)
    (root : Path) :
    create { options with root := root } runtime parser =
      (create options runtime parser).map (·.withRoot root.clean) := by
  simp only [create]
  cases ModuleRule.compile options.rules <;> rfl

/-- The source that a specifier leads to and the paths that have been visited then, if
nothing goes wrong. -/
def target (w : Walker) (code : String) (entry : Path) (visited : List Path) (importer : Path) :
    Specifier → Option Source × List Path
  | .dynamic _ => (none, visited)
  | .literal text _ =>
    if NodeCompat.isProvided w.nodeCompat w.external text ∨ resolve importer text ∈ visited then
      (none, visited)
    else (sourceAt? w code entry (resolve importer text), visited ++ [resolve importer text])

end Walker

namespace Walk

variable {w : Walker} {root : Path} {code : String} {path entry : Path} {item item' : Pending}
  {pending pending' : List Pending} {source : Source} {found found' : Option Source}
  {s s₁ s' t t₁ t' : State} {r r' : Except Stop Unit} {bound bound' : ℕ}

/-! ## One specifier -/

theorem Leads.target_of_mem {text : String} {p : Path} (hleads : Leads w item text p)
    {visited : List Path} (hvisited : p ∈ visited) :
    w.target code entry visited item.importer item.specifier = (none, visited) := by
  obtain ⟨⟨position, hitem⟩, -, -, rfl⟩ := hleads
  rw [hitem, Walker.target, if_pos (Or.inr hvisited)]

theorem Leads.target_of_new {text : String} {p : Path} (hleads : Leads w item text p)
    {visited : List Path} (hnew : p ∉ visited) :
    w.target code entry visited item.importer item.specifier =
      (sourceAt? w code entry p, visited ++ [p]) := by
  obtain ⟨⟨position, hitem⟩, hprovided, -, rfl⟩ := hleads
  rw [hitem, Walker.target, if_neg (by simp [hprovided, hnew])]

/-- The name of the importer has no part in what an arrival finds. -/
theorem Arrival.eq_target (harrive : Arrival w item s (.ok found, s₁)) (code : String)
    (hentry : entry ∈ s.visited) :
    (found, s₁.visited) = w.target code entry s.visited item.importer item.specifier := by
  cases harrive with
  | provided text position hitem hprovided =>
      rw [hitem, Walker.target, if_pos (Or.inl hprovided)]
      rfl
  | visited text p hleads hvisited =>
      rw [hleads.target_of_mem hvisited]
      rfl
  | asset text p rule bytes hleads hserved hkind =>
      rw [hleads.target_of_new hserved.is_new, hserved.sourceAt?_eq hentry, hkind]
      rfl
  | source text p rule bytes mode hleads hserved hkind =>
      rw [hleads.target_of_new hserved.is_new, hserved.sourceAt?_eq hentry, hkind]
      rfl

/-! ## Side by side -/

/-- The same specifier at the same path, whatever its module is named. -/
structure Unnamed (item item' : Pending) : Prop where
  importer_eq : item'.importer = item.importer
  specifier_eq : item'.specifier = item.specifier

/-- Two arrivals at the same specifier find the same when both succeed. -/
theorem Unnamed.arrive (hitem : Unnamed item item') (hvisited : t.visited = s.visited)
    (hentry : entry ∈ s.visited) (harrive : (w.arrive item).run s = (.ok found, s₁))
    (harrive' : ((w.withRoot root).arrive item').run t = (.ok found', t₁)) :
    found' = found ∧ t₁.visited = s₁.visited := by
  have htarget := (arrival_of_run harrive).eq_target "" hentry
  have htarget' := (arrival_of_run harrive').eq_target "" (hvisited ▸ hentry)
  rw [hitem.importer_eq, hitem.specifier_eq, hvisited] at htarget'
  exact Prod.ext_iff.mp (htarget'.trans htarget.symm)

/-- The same source has the same specifiers. -/
theorem pending_withRoot (hopen : (w.openSource source).run s = (.ok pending, s₁))
    (hopen' : ((w.withRoot root).openSource source).run t = (.ok pending', t₁)) :
    List.Forall₂ Unnamed pending pending' := by
  cases opening_of_run hopen with
  | parsed specifiers hparse =>
      cases opening_of_run hopen' with
      | parsed specifiers' hparse' =>
          obtain rfl : specifiers = specifiers' := Except.ok.inj (hparse.symm.trans hparse')
          rw [Walker.pendingOf, Walker.pendingOf, List.forall₂_map_left_iff,
            List.forall₂_map_right_iff]
          exact List.forall₂_same.mpr fun specifier _ => ⟨rfl, rfl⟩

/-- Two runs of the stack that both succeed visit the same paths. -/
theorem Drains.visited_eq (hdrains : Drains w pending s r s') (hr : r = .ok ())
    (hdrains' : Drains (w.withRoot root) pending' t r' t') (hr' : r' = .ok ())
    (hpending : List.Forall₂ Unnamed pending pending') (hvisited : t.visited = s.visited)
    (hentry : entry ∈ s.visited) : t'.visited = s'.visited := by
  -- what a pop of the first run finds, the pop of the second run beside it finds too
  induction hdrains generalizing pending' t with
  | done s =>
      cases hpending
      cases hdrains'
      exact hvisited
  | halted | unparsable | cut => cases hr
  | passed harrive _ ih =>
      have hsubset := (arrival_of_run harrive).progress.subset
      obtain ⟨item', rest', hitem, hrest, rfl⟩ := List.forall₂_cons_left_iff.mp hpending
      cases hdrains' with
      | halted | unparsable | cut => cases hr'
      | passed harrive' hrest' =>
          have harrived := hitem.arrive hvisited hentry harrive harrive'
          exact ih hr hrest' hrest harrived.2 (hsubset hentry)
      | opened harrive' => cases (hitem.arrive hvisited hentry harrive harrive').1
  | opened harrive hopen _ ih =>
      have hsubset := (arrival_of_run harrive).progress.subset
      have hopened := (opening_of_run hopen).changes.1
      obtain ⟨item', rest', hitem, hrest, rfl⟩ := List.forall₂_cons_left_iff.mp hpending
      cases hdrains' with
      | halted | unparsable | cut => cases hr'
      | passed harrive' => cases (hitem.arrive hvisited hentry harrive harrive').1
      | opened harrive' hopen' hrest' =>
          -- the same source, whose specifiers go on top of both stacks
          obtain ⟨hsource, hvisited₁⟩ := hitem.arrive hvisited hentry harrive harrive'
          obtain rfl := Option.some.inj hsource
          have hopened' := (opening_of_run hopen').changes.1
          exact ih hr hrest' (List.rel_append (pending_withRoot hopen hopen') hrest)
            (by rw [hopened', hvisited₁, hopened]) (hopened ▸ hsubset hentry)

theorem Entry.visited_eq (hwalk : Entry w code path .fresh (.ok (), s))
    (hwalk' : Entry (w.withRoot root) code path .fresh (.ok (), s')) :
    s'.visited = s.visited := by
  cases hwalk with
  | visited _ hmem => cases hmem
  | @opened target pending s₁ _ _ habs _ hopen hdrains =>
      cases hwalk' with
      | visited _ hmem => cases hmem
      | @opened target' _ _ _ _ habs' _ hopen' hdrains' =>
          obtain rfl : target = target' := Except.ok.inj (habs.symm.trans habs')
          have hopened : s₁.visited = [target] := (opening_of_run hopen).changes.1
          have hentry : target ∈ s₁.visited := hopened ▸ List.mem_cons_self
          have hvisited := (opening_of_run hopen').changes.1.trans hopened.symm
          exact hdrains.visited_eq rfl hdrains' rfl (pending_withRoot hopen hopen') hvisited hentry

/-! ## What the visited paths settle -/

/-- What stands for a path apart from its name does not depend on the root. -/
theorem contents_withRoot (w : Walker) (root : Path) (code : String) (entry p : Path) :
    (recordAt? (w.withRoot root) code entry p).map WorkerModule.contents =
      (recordAt? w code entry p).map WorkerModule.contents := by
  have hsource : sourceAt? (w.withRoot root) code entry p = sourceAt? w code entry p := rfl
  unfold recordAt?
  rw [hsource]
  cases sourceAt? w code entry p with
  | some source => simp only [Option.map_some, Walker.sourceModule]
  | none =>
      simp only [Walker.withRoot]
      cases CompiledRule.find? w.rules p <;> cases w.runtime.readFile p <;>
        simp only [Option.map_some, Option.map_none]

theorem Frontier.map_contents (hI : Frontier w code entry pending s) :
    (s.modules.map WorkerModule.contents).map some =
      s.visited.map fun p => (recordAt? w code entry p).map WorkerModule.contents := by
  have hrecords := congrArg (List.map (Option.map WorkerModule.contents)) hI.records
  rw [List.map_map, List.map_map] at hrecords
  rw [List.map_map]
  exact hrecords.symm

theorem filterMap_javaScript?_of_contents {modules modules' : List WorkerModule}
    (hcontents : modules'.map WorkerModule.contents = modules.map WorkerModule.contents) :
    modules'.filterMap WorkerModule.javaScript? = modules.filterMap WorkerModule.javaScript? := by
  have hlists := congrArg (List.filterMap fun c => WorkerModule.javaScript? ⟨"", c⟩) hcontents
  rw [List.filterMap_map, List.filterMap_map] at hlists
  exact hlists

/-- The states that two walkers leave behind differ in nothing but names.  The modules
stand for the visited paths, each for its own, and have equal contents and hence equal
kinds. -/
structure SameButNames (w w' : Walker) (s s' : State) : Prop where
  visited_eq : s'.visited = s.visited
  reads_eq : s'.reads = s.reads
  parseCalls_eq : s'.parseCalls = s.parseCalls
  contents_eq : s'.modules.map WorkerModule.contents = s.modules.map WorkerModule.contents
  names_eq : s.modules.map WorkerModule.name = s.visited.map (moduleName w.root)
  names_eq' : s'.modules.map WorkerModule.name = s.visited.map (moduleName w'.root)

theorem sameButNames_of_ok (hrun : (w.visitWithin bound code path).run .fresh = (.ok (), s))
    (hrun' : ((w.withRoot root).visitWithin bound' code path).run .fresh = (.ok (), s')) :
    SameButNames w (w.withRoot root) s s' := by
  obtain ⟨entry, habs⟩ := exists_absolutize_of_ok hrun
  have habs' : (w.withRoot root).absolutize path = .ok entry := habs
  have hI := frontier_of_ok habs hrun
  have hI' := frontier_of_ok habs' hrun'
  have hvisited : s'.visited = s.visited := (entry_of_ok hrun).visited_eq (entry_of_ok hrun')
  have hcontents : s'.modules.map WorkerModule.contents = s.modules.map WorkerModule.contents := by
    refine List.map_injective_iff.mpr (Option.some_injective _) ?_
    rw [hI'.map_contents, hI.map_contents, hvisited]
    exact List.map_congr_left fun p _ => contents_withRoot w root code entry p
  exact {
    visited_eq := hvisited
    reads_eq := by
      have hreads := visited_eq_of_ok habs hrun
      rw [← hvisited, visited_eq_of_ok habs' hrun'] at hreads
      exact (List.cons.inj hreads).2
    parseCalls_eq := by
      rw [parseCalls_eq_of_ok habs' hrun', parseCalls_eq_of_ok habs hrun]
      exact filterMap_javaScript?_of_contents hcontents
    contents_eq := hcontents
    names_eq := map_name_eq hI.forall₂
    names_eq' := hvisited ▸ map_name_eq hI'.forall₂ }

/-- When the walks with two roots both succeed, within whatever bounds, they have visited
and read the same paths in the same order, and parsed the same sources; their records
stand side by side, with equal contents, each named after its path from the root of its
walk.  So it is with walks that bound themselves.  Options that differ in the root make
walkers that differ in it (`Walker.create_withRoot`). -/
theorem visit_withRoot (w : Walker) (root : Path) (code : String) (path : Path) :
    let w' := w.withRoot root
    (∀ bound bound' s s', (w.visitWithin bound code path).run .fresh = (.ok (), s) →
      (w'.visitWithin bound' code path).run .fresh = (.ok (), s') → SameButNames w w' s s') ∧
    (∀ s s', (w.visitEntrypoint code path).run .fresh = (.ok (), s) →
      (w'.visitEntrypoint code path).run .fresh = (.ok (), s') → SameButNames w w' s s') :=
  ⟨fun _ _ _ _ => sameButNames_of_ok, fun _ _ hrun hrun' => sameButNames_of_ok hrun hrun'⟩

/-- From a root beside the files the way to them leads up first. -/
theorem visit_withRoot_circle :
    let w' := Walker.circle.withRoot "/lib"
    let s := ((Walker.circle.visitEntrypoint "" "a.js").run .fresh).2
    let s' := ((w'.visitEntrypoint "" "a.js").run .fresh).2
    SameButNames .circle w' s s' ∧ s.modules.map WorkerModule.name = ["a.js", "b.js"] ∧
      s'.modules.map WorkerModule.name = ["../a.js", "../b.js"] := by
  intro w' s s'
  have hok : ((Walker.circle.visitEntrypoint "" "a.js").run .fresh).1 = .ok () := by
    decide +kernel
  have hok' : ((w'.visitEntrypoint "" "a.js").run .fresh).1 = .ok () := by decide +kernel
  exact ⟨(visit_withRoot .circle "/lib" "" "a.js").2 s s' (eq_ok_of_fst_eq hok)
    (eq_ok_of_fst_eq hok'), by decide +kernel, by decide +kernel⟩

end Walk

end ModuleDiscovery
