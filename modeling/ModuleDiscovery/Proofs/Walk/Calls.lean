import ModuleDiscovery.Proofs.ScriptId
import ModuleDiscovery.Proofs.Walk.Depth

/-!
# Sequences of calls

A walker may be given any number of entrypoints, and some of them may fail.  This
file follows its state over such a sequence.

What is pending stands in visited paths and goes by their names (`Waiting`).  That
is what lets a property of paths pass from a module to the modules it imports: a
property that `Spreads` and that holds of the entrypoints holds of every visited
path (`Spreads.visitAll`).  The first such property is that visited paths are clean.
-/

namespace ModuleDiscovery

/-- The state after one entrypoint, whatever came of it. -/
def Walker.stateAfter (w : Walker) (s : Walk.State) (call : String × Path) : Walk.State :=
  ((w.visitEntrypoint call.1 call.2).run s).2

/-- The state after a sequence of entrypoints. -/
def Walker.visitAll (w : Walker) (calls : List (String × Path)) (s : Walk.State) : Walk.State :=
  calls.foldl w.stateAfter s

namespace Walk

variable {w : Walker} {item : Pending} {rest pending : List Pending} {source : Source}
  {call : String × Path} {calls : List (String × Path)} {p q : Path} {s s₁ s' : State}

/-! ## Growth -/

theorem visitAll_append (w : Walker) (first second : List (String × Path)) (s : State) :
    w.visitAll (first ++ second) s = w.visitAll second (w.visitAll first s) := by
  rw [Walker.visitAll, List.foldl_append]
  rfl

/-- A sequence of calls only moves forward. -/
theorem progress_visitAll (w : Walker) (calls : List (String × Path)) (s : State) :
    Progress s (w.visitAll calls s) := by
  induction calls generalizing s with
  | nil => exact Progress.refl s
  | cons call calls ih => exact (progress_visitEntrypoint w call.1 call.2 s).trans (ih _)

/-- A list that starts empty only has distinct visited paths. -/
theorem State.Adds.of_nil {field : State → List Path} (hadds : State.Adds field s s')
    (hfield : field s = []) : (field s').Nodup ∧ field s' ⊆ s'.visited := by
  obtain ⟨added, hadded, hnodup, hmem⟩ := hadds
  rw [hadded, hfield, List.nil_append]
  exact ⟨hnodup, fun p hp => (hmem p hp).2⟩

/-! ## Where pending specifiers stand -/

/-- What is pending stands in visited paths and goes by their names. -/
def Waiting (w : Walker) (pending : List Pending) (s : State) : Prop :=
  ∀ item ∈ pending, item.importer ∈ s.visited ∧ item.name = moduleName w.root item.importer

theorem Waiting.head (hwaiting : Waiting w (item :: rest) s) :
    item.importer ∈ s.visited ∧ item.name = moduleName w.root item.importer :=
  hwaiting item List.mem_cons_self

theorem Waiting.tail (hwaiting : Waiting w (item :: rest) s) (hvisited : s.visited ⊆ s'.visited) :
    Waiting w rest s' := by
  intro other hother
  obtain ⟨hmem, hname⟩ := hwaiting other (List.mem_cons_of_mem _ hother)
  exact ⟨hvisited hmem, hname⟩

/-- A source that an arrival leads to has been visited by it. -/
theorem Arrival.source_mem (harrive : Arrival w item s (.ok (some source), s')) :
    source.path ∈ s'.visited := by
  cases harrive with
  | source => simp

theorem Opening.waiting (hrest : Waiting w rest s) (hmem : source.path ∈ s.visited)
    (hopen : Opening w source s (.ok pending, s')) : Waiting w (pending ++ rest) s' := by
  have hvisited : s'.visited = s.visited := hopen.changes.1
  cases hopen with
  | parsed specifiers =>
      intro item hitem
      rcases List.mem_append.mp hitem with h | h
      · obtain ⟨specifier, -, rfl⟩ := List.mem_map.mp h
        exact ⟨hvisited ▸ hmem, rfl⟩
      · exact hvisited ▸ hrest item h

theorem waiting_nil (w : Walker) (s : State) : Waiting w [] s := by
  intro item hitem
  cases hitem

theorem Opening.waiting_alone (hmem : source.path ∈ s.visited)
    (hopen : Opening w source s (.ok pending, s')) : Waiting w pending s' := by
  have hwaiting : Waiting w (pending ++ []) s' := hopen.waiting (waiting_nil w s) hmem
  rwa [List.append_nil] at hwaiting

theorem kept_waiting (w : Walker) : Kept w (Waiting w) where
  passed hwaiting harrive := hwaiting.tail harrive.progress.subset
  opened hwaiting harrive hopen :=
    hopen.waiting (hwaiting.tail harrive.progress.subset) harrive.source_mem

/-! ## Properties that spread from importers -/

/-- A property that passes from a visited path to the targets of its specifiers, and
is not lost when more paths are visited. -/
structure Spreads (w : Walker) (P : State → Path → Prop) : Prop where
  mono : ∀ {s s' p}, s.visited ⊆ s'.visited → P s p → P s' p
  resolve : ∀ {s importer} (specifier : String), importer ∈ s.visited → P s importer →
    (ScriptId.parse? (moduleName w.root importer)).isSome = false →
      P s (Walker.resolve importer specifier)

/-- A property of all visited paths. -/
def Everywhere (P : State → Path → Prop) (s : State) : Prop :=
  ∀ p ∈ s.visited, P s p

variable {P : State → Path → Prop}

theorem Spreads.everywhere_congr (hP : Spreads w P) (hs : Everywhere P s)
    (hvisited : s'.visited = s.visited) : Everywhere P s' := by
  intro p hp
  refine hP.mono (hvisited ▸ List.Subset.refl _) (hs p ?_)
  rw [← hvisited]
  exact hp

theorem Spreads.everywhere_append (hP : Spreads w P) (hs : Everywhere P s) (hp : P s p)
    (hvisited : s'.visited = s.visited ++ [p]) : Everywhere P s' := by
  have hsubset : s.visited ⊆ s'.visited := by simp [hvisited]
  intro q hq
  rw [hvisited, List.mem_append, List.mem_singleton] at hq
  rcases hq with hq | rfl
  · exact hP.mono hsubset (hs q hq)
  · exact hP.mono hsubset hp

theorem Spreads.target (hP : Spreads w P) (hwaiting : Waiting w (item :: rest) s)
    (hs : Everywhere P s) {specifier : String} (hleads : Leads w item specifier p) : P s p := by
  obtain ⟨hmem, hname⟩ := hwaiting.head
  have hscript := hleads.not_script
  rw [hname] at hscript
  rw [hleads.path_eq]
  exact hP.resolve specifier hmem (hs _ hmem) hscript

theorem Spreads.arrive (hP : Spreads w P) (hwaiting : Waiting w (item :: rest) s)
    (hs : Everywhere P s) {outcome : Except Stop (Option Source)}
    (harrive : Arrival w item s (outcome, s')) : Everywhere P s' := by
  cases harrive with
  | dynamic | script => exact hs
  | provided | visited => exact hP.everywhere_congr hs rfl
  | unmatched _ _ hleads | unreadable _ _ _ _ hleads =>
      exact hP.everywhere_append hs (hP.target hwaiting hs hleads) rfl
  | asset _ _ _ _ hleads | source _ _ _ _ _ hleads =>
      exact hP.everywhere_append hs (hP.target hwaiting hs hleads) rfl

theorem Spreads.opening (hP : Spreads w P) (hs : Everywhere P s)
    {outcome : Except Stop (List Pending)} (hopen : Opening w source s (outcome, s')) :
    Everywhere P s' :=
  hP.everywhere_congr hs hopen.changes.1

theorem Spreads.kept (hP : Spreads w P) :
    Kept w fun pending s => Waiting w pending s ∧ Everywhere P s where
  passed hI harrive := ⟨(kept_waiting w).passed hI.1 harrive, hP.arrive hI.1 hI.2 harrive⟩
  opened hI harrive hopen :=
    ⟨(kept_waiting w).opened hI.1 harrive hopen, hP.opening (hP.arrive hI.1 hI.2 harrive) hopen⟩

theorem Spreads.ends (hP : Spreads w P) {r : Except Stop Unit}
    (hends : Ends w (fun pending s => Waiting w pending s ∧ Everywhere P s) r s') :
    Everywhere P s' := by
  cases hends with
  | done hI => exact hI.2
  | halted hI harrive | cut hI harrive => exact hP.arrive hI.1 hI.2 harrive
  | unparsable hI harrive hopen => exact hP.opening (hP.arrive hI.1 hI.2 harrive) hopen

/-- The run behind a new entrypoint starts with a property that spreads. -/
theorem Spreads.opened (hP : Spreads w P) (hs : Everywhere P s) (hsource : P s source.path)
    (hopen : Opening w source (s.visit source.path) (.ok pending, s₁)) {r : Except Stop Unit}
    (hdrains : Drains w pending s₁ r s') :
    Ends w (fun pending s => Waiting w pending s ∧ Everywhere P s) r s' := by
  have hvisited : Everywhere P (s.visit source.path) := hP.everywhere_append hs hsource rfl
  exact hdrains.ends hP.kept ⟨hopen.waiting_alone (by simp), hP.opening hvisited hopen⟩

/-- A property that spreads holds of what one call visits, if it holds of the
entrypoint. -/
theorem Spreads.stateAfter (hP : Spreads w P) (hs : Everywhere P s)
    (hcall : ∀ p, w.absolutize call.2 = .ok p → P s p) : Everywhere P (w.stateAfter s call) := by
  have hentry := entry w call.1 call.2 s
  unfold Walker.stateAfter
  generalize (w.visitEntrypoint call.1 call.2).run s = outcome at hentry ⊢
  cases hentry with
  | unresolved => exact hs
  | visited => exact hP.everywhere_congr hs rfl
  | @unparsable target _ _ habs hnew hopen =>
      exact hP.opening (hP.everywhere_append hs (hcall target habs) rfl) (opening_of_run hopen)
  | @opened target _ _ _ _ habs hnew hopen hdrains =>
      exact hP.ends (hP.opened hs (hcall target habs) (opening_of_run hopen) hdrains)

/-- A property that spreads holds of all that a sequence of calls visits, if it holds
of the entrypoints. -/
theorem Spreads.visitAll (hP : Spreads w P) (hs : Everywhere P s)
    (hcalls : ∀ call ∈ calls, ∀ s p, w.absolutize call.2 = .ok p → P s p) :
    Everywhere P (w.visitAll calls s) := by
  induction calls generalizing s with
  | nil => exact hs
  | cons call calls ih =>
      rw [List.forall_mem_cons] at hcalls
      exact ih (hP.stateAfter hs (hcalls.1 s)) hcalls.2

theorem everywhere_fresh (P : State → Path → Prop) : Everywhere P .fresh := by
  intro p hp
  cases hp

/-! ## Visited paths are clean -/

/-- All paths that were visited are clean. -/
def State.Clean (s : State) : Prop :=
  ∀ p ∈ s.visited, p.clean = p

theorem clean_absolutize (habs : w.absolutize p = .ok q) : q.clean = q := by
  unfold Walker.absolutize at habs
  split at habs
  · rename_i hscript
    obtain rfl := Except.ok.inj habs
    exact Path.clean_of_isScriptId hscript
  · split at habs
    · obtain rfl := Except.ok.inj habs
      exact Path.clean_clean p
    · cases hcwd : w.runtime.cwd with
      | error cause => simp [hcwd] at habs
      | ok dir =>
          rw [hcwd] at habs
          obtain rfl := Except.ok.inj habs
          exact Path.clean_clean _

theorem spreads_clean (w : Walker) : Spreads w fun _ p => p.clean = p where
  mono _ hp := hp
  resolve {_ importer} specifier _ _ _ := clean_resolve importer specifier

theorem State.Clean.visitAll (hclean : s.Clean) (calls : List (String × Path)) :
    (w.visitAll calls s).Clean :=
  (spreads_clean w).visitAll hclean fun _ _ _ _ habs => clean_absolutize habs

/-- Distinct clean paths have distinct segments. -/
theorem nodup_segments {paths : List Path} (hnodup : paths.Nodup) (hmem : paths ⊆ s.visited)
    (hclean : s.Clean) : (paths.map Path.segments).Nodup := by
  refine hnodup.map_on fun p hp q hq hsegments => ?_
  exact Path.eq_of_same (hclean p (hmem hp)) (hclean q (hmem hq)) hsegments

theorem clean_fresh : State.fresh.Clean := by
  intro p hp
  cases hp

end Walk

end ModuleDiscovery
