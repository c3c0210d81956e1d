import Mathlib.Data.List.Nodup
import ModuleDiscovery.Proofs.Walk.Unroll

/-!
# A walk only moves forward

Between two states of a walk the visited paths, the reads and the parses each grow
by paths that are distinct and were not visited before (`State.Adds`), and the
record grows at its end.  `Progress` collects this.  It is transitive, because a
path that is added is visited from then on and can be added no more.

Everything that a walk does is progress: the arrival at a target, together with the
opening of a source there, and so the whole run (`Drains.progress`,
`progress_visitEntrypoint`).
-/

namespace ModuleDiscovery.Walk

/-- A list kept in the state grows by distinct paths that were not visited before. -/
def State.Adds (field : State → List Path) (s s' : State) : Prop :=
  ∃ added, field s' = field s ++ added ∧ added.Nodup ∧
    ∀ p ∈ added, p ∉ s.visited ∧ p ∈ s'.visited

/-- The ways in which a walk moves forward. -/
structure Progress (s s' : State) : Prop where
  visited : State.Adds State.visited s s'
  reads : State.Adds State.reads s s'
  parses : State.Adds State.parses s s'
  modules : s.modules <+: s'.modules

variable {w : Walker} {item : Pending} {pending : List Pending} {source : Source}
  {s s₁ s₂ s' : State} {r : Except Stop Unit}

/-! ## Progress adds up -/

theorem State.Adds.of_eq {field : State → List Path} (hfield : field s' = field s) :
    State.Adds field s s' :=
  ⟨[], by simp [hfield], List.nodup_nil, by simp⟩

theorem State.Adds.single {field : State → List Path} {p : Path}
    (hfield : field s' = field s ++ [p]) (hnew : p ∉ s.visited) (hvisited : p ∈ s'.visited) :
    State.Adds field s s' :=
  ⟨[p], hfield, List.nodup_singleton p, by simpa using ⟨hnew, hvisited⟩⟩

theorem State.Adds.isPrefix {field : State → List Path} (hadds : State.Adds field s s') :
    field s <+: field s' := by
  obtain ⟨added, hadded, -, -⟩ := hadds
  exact ⟨added, hadded.symm⟩

theorem Progress.subset (hprogress : Progress s s') : s.visited ⊆ s'.visited :=
  hprogress.visited.isPrefix.subset

/-- A path that is visited is not added again. -/
theorem State.Adds.not_mem {field : State → List Path} (hadds : State.Adds field s s') {p : Path}
    (hvisited : p ∈ s.visited) (hfield : p ∉ field s) : p ∉ field s' := by
  obtain ⟨added, hadded, -, hnew⟩ := hadds
  rw [hadded, List.mem_append, not_or]
  exact ⟨hfield, fun hp => (hnew p hp).1 hvisited⟩

theorem State.Adds.trans {field : State → List Path} (hfirst : State.Adds field s s₁)
    (hsecond : State.Adds field s₁ s₂) (hbefore : s.visited ⊆ s₁.visited)
    (hafter : s₁.visited ⊆ s₂.visited) : State.Adds field s s₂ := by
  obtain ⟨added, hadded, hnodup, hnew⟩ := hfirst
  obtain ⟨more, hmore, hnodup', hnew'⟩ := hsecond
  refine ⟨added ++ more, by rw [hmore, hadded, List.append_assoc], ?_, ?_⟩
  · -- what was added first is visited by now, so it is not among the rest
    refine hnodup.append hnodup' fun p hp hp' => ?_
    exact (hnew' p hp').1 (hnew p hp).2
  · intro p hp
    rcases List.mem_append.mp hp with hp | hp
    · exact ⟨(hnew p hp).1, hafter (hnew p hp).2⟩
    · exact ⟨fun hvisited => (hnew' p hp).1 (hbefore hvisited), (hnew' p hp).2⟩

theorem Progress.refl (s : State) : Progress s s :=
  ⟨.of_eq rfl, .of_eq rfl, .of_eq rfl, List.prefix_rfl⟩

theorem Progress.trans (hfirst : Progress s s₁) (hsecond : Progress s₁ s₂) : Progress s s₂ where
  visited := hfirst.visited.trans hsecond.visited hfirst.subset hsecond.subset
  reads := hfirst.reads.trans hsecond.reads hfirst.subset hsecond.subset
  parses := hfirst.parses.trans hsecond.parses hfirst.subset hsecond.subset
  modules := hfirst.modules.trans hsecond.modules

/-! ## Progress of one step -/

/-- A step that visits no path makes progress when it neither reads nor parses. -/
theorem Progress.of_quiet (hvisited : s'.visited = s.visited) (hreads : s'.reads = s.reads)
    (hparses : s'.parses = s.parses) (hmodules : s.modules <+: s'.modules) : Progress s s' :=
  ⟨.of_eq hvisited, .of_eq hreads, .of_eq hparses, hmodules⟩

/-- A step that visits a new path may read that path and parse its source. -/
theorem Progress.of_visit {p : Path} (hnew : p ∉ s.visited)
    (hvisited : s'.visited = s.visited ++ [p])
    (hreads : s'.reads = s.reads ∨ s'.reads = s.reads ++ [p])
    (hparses : s'.parses = s.parses ∨ s'.parses = s.parses ++ [p])
    (hmodules : s.modules <+: s'.modules) : Progress s s' := by
  have hmem : p ∈ s'.visited := by simp [hvisited]
  refine ⟨.single hvisited hnew hmem, ?_, ?_, hmodules⟩
  · rcases hreads with h | h
    exacts [.of_eq h, .single h hnew hmem]
  · rcases hparses with h | h
    exacts [.of_eq h, .single h hnew hmem]

theorem Arrival.progress {outcome : Except Stop (Option Source)}
    (harrive : Arrival w item s (outcome, s')) : Progress s s' := by
  cases harrive with
  | dynamic | script => exact Progress.refl _
  | provided | visited =>
      exact Progress.of_quiet (by simp) (by simp) (by simp) (by simp)
  | unmatched specifier path hleads hnew =>
      exact Progress.of_visit hnew (by simp) (by simp) (by simp) (by simp)
  | unreadable specifier path rule cause hleads hnew =>
      exact Progress.of_visit hnew (by simp) (by simp [List.filterMap_cons]) (by simp)
        (by simp)
  | asset specifier path rule bytes hleads hserved
  | source specifier path rule bytes mode hleads hserved =>
      exact Progress.of_visit hserved.is_new (by simp) (by simp [List.filterMap_cons]) (by simp)
        (by simp)

theorem Opening.changes {outcome : Except Stop (List Pending)}
    (hopen : Opening w source s (outcome, s')) :
    s'.visited = s.visited ∧ s'.reads = s.reads ∧ s'.parses = s.parses ++ [source.path] ∧
      s.modules <+: s'.modules := by
  cases hopen <;> simp

theorem Opening.modules_of_error {stop : Stop} (hopen : Opening w source s (.error stop, s')) :
    s'.modules = s.modules := by
  cases hopen with
  | unparsable => rfl

/-- The source that an arrival leads to was visited by it, and not parsed yet. -/
theorem Arrival.progress_opening {outcome : Except Stop (List Pending)}
    (harrive : Arrival w item s (.ok (some source), s₁))
    (hopen : Opening w source s₁ (outcome, s')) : Progress s s' := by
  obtain ⟨hvisited, hreads, hparses, hmodules⟩ := hopen.changes
  cases harrive with
  | source specifier path rule bytes mode hleads hserved =>
      exact Progress.of_visit hserved.is_new (by simp [hvisited])
        (by simp [hreads, List.filterMap_cons]) (by simp [hparses])
        (by simpa using hmodules)

theorem Opening.progress_visit {outcome : Except Stop (List Pending)}
    (hnew : source.path ∉ s.visited)
    (hopen : Opening w source (s.visit source.path) (outcome, s')) : Progress s s' := by
  obtain ⟨hvisited, hreads, hparses, hmodules⟩ := hopen.changes
  exact Progress.of_visit hnew (by simp [hvisited]) (by simp [hreads]) (by simp [hparses])
    (by simpa using hmodules)

/-! ## Progress of a run -/

theorem kept_progress (w : Walker) (s₀ : State) : Kept w fun _ s => Progress s₀ s where
  passed hprogress harrive := hprogress.trans harrive.progress
  opened hprogress harrive hopen := hprogress.trans (harrive.progress_opening hopen)

theorem Drains.progress (hdrains : Drains w pending s r s') : Progress s s' := by
  cases hdrains.ends (kept_progress w s) (Progress.refl s) with
  | done hprogress => exact hprogress
  | halted hprogress harrive | cut hprogress harrive => exact hprogress.trans harrive.progress
  | unparsable hprogress harrive hopen => exact hprogress.trans (harrive.progress_opening hopen)

/-- Opening a source and draining what is pending in it, bounded or not. -/
theorem Visits.isPrefix {outcome : Except Stop Unit × State} (hvisits : Visits w source s outcome) :
    s.visited <+: outcome.2.visited := by
  cases hvisits with
  | cut => exact List.prefix_rfl
  | unparsable hopen => exact (opening_of_run hopen).changes.1 ▸ List.prefix_rfl
  | opened hopen hdrains =>
      rw [← (opening_of_run hopen).changes.1]
      exact hdrains.progress.visited.isPrefix

/-- Walking from an entrypoint is progress, whatever comes of it. -/
theorem Entry.progress {code : String} {path : Path} {outcome : Except Stop Unit × State}
    (hentry : Entry w code path s outcome) : Progress s outcome.2 := by
  cases hentry with
  | unresolved => exact Progress.refl s
  | visited =>
      exact Progress.of_quiet (by simp) (by simp) (by simp) (by simp)
  | unparsable habs hnew hopen => exact (opening_of_run hopen).progress_visit hnew
  | opened habs hnew hopen hdrains =>
      exact ((opening_of_run hopen).progress_visit hnew).trans hdrains.progress

theorem progress_visitEntrypoint (w : Walker) (code : String) (path : Path) (s : State) :
    Progress s ((w.visitEntrypoint code path).run s).2 :=
  (entry w code path s).progress

end ModuleDiscovery.Walk
