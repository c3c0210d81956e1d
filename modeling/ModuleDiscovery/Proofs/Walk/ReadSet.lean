import ModuleDiscovery.Proofs.Walk.Nesting

/-!
# A walk depends on the files it reads

Two runtimes with the same working directory may differ in any file that a walk does not
read: the walk comes to the same end in both, by the same steps.  So what was found once
can be kept for as long as the files that were read stay as they are.

## Strategy

Which file is asked for next only depends on the answers so far.  As long as these agree,
both walks are in the same state, and the first file on which the runtimes disagree is one
that neither walk asks for.

* **One specifier.**  An arrival asks for one file at most and leaves that in the trace
  (`Arrival.withRuntime`).
* **The recursion.**  The reads of a run are those of its parts, in their order, so
  runtimes that agree on the whole agree on each part (`followAll_withRuntime`,
  `run_visitModule_withRuntime`).
* **The bound.**  The two walks may bound their depth differently, since the runtimes list
  their files differently.  A bound that does not cut off changes nothing
  (`run_visitWithin_of_le`).

## Main results

* `visit_withRuntime`: a walk is the same in a runtime that agrees on its reads.
-/

namespace ModuleDiscovery

open Walk

/-- The walker in other surroundings. -/
def Walker.withRuntime (w : Walker) (runtime : Runtime) : Walker :=
  { w with runtime := runtime }

/-- Two runtimes give the same answer for each of some paths. -/
def Runtime.AgreeOn (first second : Runtime) (paths : List Path) : Prop :=
  ∀ p ∈ paths, second.readFile p = first.readFile p

theorem Runtime.AgreeOn.mono {first second : Runtime} {paths fewer : List Path}
    (hagree : first.AgreeOn second paths) (hsubset : fewer ⊆ paths) :
    first.AgreeOn second fewer :=
  fun p hp => hagree p (hsubset hp)

namespace Walk

variable {w : Walker} {runtime : Runtime} {item : Pending} {pending : List Pending}
  {source : Source} {specifier : String} {path : Path} {code : String} {s s' : State} {bound : ℕ}

/-! ## The reads of a part are reads of the whole -/

theorem Visits.reads_isPrefix {outcome : Except Stop Unit × State}
    (hvisits : Visits w source s outcome) : s.reads <+: outcome.2.reads := by
  cases hvisits with
  | cut => exact List.prefix_rfl
  | unparsable hopen => exact (opening_of_run hopen).changes.2.1 ▸ List.prefix_rfl
  | opened hopen hdrains =>
      rw [← (opening_of_run hopen).changes.2.1]
      exact hdrains.progress.reads.isPrefix

theorem reads_subset_visitModule (w : Walker) (bound : ℕ) (source : Source) (s : State) :
    s.reads ⊆ ((w.visitModule bound source.text source.path source.mode).run s).2.reads :=
  (visits w bound source s).reads_isPrefix.subset

theorem reads_subset_followAll (w : Walker) (bound : ℕ) (pending : List Pending) (s : State) :
    s.reads ⊆ (followAll w bound pending s).2.reads :=
  (drains_followAll (visits w bound) pending s).progress.reads.isPrefix.subset

/-! ## One specifier -/

theorem Leads.withRuntime (hleads : Leads w item specifier path) :
    Leads (w.withRuntime runtime) item specifier path :=
  ⟨hleads.literal, hleads.not_provided, hleads.not_script, hleads.path_eq⟩

theorem Served.withRuntime {rule : CompiledRule} {bytes : Bytes}
    (hserved : Served w s path rule bytes)
    (hread : runtime.readFile path = w.runtime.readFile path) :
    Served (w.withRuntime runtime) s path rule bytes :=
  ⟨hserved.is_new, hserved.rule_eq, hread.trans hserved.read_eq⟩

/-- The one file that an arrival may ask for is among its reads. -/
theorem Arrival.withRuntime {outcome : Except Stop (Option Source)}
    (harrive : Arrival w item s (outcome, s')) (hagree : w.runtime.AgreeOn runtime s'.reads) :
    Arrival (w.withRuntime runtime) item s (outcome, s') := by
  cases harrive with
  | dynamic position hitem => exact Arrival.dynamic position hitem
  | provided specifier position hitem hprovided =>
      exact Arrival.provided specifier position hitem hprovided
  | script specifier position hitem hprovided hscript =>
      exact Arrival.script specifier position hitem hprovided hscript
  | visited specifier path hleads hvisited =>
      exact Arrival.visited specifier path hleads.withRuntime hvisited
  | unmatched specifier path hleads hnew hrule =>
      exact Arrival.unmatched specifier path hleads.withRuntime hnew hrule
  | unreadable specifier path rule cause hleads hnew hrule hread =>
      have hsame := hagree path (by simp [List.filterMap_cons])
      exact Arrival.unreadable specifier path rule cause hleads.withRuntime hnew hrule
        (hsame.trans hread)
  | asset specifier path rule bytes hleads hserved hkind =>
      have hsame := hagree path (by simp [List.filterMap_cons])
      exact Arrival.asset specifier path rule bytes hleads.withRuntime
        (hserved.withRuntime hsame) hkind
  | source specifier path rule bytes mode hleads hserved hkind =>
      have hsame := hagree path (by simp [List.filterMap_cons])
      exact Arrival.source specifier path rule bytes mode hleads.withRuntime
        (hserved.withRuntime hsame) hkind

theorem run_arrive_withRuntime {outcome : Except Stop (Option Source)}
    (harrive : (w.arrive item).run s = (outcome, s'))
    (hagree : w.runtime.AgreeOn runtime s'.reads) :
    ((w.withRuntime runtime).arrive item).run s = (outcome, s') :=
  ((arrival_of_run harrive).withRuntime hagree).run_eq

/-! ## The recursion -/

theorem followAll_withRuntime
    (hvisit : ∀ (source : Source) (s : State),
      w.runtime.AgreeOn runtime
        ((w.visitModule bound source.text source.path source.mode).run s).2.reads →
          ((w.withRuntime runtime).visitModule bound source.text source.path source.mode).run s =
            (w.visitModule bound source.text source.path source.mode).run s)
    (hagree : w.runtime.AgreeOn runtime (followAll w bound pending s).2.reads) :
    followAll (w.withRuntime runtime) bound pending s = followAll w bound pending s := by
  induction pending generalizing s with
  | nil => rfl
  | cons item rest ih =>
      cases harrive : (w.arrive item).run s with
      | mk outcome s₁ =>
          rcases outcome with stop | _ | source
          · rw [followAll_cons_error harrive] at hagree ⊢
            exact followAll_cons_error (run_arrive_withRuntime harrive hagree)
          · rw [followAll_cons_none harrive] at hagree ⊢
            have hbefore := hagree.mono (reads_subset_followAll w bound rest s₁)
            rw [followAll_cons_none (run_arrive_withRuntime harrive hbefore)]
            exact ih hagree
          · rw [followAll_cons_source harrive] at hagree ⊢
            have hinside := hvisit source s₁
            have hreads := reads_subset_visitModule w bound source s₁
            generalize (w.visitModule bound source.text source.path source.mode).run s₁ =
              result at hagree hinside hreads ⊢
            -- the reads of the module are among those of the whole
            have hresult : w.runtime.AgreeOn runtime result.2.reads := by
              rcases result with ⟨stop | _, s₂⟩
              exacts [hagree, hagree.mono (reads_subset_followAll w bound rest s₂)]
            rw [followAll_cons_source (run_arrive_withRuntime harrive (hresult.mono hreads)),
              hinside hresult]
            rcases result with ⟨stop | _, s₂⟩
            exacts [rfl, ih hagree]

theorem run_visitModule_withRuntime (bound : ℕ) (source : Source) (s : State)
    (hagree : w.runtime.AgreeOn runtime
      ((w.visitModule bound source.text source.path source.mode).run s).2.reads) :
    ((w.withRuntime runtime).visitModule bound source.text source.path source.mode).run s =
      (w.visitModule bound source.text source.path source.mode).run s := by
  induction bound generalizing source s with
  | zero => rfl
  | succ bound ih =>
      have hopen : (w.withRuntime runtime).openSource source = w.openSource source := rfl
      rw [run_visitModule_succ] at hagree ⊢
      rw [run_visitModule_succ, hopen]
      generalize (w.openSource source).run s = outcome at hagree ⊢
      rcases outcome with ⟨stop | pending, s₁⟩
      · rfl
      · exact followAll_withRuntime ih hagree

/-! ## Walking from an entrypoint -/

theorem absolutize_withRuntime (hcwd : runtime.cwd = w.runtime.cwd) (path : Path) :
    (w.withRuntime runtime).absolutize path = w.absolutize path := by
  unfold Walker.absolutize
  rw [Walker.withRuntime, hcwd]

theorem run_visitWithin_withRuntime (hcwd : runtime.cwd = w.runtime.cwd)
    (hagree : w.runtime.AgreeOn runtime ((w.visitWithin bound code path).run s).2.reads) :
    ((w.withRuntime runtime).visitWithin bound code path).run s =
      (w.visitWithin bound code path).run s := by
  have habs' := absolutize_withRuntime (w := w) hcwd path
  cases habs : w.absolutize path with
  | error e =>
      rw [run_visitWithin_of_error bound code habs,
        run_visitWithin_of_error bound code (habs'.trans habs)]
  | ok target =>
      by_cases hvisited : target ∈ s.visited
      · rw [run_visitWithin_of_mem bound code habs hvisited,
          run_visitWithin_of_mem bound code (habs'.trans habs) hvisited]
      · rw [run_visitWithin_of_new bound code habs hvisited] at hagree ⊢
        rw [run_visitWithin_of_new bound code (habs'.trans habs) hvisited]
        exact run_visitModule_withRuntime bound ⟨code, target, .module⟩ _ hagree

/-- In a runtime with the same working directory that agrees on the files which a walk
reads, the walk has the same result or error, and leaves the same state: the visited
paths, the modules in their order, and the trace with its reads.  Nothing is assumed of
the runtimes for walks within a bound, and a walk within a bound that is not cut off is
the whole walk.  Where both runtimes list their files, the walks are whole. -/
theorem visit_withRuntime (w : Walker) (runtime : Runtime) (code : String) (path : Path)
    (hcwd : runtime.cwd = w.runtime.cwd) :
    let w' := w.withRuntime runtime
    (∀ bound,
      let outcome := (w.visitWithin bound code path).run .fresh
      w.runtime.AgreeOn runtime outcome.2.reads →
        (w'.visitWithin bound code path).run .fresh = outcome ∧
          (outcome.1 ≠ .error .tooDeep → ∀ bound' ≥ bound,
            (w'.visitWithin bound' code path).run .fresh = outcome)) ∧
    (w.runtime.FinitelyServed → runtime.FinitelyServed →
      let outcome := (w.visitEntrypoint code path).run .fresh
      w.runtime.AgreeOn runtime outcome.2.reads →
        (w'.visitEntrypoint code path).run .fresh = outcome) := by
  intro w'
  have hwithin : ∀ bound,
      w.runtime.AgreeOn runtime ((w.visitWithin bound code path).run .fresh).2.reads →
        (w'.visitWithin bound code path).run .fresh = (w.visitWithin bound code path).run .fresh :=
    fun bound => run_visitWithin_withRuntime hcwd
  constructor
  · intro bound outcome hagree
    have hrun := hwithin bound hagree
    refine ⟨hrun, fun hcut bound' hle => ?_⟩
    exact (run_visitWithin_of_le (by rwa [hrun]) hle).trans hrun
  · intro hfinite hfinite' outcome hagree
    have hrun := hwithin w.depthBound hagree
    have hcut : ((w'.visitWithin w.depthBound code path).run .fresh).1 ≠ .error .tooDeep := by
      rw [hrun]
      exact visitEntrypoint_ne_tooDeep hfinite code path .fresh
    have hcut' := visitEntrypoint_ne_tooDeep (w := w') hfinite' code path .fresh
    -- of two bounds that do not cut off, the larger one changes nothing
    rcases le_total w.depthBound w'.depthBound with hle | hle
    · exact (run_visitWithin_of_le hcut hle).trans hrun
    · exact (run_visitWithin_of_le hcut' hle).symm.trans hrun

/-- The entrypoint is not read, so its file may be gone, and a file that no module imports
may come. -/
theorem visit_withRuntime_circle :
    let runtime := Runtime.ofFiles (.ok "/") [("/b.js", .ok []), ("/c.js", .ok [1])]
    ((Walker.circle.withRuntime runtime).visitEntrypoint "" "a.js").run .fresh =
      (Walker.circle.visitEntrypoint "" "a.js").run .fresh := by
  intro runtime
  have hreads : ((Walker.circle.visitEntrypoint "" "a.js").run .fresh).2.reads =
      [("/b.js" : Path)] := by
    decide +kernel
  have hcwd : runtime.cwd = Walker.circle.runtime.cwd := by decide +kernel
  refine (visit_withRuntime .circle runtime "" "a.js" hcwd).2 Walker.finitelyServed_circle
    (Runtime.finitelyServed_ofFiles _ _) ?_
  intro p hp
  rw [hreads, List.mem_singleton] at hp
  subst hp
  decide +kernel

end Walk

end ModuleDiscovery
