import ModuleDiscovery.Proofs.Walk.Calls

/-!
# Every walk ends

A module is walked inside the one that imports it first, so a walk is a tree of
modules.  `Nests` is the recursion over that tree without a bound, together with the
number of modules that lie inside one another.  Its derivations are finite: a walk
that has one comes to an end.

## Strategy

* **Every walk is a tree.**  A recursion with a bound is a tree or is cut off
  (`exists_nestsIn`), and the bound that a walk gives itself never cuts it off
  (`visitEntrypoint_ne_tooDeep`).
* **Trees are shallow.**  A module inside another one was read, so it uses up one of
  the listed files that were still unvisited, and what follows it brings none back
  (`Nests.depth_le`).
* **The depth is exact.**  A recursion does what the tree says when its bound is at
  least the depth, and is cut off when it is less (`Nests.followAll_eq`,
  `Nests.followAll_cut`).

## Main results

* `visitEntrypoint_nests`: from any state a walk ends, and at most one module more
  than there are unvisited files lie inside one another.
-/

namespace ModuleDiscovery.Walk

/-! ## Walks as trees -/

/-- Specifiers followed to their ends, with the number of modules that lie inside one
another meanwhile. -/
inductive Nests (w : Walker) : ℕ → List Pending → State → Except Stop Unit → State → Prop
  | done (s : State) : Nests w 0 [] s (.ok ()) s
  | halted {item : Pending} {rest : List Pending} {s s' : State} {stop : Stop}
      (harrive : (w.arrive item).run s = (.error stop, s')) :
      Nests w 0 (item :: rest) s (.error stop) s'
  | passed {n : ℕ} {item : Pending} {rest : List Pending} {s s₁ s' : State}
      {r : Except Stop Unit} (harrive : (w.arrive item).run s = (.ok none, s₁))
      (hrest : Nests w n rest s₁ r s') : Nests w n (item :: rest) s r s'
  | unparsable {item : Pending} {rest : List Pending} {source : Source} {s s₁ s' : State}
      {stop : Stop} (harrive : (w.arrive item).run s = (.ok (some source), s₁))
      (hopen : (w.openSource source).run s₁ = (.error stop, s')) :
      Nests w 1 (item :: rest) s (.error stop) s'
  /-- Something inside the target goes wrong. -/
  | failed {n : ℕ} {item : Pending} {rest pending : List Pending} {source : Source}
      {s s₁ s₂ s' : State} {stop : Stop}
      (harrive : (w.arrive item).run s = (.ok (some source), s₁))
      (hopen : (w.openSource source).run s₁ = (.ok pending, s₂))
      (hinside : Nests w n pending s₂ (.error stop) s') :
      Nests w (n + 1) (item :: rest) s (.error stop) s'
  | opened {n m : ℕ} {item : Pending} {rest pending : List Pending} {source : Source}
      {s s₁ s₂ s₃ s' : State} {r : Except Stop Unit}
      (harrive : (w.arrive item).run s = (.ok (some source), s₁))
      (hopen : (w.openSource source).run s₁ = (.ok pending, s₂))
      (hinside : Nests w n pending s₂ (.ok ()) s₃) (hrest : Nests w m rest s₃ r s') :
      Nests w (max (n + 1) m) (item :: rest) s r s'

/-- A source with all that lies inside it. -/
inductive NestsIn (w : Walker) (source : Source) (s : State) :
    ℕ → Except Stop Unit → State → Prop
  | unparsable {s' : State} {stop : Stop}
      (hopen : (w.openSource source).run s = (.error stop, s')) :
      NestsIn w source s 1 (.error stop) s'
  | opened {n : ℕ} {pending : List Pending} {s₁ s' : State} {r : Except Stop Unit}
      (hopen : (w.openSource source).run s = (.ok pending, s₁))
      (hinside : Nests w n pending s₁ r s') : NestsIn w source s (n + 1) r s'

/-- A walk from an entrypoint, which need not come to a module at all. -/
inductive NestsFrom (w : Walker) (code : String) (path : Path) (s : State) :
    ℕ → Except Stop Unit × State → Prop
  | unresolved {e : ModuleError} (habs : w.absolutize path = .error e) :
      NestsFrom w code path s 0 (.error (.failed e), s)
  | visited {target : Path} (habs : w.absolutize path = .ok target)
      (hvisited : target ∈ s.visited) :
      NestsFrom w code path s 0 (.ok (), s.note [.entrypointAlreadyVisited target])
  | entered {target : Path} {n : ℕ} {r : Except Stop Unit} {s' : State}
      (habs : w.absolutize path = .ok target) (hnew : target ∉ s.visited)
      (hinside : NestsIn w ⟨code, target, .module⟩ (s.visit target) n r s') :
      NestsFrom w code path s n (r, s')

variable {w : Walker} {item : Pending} {rest pending : List Pending} {source : Source}
  {s s₁ s₂ s' : State} {r : Except Stop Unit} {stop : Stop} {n m bound : ℕ}

theorem Nests.of_failed (rest : List Pending)
    (harrive : (w.arrive item).run s = (.ok (some source), s₁))
    (hinside : NestsIn w source s₁ n (.error stop) s') :
    Nests w n (item :: rest) s (.error stop) s' := by
  cases hinside with
  | unparsable hopen => exact Nests.unparsable harrive hopen
  | opened hopen hinside => exact Nests.failed harrive hopen hinside

theorem Nests.of_opened (harrive : (w.arrive item).run s = (.ok (some source), s₁))
    (hinside : NestsIn w source s₁ n (.ok ()) s₂) (hrest : Nests w m rest s₂ r s') :
    Nests w (max n m) (item :: rest) s r s' := by
  cases hinside with
  | opened hopen hinside => exact Nests.opened harrive hopen hinside hrest

/-! ## The recursion finds a tree -/

theorem followAll_cons_none (harrive : (w.arrive item).run s = (.ok none, s₁)) :
    followAll w bound (item :: rest) s = followAll w bound rest s₁ := by
  rw [followAll, run_follow, harrive]

theorem followAll_cons_error (harrive : (w.arrive item).run s = (.error stop, s₁)) :
    followAll w bound (item :: rest) s = (.error stop, s₁) := by
  rw [followAll, run_follow, harrive]

theorem followAll_cons_source (harrive : (w.arrive item).run s = (.ok (some source), s₁)) :
    followAll w bound (item :: rest) s =
      match (w.visitModule bound source.text source.path source.mode).run s₁ with
      | (.ok (), s₂) => followAll w bound rest s₂
      | (.error stop, s₂) => (.error stop, s₂) := by
  show (match (w.follow (w.visitModule bound) item.importer item.name item.specifier).run s with
      | (.ok (), s₂) => followAll w bound rest s₂
      | (.error stop, s₂) => (.error stop, s₂)) = _
  rw [run_follow, harrive]

theorem exists_nests_followAll
    (hvisit : ∀ (source : Source) (s : State),
      ((w.visitModule bound source.text source.path source.mode).run s).1 ≠ .error .tooDeep →
        ∃ n, NestsIn w source s n
          ((w.visitModule bound source.text source.path source.mode).run s).1
          ((w.visitModule bound source.text source.path source.mode).run s).2)
    (hcut : (followAll w bound pending s).1 ≠ .error .tooDeep) :
    ∃ n, Nests w n pending s (followAll w bound pending s).1 (followAll w bound pending s).2 := by
  induction pending generalizing s with
  | nil => exact ⟨0, Nests.done s⟩
  | cons item rest ih =>
      cases harrive : (w.arrive item).run s with
      | mk outcome s₁ =>
          cases outcome with
          | error stop =>
              rw [followAll_cons_error harrive]
              exact ⟨0, Nests.halted harrive⟩
          | ok arrived =>
              cases arrived with
              | none =>
                  rw [followAll_cons_none harrive] at hcut ⊢
                  obtain ⟨n, hrest⟩ := ih hcut
                  exact ⟨n, Nests.passed harrive hrest⟩
              | some source =>
                  have hinside := hvisit source s₁
                  rw [followAll_cons_source harrive] at hcut ⊢
                  generalize (w.visitModule bound source.text source.path source.mode).run s₁ =
                    result at hinside hcut ⊢
                  rcases result with ⟨stop | _, s₂⟩
                  · obtain ⟨n, hinside⟩ := hinside hcut
                    exact ⟨n, Nests.of_failed rest harrive hinside⟩
                  · obtain ⟨n, hinside⟩ := hinside (by simp)
                    obtain ⟨m, hrest⟩ := ih hcut
                    exact ⟨max n m, Nests.of_opened harrive hinside hrest⟩

/-- A recursion that is not cut off is a tree. -/
theorem exists_nestsIn (bound : ℕ) (source : Source) (s : State)
    (hcut : ((w.visitModule bound source.text source.path source.mode).run s).1 ≠
      .error .tooDeep) :
    ∃ n, NestsIn w source s n
      ((w.visitModule bound source.text source.path source.mode).run s).1
      ((w.visitModule bound source.text source.path source.mode).run s).2 := by
  induction bound generalizing source s with
  | zero => exact absurd rfl hcut
  | succ bound ih =>
      rw [run_visitModule_succ] at hcut ⊢
      cases hopen : (w.openSource source).run s with
      | mk outcome s₁ =>
          rw [hopen] at hcut
          cases outcome with
          | error stop => exact ⟨1, NestsIn.unparsable hopen⟩
          | ok pending =>
              obtain ⟨n, hinside⟩ := exists_nests_followAll ih hcut
              exact ⟨n + 1, NestsIn.opened hopen hinside⟩

/-! ## Trees are shallow -/

theorem Nests.drains (hnests : Nests w n pending s r s') : Drains w pending s r s' := by
  induction hnests with
  | done s => exact Drains.done s
  | halted harrive => exact Drains.halted harrive
  | passed harrive _ ih => exact Drains.passed harrive ih
  | unparsable harrive hopen => exact Drains.unparsable harrive hopen
  | failed harrive hopen _ ih => exact Drains.opened harrive hopen (ih.append_error rfl)
  | opened harrive hopen _ _ ih ihrest =>
      exact Drains.opened harrive hopen (ih.append_ok rfl ihrest)

theorem card_remaining_opened {outcome : Except Stop (List Pending)}
    (hopen : (w.openSource source).run s = (outcome, s')) :
    (remaining w s').card = (remaining w s).card := by
  rw [remaining, (opening_of_run hopen).changes.1]
  rfl

/-- Each level uses up a listed file, and nothing brings one back. -/
theorem Nests.depth_le (hfinite : w.runtime.FinitelyServed) (hnests : Nests w n pending s r s') :
    n ≤ (remaining w s).card := by
  induction hnests with
  | done | halted => exact Nat.zero_le _
  | passed harrive _ ih =>
      exact ih.trans (card_remaining_mono (arrival_of_run harrive).progress.subset)
  | unparsable harrive _ =>
      have hlt := (arrival_of_run harrive).card_remaining_lt hfinite
      omega
  | failed harrive hopen _ ih =>
      have hlt := (arrival_of_run harrive).card_remaining_lt hfinite
      have hopened := card_remaining_opened (w := w) hopen
      omega
  | @opened n m item rest pending source s s₁ s₂ s₃ s' r harrive hopen hinside hrest ih ihrest =>
      have hlt := (arrival_of_run harrive).card_remaining_lt hfinite
      have hopened := card_remaining_opened (w := w) hopen
      have hafter : (remaining w s₃).card ≤ (remaining w s₂).card :=
        card_remaining_mono hinside.drains.progress.subset
      omega

theorem NestsIn.depth_le (hfinite : w.runtime.FinitelyServed)
    (hinside : NestsIn w source s n r s') : n ≤ (remaining w s).card + 1 := by
  cases hinside with
  | unparsable => omega
  | opened hopen hinside =>
      have hdepth := hinside.depth_le hfinite
      have hopened := card_remaining_opened (w := w) hopen
      omega

/-! ## The depth is exact -/

theorem run_visitModule_of_opened (hopen : (w.openSource source).run s = (.ok pending, s₁)) :
    (w.visitModule (bound + 1) source.text source.path source.mode).run s =
      followAll w bound pending s₁ := by
  rw [run_visitModule_succ, hopen]

theorem run_visitModule_of_unparsable (hopen : (w.openSource source).run s = (.error stop, s₁)) :
    (w.visitModule (bound + 1) source.text source.path source.mode).run s =
      (.error stop, s₁) := by
  rw [run_visitModule_succ, hopen]

/-- A bound that is not below the depth changes nothing. -/
theorem Nests.followAll_eq (hnests : Nests w n pending s r s') (hbound : n ≤ bound) :
    followAll w bound pending s = (r, s') := by
  induction hnests generalizing bound with
  | done => rfl
  | halted harrive => exact followAll_cons_error harrive
  | passed harrive _ ih =>
      rw [followAll_cons_none harrive]
      exact ih hbound
  | unparsable harrive hopen =>
      obtain ⟨b, rfl⟩ := Nat.exists_eq_add_of_le' hbound
      rw [followAll_cons_source harrive, run_visitModule_of_unparsable hopen]
  | @failed n item rest pending source s s₁ s₂ s' stop harrive hopen _ ih =>
      obtain ⟨b, rfl⟩ : ∃ b, bound = b + 1 := ⟨bound - 1, by omega⟩
      rw [followAll_cons_source harrive, run_visitModule_of_opened hopen, ih (by omega)]
  | @opened n m item rest pending source s s₁ s₂ s₃ s' r harrive hopen _ _ ih ihrest =>
      obtain ⟨b, rfl⟩ : ∃ b, bound = b + 1 := ⟨bound - 1, by omega⟩
      rw [followAll_cons_source harrive, run_visitModule_of_opened hopen, ih (by omega)]
      exact ihrest (by omega)

/-- What is cut off inside a module is cut off. -/
theorem followAll_cons_cut (harrive : (w.arrive item).run s = (.ok (some source), s₁))
    (hcut : ((w.visitModule bound source.text source.path source.mode).run s₁).1 =
      .error .tooDeep) :
    (followAll w bound (item :: rest) s).1 = .error .tooDeep := by
  rw [followAll_cons_source harrive]
  generalize (w.visitModule bound source.text source.path source.mode).run s₁ = result at hcut ⊢
  obtain ⟨r, s₂⟩ := result
  subst hcut
  rfl

/-- A bound below the depth cuts the recursion off. -/
theorem Nests.followAll_cut (hnests : Nests w n pending s r s') (hbound : bound < n) :
    (followAll w bound pending s).1 = .error .tooDeep := by
  -- the level that the bound has no room for lies inside the target or behind it
  induction hnests generalizing bound with
  | done | halted => omega
  | passed harrive _ ih =>
      rw [followAll_cons_none harrive]
      exact ih hbound
  | unparsable harrive hopen =>
      obtain rfl : bound = 0 := by omega
      exact followAll_cons_cut harrive rfl
  | failed harrive hopen _ ih =>
      refine followAll_cons_cut harrive ?_
      cases bound with
      | zero => rfl
      | succ bound =>
          rw [run_visitModule_of_opened hopen]
          exact ih (by omega)
  | @opened n m item rest pending source s s₁ s₂ s₃ s' r harrive hopen hinside _ ih ihrest =>
      cases bound with
      | zero => exact followAll_cons_cut harrive rfl
      | succ bound =>
          by_cases hdeep : bound < n
          · refine followAll_cons_cut harrive ?_
            rw [run_visitModule_of_opened hopen]
            exact ih hdeep
          · rw [followAll_cons_source harrive, run_visitModule_of_opened hopen,
              hinside.followAll_eq (by omega)]
            exact ihrest (by omega)

theorem NestsIn.run_eq (hinside : NestsIn w source s n r s') (hbound : n ≤ bound) :
    (w.visitModule bound source.text source.path source.mode).run s = (r, s') := by
  obtain ⟨b, rfl⟩ : ∃ b, bound = b + 1 := ⟨bound - 1, by cases hinside <;> omega⟩
  cases hinside with
  | unparsable hopen => exact run_visitModule_of_unparsable hopen
  | opened hopen hinside =>
      rw [run_visitModule_of_opened hopen]
      exact hinside.followAll_eq (by omega)

theorem NestsIn.run_cut (hinside : NestsIn w source s n r s') (hbound : bound < n) :
    ((w.visitModule bound source.text source.path source.mode).run s).1 = .error .tooDeep := by
  cases bound with
  | zero => rfl
  | succ bound =>
      cases hinside with
      | unparsable => omega
      | opened hopen hinside =>
          rw [run_visitModule_of_opened hopen]
          exact hinside.followAll_cut (by omega)

/-! ## Walking from an entrypoint -/

/-- A walk that is not cut off is a tree. -/
theorem exists_nestsFrom (bound : ℕ) (code : String) (path : Path) (s : State)
    (hcut : ((w.visitWithin bound code path).run s).1 ≠ .error .tooDeep) :
    ∃ n, NestsFrom w code path s n ((w.visitWithin bound code path).run s) := by
  cases habs : w.absolutize path with
  | error e =>
      rw [run_visitWithin_of_error bound code habs]
      exact ⟨0, NestsFrom.unresolved habs⟩
  | ok target =>
      by_cases hvisited : target ∈ s.visited
      · rw [run_visitWithin_of_mem bound code habs hvisited]
        exact ⟨0, NestsFrom.visited habs hvisited⟩
      · rw [run_visitWithin_of_new bound code habs hvisited] at hcut ⊢
        obtain ⟨n, hinside⟩ := exists_nestsIn bound ⟨code, target, .module⟩ _ hcut
        exact ⟨n, NestsFrom.entered habs hvisited hinside⟩

variable {code : String} {path : Path} {outcome : Except Stop Unit × State}

theorem NestsFrom.depth_le (hfinite : w.runtime.FinitelyServed)
    (hfrom : NestsFrom w code path s n outcome) : n ≤ (remaining w s).card + 1 := by
  cases hfrom with
  | unresolved | visited => omega
  | @entered target n r s' habs hnew hinside =>
      have hdepth := hinside.depth_le hfinite
      have hmono : (remaining w (s.visit target)).card ≤ (remaining w s).card :=
        card_remaining_mono (by simp)
      omega

theorem NestsFrom.run_eq (hfrom : NestsFrom w code path s n outcome) (hbound : n ≤ bound) :
    (w.visitWithin bound code path).run s = outcome := by
  cases hfrom with
  | unresolved habs => exact run_visitWithin_of_error bound code habs
  | visited habs hvisited => exact run_visitWithin_of_mem bound code habs hvisited
  | entered habs hnew hinside =>
      rw [run_visitWithin_of_new bound code habs hnew]
      exact hinside.run_eq hbound

theorem NestsFrom.run_cut (hfrom : NestsFrom w code path s n outcome) (hbound : bound < n) :
    ((w.visitWithin bound code path).run s).1 = .error .tooDeep := by
  cases hfrom with
  | unresolved | visited => omega
  | entered habs hnew hinside =>
      rw [run_visitWithin_of_new bound code habs hnew]
      exact hinside.run_cut hbound

/-- A larger bound changes nothing about a walk that is not cut off. -/
theorem run_visitWithin_of_le {bound' : ℕ}
    (hcut : ((w.visitWithin bound code path).run s).1 ≠ .error .tooDeep) (hle : bound ≤ bound') :
    (w.visitWithin bound' code path).run s = (w.visitWithin bound code path).run s := by
  obtain ⟨depth, hfrom⟩ := exists_nestsFrom bound code path s hcut
  have hdepth : depth ≤ bound := by
    by_contra hdeep
    exact hcut (hfrom.run_cut (not_le.mp hdeep))
  exact hfrom.run_eq (hdepth.trans hle)

/-! ## Unvisited files -/

/-- The listed files, told apart by their segments, that have not been visited. -/
def unvisitedFiles (w : Walker) (s : State) : Finset (List Segment) :=
  (w.runtime.served.map Path.segments).toFinset \ (s.visited.map Path.segments).toFinset

/-- Listed files that can still be reached by a clean path are unvisited. -/
theorem card_remaining_le_unvisitedFiles (hclean : s.Clean) :
    (remaining w s).card ≤ (unvisitedFiles w s).card := by
  have hsubset : remaining w s ⊆
      (unvisitedFiles w s).image fun segments => Path.ofSegments (Segment.clean segments) := by
    intro p hp
    obtain ⟨⟨listed, hlisted, hpath⟩, hnew⟩ := mem_remaining.mp hp
    have hunvisited : listed.segments ∉ s.visited.map Path.segments := by
      intro hmem
      obtain ⟨q, hq, hsame⟩ := List.mem_map.mp hmem
      have hqp : q = p := by
        rw [← hclean q hq, ← hpath]
        exact Path.Same.clean_eq hsame
      exact hnew (hqp ▸ hq)
    refine Finset.mem_image.mpr ⟨listed.segments, ?_, hpath⟩
    rw [unvisitedFiles, Finset.mem_sdiff, List.mem_toFinset, List.mem_toFinset]
    exact ⟨List.mem_map_of_mem hlisted, hunvisited⟩
  exact (Finset.card_le_card hsubset).trans Finset.card_image_le

/-- From any state, a walk of a runtime that lists its files ends.  It is a tree, and
at most one module more than there are unvisited files lie inside one another.  The
depth of the tree is exact: a bound that reaches it is inert, and one below it is not.
The states that calls leave behind are clean, so the files can be counted as listed. -/
theorem visitEntrypoint_nests (w : Walker) (hfinite : w.runtime.FinitelyServed) (code : String)
    (path : Path) (s : State) :
    let outcome := (w.visitEntrypoint code path).run s
    outcome.1 ≠ .error .tooDeep ∧
      ∃ depth, NestsFrom w code path s depth outcome ∧
        (∀ bound, depth ≤ bound → (w.visitWithin bound code path).run s = outcome) ∧
        (∀ bound < depth, ((w.visitWithin bound code path).run s).1 = .error .tooDeep) ∧
        depth ≤ (remaining w s).card + 1 ∧
        (s.Clean → depth ≤ (unvisitedFiles w s).card + 1) := by
  intro outcome
  have hcut : outcome.1 ≠ .error .tooDeep := visitEntrypoint_ne_tooDeep hfinite code path s
  obtain ⟨depth, hfrom⟩ : ∃ depth, NestsFrom w code path s depth outcome :=
    exists_nestsFrom w.depthBound code path s hcut
  have hdepth := hfrom.depth_le hfinite
  refine ⟨hcut, depth, hfrom, fun bound hbound => hfrom.run_eq hbound,
    fun bound hbound => hfrom.run_cut hbound, hdepth, fun hclean => ?_⟩
  have hfiles := card_remaining_le_unvisitedFiles (w := w) hclean
  omega

/-- An entrypoint that comes when both files have been visited is walked alone. -/
theorem visitEntrypoint_nests_circle :
    let s := Walker.circle.visitAll [("", "a.js")] .fresh
    ∃ depth ≤ 1, NestsFrom .circle "" "c.js" s depth
      ((Walker.circle.visitEntrypoint "" "c.js").run s) := by
  intro s
  have hclean : s.Clean := clean_fresh.visitAll [("", "a.js")]
  have hfiles : (unvisitedFiles .circle s).card = 0 := by decide +kernel
  obtain ⟨-, depth, hfrom, -, -, -, hdepth⟩ :=
    visitEntrypoint_nests .circle Walker.finitelyServed_circle "" "c.js" s
  exact ⟨depth, by simpa [hfiles] using hdepth hclean, hfrom⟩

end ModuleDiscovery.Walk
