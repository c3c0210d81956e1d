import ModuleDiscovery.Proofs.Walk.Depth
import ModuleDiscovery.Proofs.Walk.Reach

/-!
# A walk finds what an entrypoint reaches

From a fresh state, a walk succeeds exactly when nothing that the entrypoint reaches
is faulty, and then it has visited what is reached and recorded one module for each
visited path.

## Strategy

`Frontier` is the invariant of the stack and the state.  Every visited path is
reached and has its module; each of its specifiers is pending or settled, which
means that the platform provides it or its target has been visited.  When the stack
is empty all specifiers are settled, so the visited paths are closed under `Refers`.
A run that stops earlier stops at a path that is reached and faulty.

## Main results

* `visitEntrypoint_finds`: the laws of a walk from a fresh state.
-/

namespace ModuleDiscovery.Walk

/-- A specifier at a path that asks for no further visit. -/
inductive Settled (w : Walker) (s : State) (p : Path) : Specifier → Prop
  | provided {text : String} {position : Position}
      (hprovided : NodeCompat.isProvided w.nodeCompat w.external text) :
      Settled w s p (.literal text position)
  | visited {text : String} {position : Position}
      (hscript : (ScriptId.parse? (moduleName w.root p)).isSome = false)
      (hvisited : Walker.resolve p text ∈ s.visited) : Settled w s p (.literal text position)

/-- A path with its module, whose source, if it has one, can be parsed. -/
structure Loaded (w : Walker) (code : String) (entry p : Path) : Prop where
  recorded : ∃ m, recordAt? w code entry p = some m
  parsed : ∀ source, sourceAt? w code entry p = some source →
    ∃ specifiers, w.parser (Walker.stamped source) source.mode = .ok specifiers

/-- The invariant of a walk from a fresh state. -/
structure Frontier (w : Walker) (code : String) (entry : Path) (pending : List Pending)
    (s : State) : Prop where
  entry_mem : entry ∈ s.visited
  reached : ∀ p ∈ s.visited, Reach w code entry p
  loaded : ∀ p ∈ s.visited, Loaded w code entry p
  settled : ∀ p ∈ s.visited, ∀ specifier, HasSpecifier w code entry p specifier →
    Settled w s p specifier ∨ ⟨p, moduleName w.root p, specifier⟩ ∈ pending
  waiting : ∀ item ∈ pending, item.importer ∈ s.visited ∧
    item.name = moduleName w.root item.importer ∧
      HasSpecifier w code entry item.importer item.specifier
  records : s.visited.map (recordAt? w code entry) = s.modules.map some

variable {w : Walker} {code : String} {entry p path : Path} {item : Pending}
  {pending rest pushed : List Pending} {source : Source} {s s₁ s' : State}
  {specifier : Specifier} {text : String} {r : Except Stop Unit}

theorem Settled.mono (hsettled : Settled w s p specifier) (hvisited : s.visited ⊆ s'.visited) :
    Settled w s' p specifier := by
  cases hsettled with
  | provided hprovided => exact Settled.provided hprovided
  | visited hscript hmem => exact Settled.visited hscript (hvisited hmem)

/-! ## What one pop does to the invariant -/

/-- The invariant only looks at the visited paths and the modules. -/
theorem Frontier.congr (hI : Frontier w code entry pending s) (hvisited : s'.visited = s.visited)
    (hmodules : s'.modules = s.modules) : Frontier w code entry pending s' where
  entry_mem := hvisited ▸ hI.entry_mem
  reached := hvisited ▸ hI.reached
  loaded := hvisited ▸ hI.loaded
  settled p hp specifier hspecifier :=
    (hI.settled p (hvisited ▸ hp) specifier hspecifier).imp_left
      fun hsettled => hsettled.mono (hvisited ▸ List.Subset.refl _)
  waiting := hvisited ▸ hI.waiting
  records := by rw [hvisited, hmodules, hI.records]

/-- A specifier that is settled need not be pending. -/
theorem Frontier.settle (pushed : List Pending)
    (hI : Frontier w code entry (pushed ++ item :: rest) s)
    (hsettled : Settled w s item.importer item.specifier) :
    Frontier w code entry (pushed ++ rest) s where
  entry_mem := hI.entry_mem
  reached := hI.reached
  loaded := hI.loaded
  settled p hp specifier hspecifier := by
    rcases hI.settled p hp specifier hspecifier with h | h
    · exact Or.inl h
    · rcases List.mem_append.mp h with h | h
      · exact Or.inr (List.mem_append_left _ h)
      · rcases List.mem_cons.mp h with rfl | h
        · exact Or.inl hsettled
        · exact Or.inr (List.mem_append_right _ h)
  waiting other hother := by
    refine hI.waiting other ?_
    rcases List.mem_append.mp hother with h | h
    · exact List.mem_append_left _ h
    · exact List.mem_append_right _ (List.mem_cons_of_mem _ h)
  records := hI.records

/-- A path that is reached and loaded can be visited when its specifiers are put on
the stack. -/
theorem Frontier.extend (pushed : List Pending) (hI : Frontier w code entry pending s)
    (hreach : Reach w code entry path) (hloaded : Loaded w code entry path) {m : WorkerModule}
    (hrecord : recordAt? w code entry path = some m)
    (hpushed : ∀ item, item ∈ pushed ↔ item.importer = path ∧
      item.name = moduleName w.root path ∧ HasSpecifier w code entry path item.specifier)
    (hvisited : s'.visited = s.visited ++ [path]) (hmodules : s'.modules = s.modules ++ [m]) :
    Frontier w code entry (pushed ++ pending) s' := by
  have hsubset : s.visited ⊆ s'.visited := by simp [hvisited]
  have hsplit : ∀ p ∈ s'.visited, p ∈ s.visited ∨ p = path := by simp [hvisited]
  refine ⟨hsubset hI.entry_mem, ?_, ?_, ?_, ?_, ?_⟩
  · intro p hp
    rcases hsplit p hp with hp | rfl
    exacts [hI.reached p hp, hreach]
  · intro p hp
    rcases hsplit p hp with hp | rfl
    exacts [hI.loaded p hp, hloaded]
  · intro p hp specifier hspecifier
    rcases hsplit p hp with hp | rfl
    · rcases hI.settled p hp specifier hspecifier with h | h
      · exact Or.inl (h.mono hsubset)
      · exact Or.inr (List.mem_append_right _ h)
    · exact Or.inr (List.mem_append_left _ ((hpushed _).mpr ⟨rfl, rfl, hspecifier⟩))
  · intro item hitem
    rcases List.mem_append.mp hitem with h | h
    · obtain ⟨himporter, hname, hspecifier⟩ := (hpushed item).mp h
      rw [himporter]
      exact ⟨by simp [hvisited], hname, hspecifier⟩
    · obtain ⟨hmem, hname, hspecifier⟩ := hI.waiting item h
      exact ⟨hsubset hmem, hname, hspecifier⟩
  · rw [hvisited, hmodules, List.map_append, List.map_append, hI.records, List.map_singleton,
      hrecord]
    rfl

/-! ## The targets of pending specifiers -/

/-- The target of a pending specifier is referred to by its module. -/
theorem Frontier.refers (hI : Frontier w code entry (item :: rest) s)
    (hleads : Leads w item text path) : Refers w code entry item.importer path := by
  obtain ⟨⟨position, hitem⟩, hprovided, -, rfl⟩ := hleads
  obtain ⟨-, -, hspecifier⟩ := hI.waiting item List.mem_cons_self
  exact Refers.intro (hitem ▸ hspecifier) hprovided

theorem Frontier.reach (hI : Frontier w code entry (item :: rest) s)
    (hleads : Leads w item text path) : Reach w code entry path :=
  Reach.step (hI.reached _ (hI.waiting item List.mem_cons_self).1) (hI.refers hleads)

theorem Frontier.ne_entry (hI : Frontier w code entry pending s) (hnew : path ∉ s.visited) :
    path ≠ entry :=
  fun h => hnew (h ▸ hI.entry_mem)

/-- A specifier is settled when its target has been visited. -/
theorem Frontier.settled_of_leads (hI : Frontier w code entry (item :: rest) s)
    (hleads : Leads w item text path) (hvisited : path ∈ s'.visited) :
    Settled w s' item.importer item.specifier := by
  obtain ⟨⟨position, hitem⟩, -, hscript, rfl⟩ := hleads
  obtain ⟨-, hname, -⟩ := hI.waiting item List.mem_cons_self
  rw [hitem]
  exact Settled.visited (hname ▸ hscript) hvisited

theorem mem_pendingOf {specifiers : List Specifier}
    (hsource : sourceAt? w code entry path = some source)
    (hparse : w.parser (Walker.stamped source) source.mode = .ok specifiers) :
    item ∈ w.pendingOf path specifiers ↔ item.importer = path ∧
      item.name = moduleName w.root path ∧ HasSpecifier w code entry path item.specifier := by
  rw [Walker.pendingOf, List.mem_map]
  constructor
  · rintro ⟨specifier, hmem, rfl⟩
    exact ⟨rfl, rfl, .intro hsource hparse hmem⟩
  · rintro ⟨himporter, hname, hspecifier⟩
    cases hspecifier with
    | intro hsource' hparse' hmem =>
        obtain rfl := Option.some.inj (hsource.symm.trans hsource')
        obtain rfl := Except.ok.inj (hparse.symm.trans hparse')
        exact ⟨item.specifier, hmem, by rw [← hname, ← himporter]⟩

theorem loaded_of_source {specifiers : List Specifier}
    (hsource : sourceAt? w code entry path = some source)
    (hparse : w.parser (Walker.stamped source) source.mode = .ok specifiers) :
    Loaded w code entry path where
  recorded := ⟨_, recordAt?_of_source hsource⟩
  parsed source' hsource' := by
    obtain rfl := Option.some.inj (hsource.symm.trans hsource')
    exact ⟨specifiers, hparse⟩

/-! ## One pop keeps the invariant -/

theorem kept_frontier (w : Walker) (code : String) (entry : Path) :
    Kept w (Frontier w code entry) where
  passed {item rest s s'} hI harrive := by
    cases harrive with
    | provided text position hitem hprovided =>
        refine Frontier.settle [] (hI.congr rfl rfl) ?_
        rw [hitem]
        exact Settled.provided hprovided
    | visited text path hleads hvisited =>
        exact Frontier.settle [] (hI.congr rfl rfl)
          (hI.settled_of_leads hleads hvisited)
    | asset text path rule bytes hleads hserved hkind =>
        -- an asset has no specifiers, so nothing is pushed for it
        have hsource : sourceAt? w code entry path = none := by
          rw [hserved.sourceAt?_eq hI.entry_mem, hkind]
          rfl
        have hrecord := recordAt?_of_asset hsource hserved.rule_eq hserved.read_eq
        refine Frontier.settle [] ?_ (hI.settled_of_leads hleads (by simp))
        refine hI.extend [] (hI.reach hleads) ⟨⟨_, hrecord⟩, ?_⟩ hrecord ?_
          (by simp) (by simp)
        · simp [hsource]
        · intro other
          refine iff_of_false List.not_mem_nil ?_
          rintro ⟨-, -, hspecifier⟩
          cases hspecifier with
          | intro hsource' => simp [hsource] at hsource'
  opened {item rest source pending s s₁ s'} hI harrive hopen := by
    have hsource : sourceAt? w code entry source.path = some source :=
      harrive.sourceAt?_eq hI.entry_mem
    cases harrive with
    | source text path rule bytes mode hleads hserved hkind =>
        cases hopen with
        | parsed specifiers hparse =>
            refine Frontier.settle _ ?_ (hI.settled_of_leads hleads (by simp))
            exact hI.extend _ (hI.reach hleads) (loaded_of_source hsource hparse)
              (recordAt?_of_source hsource) (fun _ => mem_pendingOf hsource hparse)
              (by simp) (by simp)

/-! ## Where a run can end -/

/-- When nothing is pending, what is reached has been visited. -/
theorem Frontier.closed (hI : Frontier w code entry [] s) (hreach : Reach w code entry p) :
    p ∈ s.visited := by
  -- the visited paths are closed under `Refers`, and `Reach` is the least such set
  induction hreach with
  | entry => exact hI.entry_mem
  | step hreach hrefers ih =>
      cases hrefers with
      | intro hspecifier hprovided =>
          rcases hI.settled _ ih _ hspecifier with hsettled | h
          · cases hsettled with
            | provided hprovided' => simp [hprovided] at hprovided'
            | visited _ hvisited => exact hvisited
          · cases h

/-- When nothing is pending, no visited path is faulty. -/
theorem Frontier.not_faulty (hI : Frontier w code entry [] s) (hp : p ∈ s.visited) :
    ¬ Faulty w code entry p := by
  obtain ⟨⟨m, hrecord⟩, hparsed⟩ := hI.loaded p hp
  have hsettled : ∀ specifier, HasSpecifier w code entry p specifier → Settled w s p specifier := by
    intro specifier hspecifier
    rcases hI.settled p hp specifier hspecifier with h | h
    · exact h
    · cases h
  intro hfaulty
  cases hfaulty with
  | unmatched hentry hrule =>
      obtain ⟨⟨rule, hrule'⟩, -⟩ := exists_of_recordAt? hrecord hentry
      simp [hrule] at hrule'
  | unreadable cause hentry hread =>
      obtain ⟨-, bytes, hread'⟩ := exists_of_recordAt? hrecord hentry
      simp [hread] at hread'
  | unparsable source failure hsource hparse =>
      obtain ⟨specifiers, hparse'⟩ := hparsed source hsource
      simp [hparse] at hparse'
  | dynamic position hspecifier => cases hsettled _ hspecifier
  | script q hscript hrefers =>
      cases hrefers with
      | intro hspecifier hprovided =>
          cases hsettled _ hspecifier with
          | provided hprovided' => simp [hprovided] at hprovided'
          | visited hscript' => simp [hscript] at hscript'

/-- An arrival that fails does so at a path that is reached. -/
theorem Arrival.exists_faulty (hI : Frontier w code entry (item :: rest) s) {stop : Stop}
    (harrive : Arrival w item s (.error stop, s')) :
    ∃ p, Reach w code entry p ∧ Faulty w code entry p := by
  obtain ⟨hmem, hname, hspecifier⟩ := hI.waiting item List.mem_cons_self
  have himporter := hI.reached _ hmem
  cases harrive with
  | dynamic position hitem => exact ⟨_, himporter, Faulty.dynamic position (hitem ▸ hspecifier)⟩
  | script text position hitem hprovided hscript =>
      exact ⟨_, himporter, Faulty.script _ (hname ▸ hscript)
        (.intro (hitem ▸ hspecifier) hprovided)⟩
  | unmatched text path hleads hnew hrule =>
      exact ⟨path, hI.reach hleads, Faulty.unmatched (hI.ne_entry hnew) hrule⟩
  | unreadable text path rule cause hleads hnew hrule hread =>
      exact ⟨path, hI.reach hleads, Faulty.unreadable cause (hI.ne_entry hnew) hread⟩

theorem Arrival.reach_source (hI : Frontier w code entry (item :: rest) s)
    (harrive : Arrival w item s (.ok (some source), s')) : Reach w code entry source.path := by
  cases harrive with
  | source text path rule bytes mode hleads => exact hI.reach hleads

theorem Opening.exists_faulty (hreach : Reach w code entry source.path)
    (hsource : sourceAt? w code entry source.path = some source) {stop : Stop}
    (hopen : Opening w source s (.error stop, s')) :
    ∃ p, Reach w code entry p ∧ Faulty w code entry p := by
  cases hopen with
  | unparsable failure hparse =>
      exact ⟨source.path, hreach, Faulty.unparsable source failure hsource hparse⟩

/-- A run stops with nothing pending or at something faulty that is reached. -/
theorem Ends.frontier (hends : Ends w (Frontier w code entry) r s') :
    (r = .ok () ∧ Frontier w code entry [] s') ∨
      r ≠ .ok () ∧ (r = .error .tooDeep ∨ ∃ p, Reach w code entry p ∧ Faulty w code entry p) := by
  cases hends with
  | done hI => exact Or.inl ⟨rfl, hI⟩
  | halted hI harrive => exact Or.inr ⟨by simp, Or.inr (harrive.exists_faulty hI)⟩
  | unparsable hI harrive hopen =>
      exact Or.inr ⟨by simp,
        Or.inr (hopen.exists_faulty (harrive.reach_source hI) (harrive.sourceAt?_eq hI.entry_mem))⟩
  | cut => exact Or.inr ⟨by simp, Or.inl rfl⟩

/-- What following a specifier visits is reached. -/
theorem Arrival.reached (hI : Frontier w code entry (item :: rest) s)
    {outcome : Except Stop (Option Source)} (harrive : Arrival w item s (outcome, s')) :
    ∀ p ∈ s'.visited, Reach w code entry p := by
  cases harrive with
  | dynamic | script | provided | visited => exact hI.reached
  | unmatched text path hleads | unreadable text path rule cause hleads
  | asset text path rule bytes hleads | source text path rule bytes mode hleads =>
      intro p hp
      rcases List.mem_append.mp hp with hp | hp
      · exact hI.reached p hp
      · exact List.mem_singleton.mp hp ▸ hI.reach hleads

/-- A run visits nothing that is not reached, wherever it stops. -/
theorem Ends.reached (hends : Ends w (Frontier w code entry) r s') :
    ∀ p ∈ s'.visited, Reach w code entry p := by
  cases hends with
  | done hI => exact hI.reached
  | halted hI harrive | cut hI harrive => exact harrive.reached hI
  | unparsable hI harrive hopen =>
      rw [hopen.changes.1]
      exact harrive.reached hI

/-! ## Walking from a fresh state -/

/-- What is pending in an entrypoint starts the invariant. -/
theorem frontier_entry {specifiers : List Specifier} {s : State}
    (hparse : w.parser (Walker.stamped ⟨code, entry, .module⟩) .module = .ok specifiers)
    (hvisited : s.visited = [entry])
    (hmodules : s.modules = [w.sourceModule ⟨code, entry, .module⟩]) :
    Frontier w code entry (w.pendingOf entry specifiers) s := by
  have hsource : sourceAt? w code entry entry = some ⟨code, entry, .module⟩ := sourceAt?_entry
  refine ⟨by simp [hvisited], ?_, ?_, ?_, ?_, ?_⟩
  · intro p hp
    obtain rfl : p = entry := by simpa [hvisited] using hp
    exact Reach.entry
  · intro p hp
    obtain rfl : p = entry := by simpa [hvisited] using hp
    exact loaded_of_source hsource hparse
  · intro p hp specifier hspecifier
    obtain rfl : p = entry := by simpa [hvisited] using hp
    exact Or.inr ((mem_pendingOf hsource hparse).mpr ⟨rfl, rfl, hspecifier⟩)
  · intro item hitem
    obtain ⟨himporter, hname, hspecifier⟩ := (mem_pendingOf hsource hparse).mp hitem
    rw [himporter]
    exact ⟨by simp [hvisited], hname, hspecifier⟩
  · simp [hvisited, hmodules, recordAt?_of_source hsource]

theorem Opening.frontier
    (hopen : Opening w ⟨code, entry, .module⟩ (State.fresh.visit entry) (.ok pending, s₁)) :
    Frontier w code entry pending s₁ := by
  cases hopen with
  | parsed specifiers hparse => exact frontier_entry hparse rfl rfl

theorem Entry.frontier {path : Path} (habs : w.absolutize path = .ok entry)
    (hentry : Entry w code path .fresh (r, s')) :
    (r = .ok () ∧ Frontier w code entry [] s') ∨
      r ≠ .ok () ∧ (r = .error .tooDeep ∨ ∃ p, Reach w code entry p ∧ Faulty w code entry p) := by
  rcases hentry.ends (kept_frontier w code entry) habs List.not_mem_nil
    (fun _ _ => Opening.frontier) with hends | ⟨stop, rfl, hopen⟩
  · exact hends.frontier
  · exact Or.inr ⟨by simp, Or.inr (hopen.exists_faulty Reach.entry sourceAt?_entry)⟩

/-- A walk visits nothing that is not reached, whatever comes of it. -/
theorem Entry.reached {path : Path} {outcome : Except Stop Unit × State}
    (habs : w.absolutize path = .ok entry) (hentry : Entry w code path .fresh outcome) :
    ∀ p ∈ outcome.2.visited, Reach w code entry p := by
  rcases hentry.ends (kept_frontier w code entry) habs List.not_mem_nil
    (fun _ _ => Opening.frontier) with hends | ⟨stop, -, hopen⟩
  · exact hends.reached
  · intro p hp
    rw [hopen.changes.1] at hp
    obtain rfl : p = entry := by simpa [State.fresh] using hp
    exact Reach.entry

/-- What a successful walk leaves behind: what is reached has been visited, once,
and each visited path has its module, in the same order. -/
structure Found (w : Walker) (code : String) (entry : Path) (s : State) : Prop where
  mem_visited_iff : ∀ p, p ∈ s.visited ↔ Reach w code entry p
  nodup : s.visited.Nodup
  records : s.visited.map (recordAt? w code entry) = s.modules.map some

theorem Frontier.found (hI : Frontier w code entry [] s) (hnodup : s.visited.Nodup) :
    Found w code entry s where
  mem_visited_iff p := ⟨hI.reached p, hI.closed⟩
  nodup := hnodup
  records := hI.records

/-- A walk from a fresh state succeeds exactly when nothing that is reached is
faulty, and then it has found what is reached. -/
theorem visitEntrypoint_finds (w : Walker) (hfinite : w.runtime.FinitelyServed) (code : String)
    (path entry : Path) (habs : w.absolutize path = .ok entry) :
    let outcome := (w.visitEntrypoint code path).run .fresh
    (outcome.1 = .ok () ↔ ∀ p, Reach w code entry p → ¬ Faulty w code entry p) ∧
      (outcome.1 ≠ .ok () → ∃ e, outcome.1 = .error (.failed e)) ∧
      (outcome.1 = .ok () → Found w code entry outcome.2) := by
  have hentry := Walk.entry w code path .fresh
  have hdepth := visitEntrypoint_ne_tooDeep hfinite code path .fresh
  have hprogress := progress_visitEntrypoint w code path .fresh
  intro outcome
  change Entry w code path .fresh outcome at hentry
  change outcome.1 ≠ _ at hdepth
  change Progress .fresh outcome.2 at hprogress
  generalize outcome = result at hentry hdepth hprogress ⊢
  -- a run that does not succeed has met something faulty, since it was not cut off
  obtain ⟨r, s⟩ := result
  dsimp only at hdepth hprogress ⊢
  rcases hentry.frontier habs with ⟨rfl, hI⟩ | ⟨hr, hstop⟩
  · have hnodup : s.visited.Nodup := by
      obtain ⟨added, hadded, hnodup, -⟩ := hprogress.visited
      simpa [hadded, State.fresh] using hnodup
    exact ⟨iff_of_true rfl fun p hp => hI.not_faulty (hI.closed hp), fun h => absurd rfl h,
      fun _ => hI.found hnodup⟩
  · obtain ⟨p, hreach, hfaulty⟩ := hstop.resolve_left hdepth
    refine ⟨iff_of_false hr fun hsound => hsound p hreach hfaulty, fun _ => ?_,
      fun h => absurd h hr⟩
    rcases r with (e | _) | _
    exacts [⟨e, rfl⟩, absurd rfl hdepth, absurd rfl hr]

/-- Each of the two files is found once, although both refer to both. -/
theorem found_circle :
    let s := ((Walker.circle.visitEntrypoint "" "a.js").run .fresh).2
    Found .circle "" "/a.js" s ∧ s.visited = (["/a.js", "/b.js"] : List Path) ∧
      s.modules.map WorkerModule.name = ["a.js", "b.js"] := by
  intro s
  obtain ⟨-, -, hfound⟩ := visitEntrypoint_finds .circle Walker.finitelyServed_circle ""
    "a.js" "/a.js" (by decide +kernel)
  exact ⟨hfound (by decide +kernel), by decide +kernel, by decide +kernel⟩

end ModuleDiscovery.Walk
