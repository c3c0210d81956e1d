import ModuleDiscovery.Proofs.Walk.Pending

/-!
# Unrolling the recursion of a walk

`Drains` is what a stack of pending specifiers can come to, pop by pop.  This file
shows that the recursion does nothing else: whatever `Walker.visitModule` returns
and leaves behind is the outcome of opening its source and draining what is pending
then (`visits`), and the same holds of an entrypoint (`entry_within`, `entry`).

The recursion carries a bound on its depth, and a run that exceeds it is cut off
between the arrival at a source and its opening.  `Drains.cut` stands for that, so
that nothing has to be assumed of the runtime here.

## Using it

An invariant of the stack and the state that one pop keeps (`Kept`) is carried along
a whole run by `Drains.ends`, which says of each way to stop what the invariant was
just before it.  `Entry.ends` does the same for a walk from a new entrypoint.
-/

namespace ModuleDiscovery

open Walk

/-- Follows a specifier whose target is known. -/
def Walker.followTo (w : Walker) (descend : String → Path → ParseMode → Walk Unit)
    (name specifier : String) (target : Path) : Walk Unit := do
  if ← enter target then
    match CompiledRule.find? w.rules target with
    | none => fail (.noMatchingRule name specifier (NodeCompat.isBuiltin specifier))
    | some rule => w.load descend target rule.kind
  else
    log (.alreadyVisited target)

/-- A walk whose bound on the depth is given. -/
def Walker.visitWithin (w : Walker) (bound : ℕ) (code : String) (path : Path) : Walk Unit := do
  match w.absolutize path with
  | .error e => Walk.fail e
  | .ok path =>
    if ← Walk.enter path then w.visitModule bound code path .module
    else Walk.log (.entrypointAlreadyVisited path)

theorem Walker.visitWithin_depthBound (w : Walker) (code : String) (path : Path) :
    w.visitWithin w.depthBound code path = w.visitEntrypoint code path := rfl

namespace Walk

/-! ## Runs of the stack -/

/-- A run of the stack from a state to an outcome. -/
inductive Drains (w : Walker) : List Pending → State → Except Stop Unit → State → Prop
  | done (s : State) : Drains w [] s (.ok ()) s
  | halted {item : Pending} {rest : List Pending} {s s' : State} {stop : Stop}
      (harrive : (w.arrive item).run s = (.error stop, s')) :
      Drains w (item :: rest) s (.error stop) s'
  | passed {item : Pending} {rest : List Pending} {s s₁ s' : State} {r : Except Stop Unit}
      (harrive : (w.arrive item).run s = (.ok none, s₁)) (hrest : Drains w rest s₁ r s') :
      Drains w (item :: rest) s r s'
  | unparsable {item : Pending} {rest : List Pending} {source : Source} {s s₁ s' : State}
      {stop : Stop} (harrive : (w.arrive item).run s = (.ok (some source), s₁))
      (hopen : (w.openSource source).run s₁ = (.error stop, s')) :
      Drains w (item :: rest) s (.error stop) s'
  | opened {item : Pending} {rest pending : List Pending} {source : Source}
      {s s₁ s₂ s' : State} {r : Except Stop Unit}
      (harrive : (w.arrive item).run s = (.ok (some source), s₁))
      (hopen : (w.openSource source).run s₁ = (.ok pending, s₂))
      (hrest : Drains w (pending ++ rest) s₂ r s') : Drains w (item :: rest) s r s'
  /-- The bound on the depth was reached. -/
  | cut {item : Pending} {rest : List Pending} {source : Source} {s s' : State}
      (harrive : (w.arrive item).run s = (.ok (some source), s')) :
      Drains w (item :: rest) s (.error .tooDeep) s'

/-- The ways a run can stop while it keeps an invariant of stack and state. -/
inductive Ends (w : Walker) (I : List Pending → State → Prop) : Except Stop Unit → State → Prop
  | done {s : State} (hI : I [] s) : Ends w I (.ok ()) s
  | halted {item : Pending} {rest : List Pending} {s s' : State} {stop : Stop}
      (hI : I (item :: rest) s) (harrive : Arrival w item s (.error stop, s')) :
      Ends w I (.error stop) s'
  | unparsable {item : Pending} {rest : List Pending} {source : Source} {s s₁ s' : State}
      {stop : Stop} (hI : I (item :: rest) s)
      (harrive : Arrival w item s (.ok (some source), s₁))
      (hopen : Opening w source s₁ (.error stop, s')) : Ends w I (.error stop) s'
  | cut {item : Pending} {rest : List Pending} {source : Source} {s s' : State}
      (hI : I (item :: rest) s) (harrive : Arrival w item s (.ok (some source), s')) :
      Ends w I (.error .tooDeep) s'

/-- What visiting a source can come to. -/
inductive Visits (w : Walker) (source : Source) (s : State) : Except Stop Unit × State → Prop
  | cut : Visits w source s (.error .tooDeep, s)
  | unparsable {s' : State} {stop : Stop}
      (hopen : (w.openSource source).run s = (.error stop, s')) :
      Visits w source s (.error stop, s')
  | opened {pending : List Pending} {s₁ s' : State} {r : Except Stop Unit}
      (hopen : (w.openSource source).run s = (.ok pending, s₁))
      (hdrains : Drains w pending s₁ r s') : Visits w source s (r, s')

/-- What walking from an entrypoint can come to. -/
inductive Entry (w : Walker) (code : String) (path : Path) (s : State) :
    Except Stop Unit × State → Prop
  | unresolved {e : ModuleError} (habs : w.absolutize path = .error e) :
      Entry w code path s (.error (.failed e), s)
  | visited {target : Path} (habs : w.absolutize path = .ok target)
      (hvisited : target ∈ s.visited) :
      Entry w code path s (.ok (), s.note [.entrypointAlreadyVisited target])
  | unparsable {target : Path} {s' : State} {stop : Stop}
      (habs : w.absolutize path = .ok target) (hnew : target ∉ s.visited)
      (hopen : (w.openSource ⟨code, target, .module⟩).run (s.visit target) = (.error stop, s')) :
      Entry w code path s (.error stop, s')
  | opened {target : Path} {pending : List Pending} {s₁ s' : State} {r : Except Stop Unit}
      (habs : w.absolutize path = .ok target) (hnew : target ∉ s.visited)
      (hopen : (w.openSource ⟨code, target, .module⟩).run (s.visit target) = (.ok pending, s₁))
      (hdrains : Drains w pending s₁ r s') : Entry w code path s (r, s')

variable {w : Walker} {item : Pending} {rest first second pending : List Pending}
  {source : Source} {s s₁ s₂ s' : State} {stop : Stop} {r r' : Except Stop Unit}

theorem Drains.append_ok (hfirst : Drains w first s r s₁) (hr : r = .ok ())
    (hsecond : Drains w second s₁ r' s') : Drains w (first ++ second) s r' s' := by
  induction hfirst with
  | done => exact hsecond
  | halted | unparsable | cut => exact absurd hr (by simp)
  | passed harrive _ ih => exact Drains.passed harrive (ih hr hsecond)
  | opened harrive hopen _ ih =>
      have hrest := ih hr hsecond
      rw [List.append_assoc] at hrest
      exact Drains.opened harrive hopen hrest

theorem Drains.append_error (hfirst : Drains w first s r s') (hr : r = .error stop) :
    Drains w (first ++ second) s r s' := by
  induction hfirst with
  | done => exact absurd hr (by simp)
  | halted harrive => exact Drains.halted harrive
  | passed harrive _ ih => exact Drains.passed harrive (ih hr)
  | unparsable harrive hopen => exact Drains.unparsable harrive hopen
  | opened harrive hopen _ ih =>
      have hrest := ih hr
      rw [List.append_assoc] at hrest
      exact Drains.opened harrive hopen hrest
  | cut harrive => exact Drains.cut harrive

/-! ## Invariants of a run -/

/-- What one pop keeps. -/
structure Kept (w : Walker) (I : List Pending → State → Prop) : Prop where
  passed : ∀ {item rest s s'}, I (item :: rest) s → Arrival w item s (.ok none, s') → I rest s'
  opened : ∀ {item rest source pending s s₁ s'}, I (item :: rest) s →
    Arrival w item s (.ok (some source), s₁) → Opening w source s₁ (.ok pending, s') →
      I (pending ++ rest) s'

theorem Kept.and {I J : List Pending → State → Prop} (hI : Kept w I) (hJ : Kept w J) :
    Kept w fun pending s => I pending s ∧ J pending s where
  passed h harrive := ⟨hI.passed h.1 harrive, hJ.passed h.2 harrive⟩
  opened h harrive hopen := ⟨hI.opened h.1 harrive hopen, hJ.opened h.2 harrive hopen⟩

theorem arrival_of_run {outcome : Except Stop (Option Source) × State}
    (hrun : (w.arrive item).run s = outcome) : Arrival w item s outcome :=
  hrun ▸ arrival w item s

theorem opening_of_run {outcome : Except Stop (List Pending) × State}
    (hrun : (w.openSource source).run s = outcome) : Opening w source s outcome :=
  hrun ▸ opening w source s

/-- What one pop keeps holds until a run stops. -/
theorem Drains.ends {I : List Pending → State → Prop} (hkept : Kept w I)
    (hdrains : Drains w pending s r s') (hI : I pending s) : Ends w I r s' := by
  induction hdrains with
  | done s => exact Ends.done hI
  | halted harrive => exact Ends.halted hI (arrival_of_run harrive)
  | passed harrive _ ih => exact ih (hkept.passed hI (arrival_of_run harrive))
  | unparsable harrive hopen =>
      exact Ends.unparsable hI (arrival_of_run harrive) (opening_of_run hopen)
  | opened harrive hopen _ ih =>
      exact ih (hkept.opened hI (arrival_of_run harrive) (opening_of_run hopen))
  | cut harrive => exact Ends.cut hI (arrival_of_run harrive)

/-! ## The recursion, one level at a time -/

theorem follow_of_leads {specifier : String} {path : Path} (hleads : Leads w item specifier path)
    (descend : String → Path → ParseMode → Walk Unit) :
    w.follow descend item.importer item.name item.specifier =
      w.followTo descend item.name specifier path := by
  obtain ⟨⟨position, hitem⟩, hprovided, hscript, rfl⟩ := hleads
  rw [hitem]
  exact (if_neg (by simp [hprovided])).trans (if_neg (by simp [hscript]))

theorem run_follow_of_new {specifier : String} {path : Path} {rule : CompiledRule}
    (hleads : Leads w item specifier path) (hnew : path ∉ s.visited)
    (hrule : CompiledRule.find? w.rules path = some rule)
    (descend : String → Path → ParseMode → Walk Unit) :
    (w.follow descend item.importer item.name item.specifier).run s =
      (w.load descend path rule.kind).run (s.visit path) := by
  rw [follow_of_leads hleads, Walker.followTo, run_bind_ok s (run_enter_of_not_mem s hnew),
    if_pos rfl, hrule]

theorem run_load_of_error {path : Path} {kind : ContentKind} {cause : RuntimeError}
    (hread : w.runtime.readFile path = .error cause)
    (descend : String → Path → ParseMode → Walk Unit) :
    (w.load descend path kind).run s =
      (.error (.failed (.readFailure path cause)),
        s.note [.matchedRule path kind, .read path]) := by
  rw [Walker.load, run_bind_ok s (run_log s _), run_bind, run_read _ hread, State.note_note]
  rfl

theorem run_load_of_asset {path : Path} {kind : ContentKind} {bytes : Bytes}
    (hread : w.runtime.readFile path = .ok bytes) (hkind : kind.parseMode? = none)
    (descend : String → Path → ParseMode → Walk Unit) :
    (w.load descend path kind).run s =
      (.ok (), (s.note [.matchedRule path kind, .read path,
        .discoveredAsset (moduleName w.root path) kind]).add
          ⟨moduleName w.root path, .ofBytes kind bytes⟩) := by
  rw [Walker.load, run_bind_ok s (run_log s _), run_bind_ok _ (run_read _ hread),
    State.note_note]
  cases kind with
  | esModule | commonJs => simp [ContentKind.parseMode?] at hkind
  | text | data | compiledWasm | pythonModule | pythonRequirement =>
      dsimp only
      rw [run_bind_ok _ (run_log _ _), State.note_note]
      rfl

theorem run_load_of_source {path : Path} {kind : ContentKind} {bytes : Bytes} {mode : ParseMode}
    (hread : w.runtime.readFile path = .ok bytes) (hkind : kind.parseMode? = some mode)
    (descend : String → Path → ParseMode → Walk Unit) :
    (w.load descend path kind).run s =
      (descend (Utf8.decodeLossy bytes) path mode).run
        (s.note [.matchedRule path kind, .read path]) := by
  rw [Walker.load, run_bind_ok s (run_log s _), run_bind_ok _ (run_read _ hread),
    State.note_note]
  cases kind with
  | esModule | commonJs =>
      obtain rfl := Option.some.inj hkind
      rfl
  | text | data | compiledWasm | pythonModule | pythonRequirement =>
      simp [ContentKind.parseMode?] at hkind

/-- Following a specifier is arriving at its target and descending into a source. -/
theorem run_follow (w : Walker) (descend : String → Path → ParseMode → Walk Unit)
    (item : Pending) (s : State) :
    (w.follow descend item.importer item.name item.specifier).run s =
      match (w.arrive item).run s with
      | (.ok none, s₁) => (.ok (), s₁)
      | (.ok (some source), s₁) => (descend source.text source.path source.mode).run s₁
      | (.error stop, s₁) => (.error stop, s₁) := by
  have harrive := arrival w item s
  generalize (w.arrive item).run s = outcome at harrive
  cases harrive with
  | dynamic position hitem =>
      rw [hitem]
      rfl
  | provided specifier position hitem hprovided =>
      rw [hitem, Walker.follow, Walker.followLiteral, if_pos hprovided]
      rfl
  | script specifier position hitem hprovided hscript =>
      rw [hitem, Walker.follow, Walker.followLiteral, if_neg (by simp [hprovided]), if_pos hscript]
      rfl
  | visited specifier path hleads hvisited =>
      rw [follow_of_leads hleads, Walker.followTo, run_bind_ok s (run_enter_of_mem s hvisited)]
      rfl
  | unmatched specifier path hleads hnew hrule =>
      rw [follow_of_leads hleads, Walker.followTo, run_bind_ok s (run_enter_of_not_mem s hnew),
        if_pos rfl, hrule]
      rfl
  | unreadable specifier path rule cause hleads hnew hrule hread =>
      rw [run_follow_of_new hleads hnew hrule, run_load_of_error hread]
  | asset specifier path rule bytes hleads hserved hkind =>
      rw [run_follow_of_new hleads hserved.is_new hserved.rule_eq,
        run_load_of_asset hserved.read_eq hkind]
  | source specifier path rule bytes mode hleads hserved hkind =>
      rw [run_follow_of_new hleads hserved.is_new hserved.rule_eq,
        run_load_of_source hserved.read_eq hkind]

/-- Specifiers followed one after the other, each to its end. -/
def followAll (w : Walker) (depth : ℕ) : List Pending → State → Except Stop Unit × State
  | [], s => (.ok (), s)
  | item :: rest, s =>
    match (w.follow (w.visitModule depth) item.importer item.name item.specifier).run s with
    | (.ok (), s₁) => followAll w depth rest s₁
    | (.error stop, s₁) => (.error stop, s₁)

theorem run_forIn_follow (w : Walker) (depth : ℕ) (path : Path) (specifiers : List Specifier)
    (s : State) :
    (do
      for specifier in specifiers do
        w.follow (w.visitModule depth) path (moduleName w.root path) specifier : Walk Unit).run s =
      followAll w depth (w.pendingOf path specifiers) s := by
  -- the loop ends in a `pure`, which the bind behind it takes up again
  induction specifiers generalizing s with
  | nil => rfl
  | cons specifier specifiers ih =>
      rw [Walker.pendingOf, List.map_cons, followAll, run_bind, List.forIn_cons, run_bind, run_bind]
      cases (w.follow (w.visitModule depth) path (moduleName w.root path) specifier).run s with
      | mk outcome s₁ =>
          cases outcome with
          | error stop => rfl
          | ok =>
              have hrest := ih s₁
              rw [run_bind] at hrest
              exact hrest

/-- A source is visited by opening it and following what is pending then. -/
theorem run_visitModule_succ (w : Walker) (depth : ℕ) (source : Source) (s : State) :
    (w.visitModule (depth + 1) source.text source.path source.mode).run s =
      match (w.openSource source).run s with
      | (.ok pending, s₁) => followAll w depth pending s₁
      | (.error stop, s₁) => (.error stop, s₁) := by
  have hopen := opening w source s
  generalize (w.openSource source).run s = outcome at hopen
  rw [Walker.visitModule]
  cases hopen with
  | unparsable failure hparse =>
      rw [Walker.stamped] at hparse
      rw [run_bind, run_parse s hparse]
      rfl
  | parsed specifiers hparse =>
      rw [Walker.stamped] at hparse
      rw [run_bind_ok s (run_parse s hparse _ _), run_bind_ok _ (run_log _ _), State.note_note,
        run_bind_ok _ (run_record _ _)]
      exact run_forIn_follow w depth source.path specifiers _

/-! ## The recursion as a run of the stack -/

theorem drains_followAll {depth : ℕ}
    (hvisits : ∀ source s, Visits w source s
      ((w.visitModule depth source.text source.path source.mode).run s))
    (pending : List Pending) (s : State) :
    Drains w pending s (followAll w depth pending s).1 (followAll w depth pending s).2 := by
  induction pending generalizing s with
  | nil => exact Drains.done s
  | cons item rest ih =>
      rw [followAll, run_follow]
      cases harrive : (w.arrive item).run s with
      | mk outcome s₁ =>
          cases outcome with
          | error stop => exact Drains.halted harrive
          | ok arrived =>
              cases arrived with
              | none => exact Drains.passed harrive (ih s₁)
              | some source =>
                  -- the module is walked to its end before what stands behind it
                  dsimp only
                  have hvisit := hvisits source s₁
                  generalize (w.visitModule depth source.text source.path source.mode).run s₁ =
                    result at hvisit
                  cases hvisit with
                  | cut => exact Drains.cut harrive
                  | unparsable hopen => exact Drains.unparsable harrive hopen
                  | @opened pending s₂ s₃ r hopen hdrains =>
                      cases r with
                      | error stop =>
                          exact Drains.opened harrive hopen (hdrains.append_error rfl)
                      | ok =>
                          exact Drains.opened harrive hopen (hdrains.append_ok rfl (ih s₃))

/-- Whatever its bound, the recursion opens its source and drains what is pending
then, unless the bound cuts it off. -/
theorem visits (w : Walker) (depth : ℕ) (source : Source) (s : State) :
    Visits w source s ((w.visitModule depth source.text source.path source.mode).run s) := by
  induction depth generalizing source s with
  | zero => exact Visits.cut
  | succ depth ih =>
      rw [run_visitModule_succ]
      cases hopen : (w.openSource source).run s with
      | mk outcome s₁ =>
          cases outcome with
          | error stop => exact Visits.unparsable hopen
          | ok pending => exact Visits.opened hopen (drains_followAll ih pending s₁)

/-! ## Walking from an entrypoint -/

theorem run_visitWithin_of_new (bound : ℕ) (code : String) {path target : Path}
    (habs : w.absolutize path = .ok target) (hnew : target ∉ s.visited) :
    (w.visitWithin bound code path).run s =
      (w.visitModule bound code target .module).run (s.visit target) := by
  rw [Walker.visitWithin, habs]
  dsimp only
  rw [run_bind_ok s (run_enter_of_not_mem s hnew), if_pos rfl]

theorem run_visitWithin_of_mem (bound : ℕ) (code : String) {path target : Path}
    (habs : w.absolutize path = .ok target) (hvisited : target ∈ s.visited) :
    (w.visitWithin bound code path).run s =
      (.ok (), s.note [.entrypointAlreadyVisited target]) := by
  rw [Walker.visitWithin, habs]
  dsimp only
  rw [run_bind_ok s (run_enter_of_mem s hvisited)]
  rfl

theorem run_visitWithin_of_error (bound : ℕ) (code : String) {path : Path} {e : ModuleError}
    (habs : w.absolutize path = .error e) :
    (w.visitWithin bound code path).run s = (.error (.failed e), s) := by
  rw [Walker.visitWithin, habs]
  rfl

/-- Walking from an entrypoint within a bound that lets the entrypoint itself be opened. -/
theorem entry_within (w : Walker) (bound : ℕ) (code : String) (path : Path) (s : State) :
    Entry w code path s ((w.visitWithin (bound + 1) code path).run s) := by
  cases habs : w.absolutize path with
  | error e =>
      rw [run_visitWithin_of_error _ code habs]
      exact Entry.unresolved habs
  | ok target =>
      by_cases hvisited : target ∈ s.visited
      · rw [run_visitWithin_of_mem _ code habs hvisited]
        exact Entry.visited habs hvisited
      · rw [run_visitWithin_of_new _ code habs hvisited,
          run_visitModule_succ w _ ⟨code, target, .module⟩]
        cases hopen : (w.openSource ⟨code, target, .module⟩).run (s.visit target) with
        | mk outcome s₁ =>
            cases outcome with
            | error stop => exact Entry.unparsable habs hvisited hopen
            | ok pending =>
                exact Entry.opened habs hvisited hopen
                  (drains_followAll (visits w _) pending s₁)

theorem entry (w : Walker) (code : String) (path : Path) (s : State) :
    Entry w code path s ((w.visitEntrypoint code path).run s) :=
  entry_within w w.runtime.served.length code path s

/-- A success within any bound is one of the outcomes, since a bound that does not let the
entrypoint be opened has none. -/
theorem entry_of_ok {bound : ℕ} {code : String} {path : Path}
    (hrun : (w.visitWithin bound code path).run s = (.ok (), s')) :
    Entry w code path s (.ok (), s') := by
  cases bound with
  | succ bound => exact hrun ▸ entry_within w bound code path s
  | zero =>
      cases habs : w.absolutize path with
      | error e =>
          rw [run_visitWithin_of_error 0 code habs] at hrun
          cases hrun
      | ok target =>
          by_cases hvisited : target ∈ s.visited
          · rw [run_visitWithin_of_mem 0 code habs hvisited] at hrun
            cases hrun
            exact Entry.visited habs hvisited
          · rw [run_visitWithin_of_new 0 code habs hvisited] at hrun
            cases hrun

/-- A new entrypoint cannot be parsed, or what one pop keeps, and what is pending in the
entrypoint starts, holds until the walk stops. -/
theorem Entry.ends {I : List Pending → State → Prop} {code : String} {path target : Path}
    {outcome : Except Stop Unit × State} (hentry : Entry w code path s outcome)
    (hkept : Kept w I) (habs : w.absolutize path = .ok target) (hnew : target ∉ s.visited)
    (hopened : ∀ pending s₁, Opening w ⟨code, target, .module⟩ (s.visit target)
      (.ok pending, s₁) → I pending s₁) :
    Ends w I outcome.1 outcome.2 ∨ ∃ stop, outcome.1 = .error stop ∧
      Opening w ⟨code, target, .module⟩ (s.visit target) (.error stop, outcome.2) := by
  cases hentry with
  | unresolved habs' => cases habs.symm.trans habs'
  | visited habs' hvisited =>
      obtain rfl := Except.ok.inj (habs.symm.trans habs')
      exact absurd hvisited hnew
  | unparsable habs' _ hopen =>
      obtain rfl := Except.ok.inj (habs.symm.trans habs')
      exact Or.inr ⟨_, rfl, opening_of_run hopen⟩
  | opened habs' _ hopen hdrains =>
      obtain rfl := Except.ok.inj (habs.symm.trans habs')
      exact Or.inl (hdrains.ends hkept (hopened _ _ (opening_of_run hopen)))

end Walk

end ModuleDiscovery
