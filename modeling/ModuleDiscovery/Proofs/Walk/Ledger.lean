import ModuleDiscovery.Proofs.Walk.Calls
import ModuleDiscovery.Proofs.Walk.Reach

/-!
# The books of a walk

A path is visited before its file is looked at, and recorded once the file turns out
to be in order.  So when a call fails over a file, the path of that file stays behind
without a record, and the walker that goes on from there passes it by.  This file
keeps books on that, over any sequence of calls.

## Strategy

Between two pops every visited path has its record, in the order of the visits
(`Balanced`), apart from what an earlier call has lost.  Only a pop that stops the
call can visit a path without recording it, and it says so by its error (`Blame`).
Hence the visits and the records of one call can be put side by side
(`Walker.page`): they match to the end, or the last visit is left over.  The pages of
a sequence make up its ledger.

## Main results

* `ledger_balances`: in the ledger of a sequence each record stands against its own
  path, and the paths without a record are those that the failed calls lost, one for
  each call.
-/

namespace ModuleDiscovery

open Walk

/-! ## The ledger -/

namespace Walk

/-- A visited path, with the module that was recorded for it. -/
abbrev Posting := Path × Option WorkerModule

/-- Whether a call that stops in this way leaves a path without a record.  A call that
is cut off does, but none is when the runtime lists its files. -/
def Stop.losesPath : Stop → Bool
  | .failed (.parseFailure ..) => true
  | .failed (.noMatchingRule ..) => true
  | .failed (.readFailure ..) => true
  | .failed (.dynamicSpecifier ..) => false
  | .failed (.stringScriptImport ..) => false
  | .tooDeep => true

end Walk

namespace Walker

/-- Whether a call leaves a path without a record.  A working directory that cannot be
had is reported as a path that cannot be read, but nothing has been visited then. -/
def loses (w : Walker) (s : State) (call : String × Path) : Bool :=
  match w.absolutize call.2, ((w.visitEntrypoint call.1 call.2).run s).1 with
  | .ok _, .error stop => stop.losesPath
  | _, _ => false

/-- How many calls of a sequence leave a path without a record. -/
def losses (w : Walker) : List (String × Path) → State → ℕ
  | [], _ => 0
  | call :: calls, s => (if w.loses s call then 1 else 0) + w.losses calls (w.stateAfter s call)

/-- The paths that a call visits, in order, each with its record.  A path that is left
over has none. -/
def page (w : Walker) (s : State) (call : String × Path) : List Posting :=
  let s' := w.stateAfter s call
  (s'.visited.drop s.visited.length).zip ((s'.modules.drop s.modules.length).map some ++ [none])

/-- The pages of a sequence of calls. -/
def ledger (w : Walker) : List (String × Path) → State → List Posting
  | [], _ => []
  | call :: calls, s => w.page s call ++ w.ledger calls (w.stateAfter s call)

end Walker

namespace Walk

variable {w : Walker} {code : String} {entry p q : Path} {m : WorkerModule}
  {postings : List Posting} {item : Pending} {rest pending : List Pending} {source : Source}
  {call : String × Path} {calls : List (String × Path)} {s₀ s s₁ s' : State} {stop : Stop}
  {r : Except Stop Unit}

/-- What is wrong with a path when a call stops. -/
inductive Blame (w : Walker) (p : Path) : Stop → Prop
  | unparsable (source : Source) (failure : ParseFailure) (hpath : source.path = p)
      (hparse : w.parser (Walker.stamped source) source.mode = .error failure) :
      Blame w p (.failed (.parseFailure (moduleName w.root p) failure.text failure.location))
  | unmatched (importer : Path) (specifier : String) (hpath : p = Walker.resolve importer specifier)
      (hrule : CompiledRule.find? w.rules p = none) :
      Blame w p (.failed (.noMatchingRule (moduleName w.root importer) specifier
        (NodeCompat.isBuiltin specifier)))
  | unreadable (cause : RuntimeError) (hread : w.runtime.readFile p = .error cause) :
      Blame w p (.failed (.readFailure p cause))
  /-- The bound on the depth was reached. -/
  | cut : Blame w p .tooDeep

theorem Blame.losesPath (hblame : Blame w p stop) : stop.losesPath = true := by
  cases hblame <;> rfl

/-! ## Postings of a call -/

/-- No path is left over. -/
def Full (postings : List Posting) : Prop :=
  ∀ posting ∈ postings, posting.2.isSome

/-- What a call that started in `s₀` has visited and recorded by the time of `s`. -/
structure Posted (w : Walker) (code : String) (entry : Path) (s₀ s : State)
    (postings : List Posting) : Prop where
  visited : s.visited = s₀.visited ++ postings.map Prod.fst
  modules : s.modules = s₀.modules ++ postings.filterMap Prod.snd
  stands : ∀ p m, (p, some m) ∈ postings → recordAt? w code entry p = some m

theorem full_nil : Full [] := by
  intro posting hposting
  cases hposting

theorem Full.concat (hfull : Full postings) (p : Path) (m : WorkerModule) :
    Full (postings ++ [(p, some m)]) := by
  intro posting hposting
  rcases List.mem_append.mp hposting with h | h
  · exact hfull posting h
  · rw [List.mem_singleton.mp h]
    rfl

theorem Posted.congr (hposted : Posted w code entry s₀ s postings)
    (hvisited : s'.visited = s.visited) (hmodules : s'.modules = s.modules) :
    Posted w code entry s₀ s' postings :=
  ⟨hvisited.trans hposted.visited, hmodules.trans hposted.modules, hposted.stands⟩

/-- One more path is visited, and recorded or not. -/
theorem Posted.concat {record : Option WorkerModule} (hposted : Posted w code entry s₀ s postings)
    (hvisited : s'.visited = s.visited ++ [p]) (hmodules : s'.modules = s.modules ++ record.toList)
    (hrecord : ∀ m ∈ record, recordAt? w code entry p = some m) :
    Posted w code entry s₀ s' (postings ++ [(p, record)]) where
  visited := by simp [hvisited, hposted.visited]
  modules := by cases record <;> simp [hmodules, hposted.modules]
  stands q n hmem := by
    rcases List.mem_append.mp hmem with h | h
    · exact hposted.stands q n h
    · obtain ⟨rfl, rfl⟩ : q = p ∧ some n = record := by simpa using h
      exact hrecord n rfl

/-! ## The invariant of a call -/

/-- An arrival that leads to a source has visited it and recorded nothing. -/
theorem Arrival.visit_source (harrive : Arrival w item s (.ok (some source), s')) :
    s'.visited = s.visited ++ [source.path] ∧ s'.modules = s.modules := by
  cases harrive with
  | source => exact ⟨rfl, rfl⟩

/-- All that the call has visited so far is recorded. -/
structure Balanced (w : Walker) (code : String) (entry : Path) (s₀ s : State) : Prop where
  entry_mem : entry ∈ s.visited
  posted : ∃ postings, Full postings ∧ Posted w code entry s₀ s postings

theorem Balanced.congr (hbalanced : Balanced w code entry s₀ s)
    (hvisited : s'.visited = s.visited) (hmodules : s'.modules = s.modules) :
    Balanced w code entry s₀ s' := by
  obtain ⟨hentry, postings, hfull, hposted⟩ := hbalanced
  exact ⟨hvisited ▸ hentry, postings, hfull, hposted.congr hvisited hmodules⟩

theorem Balanced.record (hbalanced : Balanced w code entry s₀ s)
    (hvisited : s'.visited = s.visited ++ [p]) (hmodules : s'.modules = s.modules ++ [m])
    (hrecord : recordAt? w code entry p = some m) : Balanced w code entry s₀ s' := by
  obtain ⟨hentry, postings, hfull, hposted⟩ := hbalanced
  refine ⟨by simp [hvisited, hentry], postings ++ [(p, some m)], hfull.concat p m, ?_⟩
  exact hposted.concat hvisited hmodules (by simpa using hrecord)

theorem Balanced.passed (hbalanced : Balanced w code entry s₀ s)
    (harrive : Arrival w item s (.ok none, s')) : Balanced w code entry s₀ s' := by
  cases harrive with
  | provided | visited => exact hbalanced.congr rfl rfl
  | asset specifier path rule bytes hleads hserved hkind =>
      have hsource : sourceAt? w code entry path = none := by
        rw [hserved.sourceAt?_eq hbalanced.entry_mem, hkind, Option.map_none]
      exact hbalanced.record (by simp) (by simp)
        (recordAt?_of_asset hsource hserved.rule_eq hserved.read_eq)

theorem Balanced.opened (hbalanced : Balanced w code entry s₀ s)
    (harrive : Arrival w item s (.ok (some source), s₁))
    (hopen : Opening w source s₁ (.ok pending, s')) : Balanced w code entry s₀ s' := by
  have hsource : sourceAt? w code entry source.path = some source :=
    harrive.sourceAt?_eq hbalanced.entry_mem
  obtain ⟨hvisited, hmodules⟩ := harrive.visit_source
  cases hopen with
  | parsed =>
      exact hbalanced.record (by simpa using hvisited) (by simp [hmodules])
        (recordAt?_of_source hsource)

theorem kept_balanced (w : Walker) (code : String) (entry : Path) (s₀ : State) :
    Kept w fun _ s => Balanced w code entry s₀ s where
  passed hbalanced harrive := hbalanced.passed harrive
  opened hbalanced harrive hopen := hbalanced.opened harrive hopen

/-- How the postings of a call go with its result. -/
inductive Closed (w : Walker) : Except Stop Unit → List Posting → Prop
  | full {r : Except Stop Unit} {postings : List Posting} (hfull : Full postings)
      (hkeeps : ∀ stop, r = .error stop → stop.losesPath = false) : Closed w r postings
  | short {postings : List Posting} {p : Path} {stop : Stop} (hfull : Full postings)
      (hblame : Blame w p stop) : Closed w (.error stop) (postings ++ [(p, none)])

/-- The postings of a call that has come to its end. -/
def Books (w : Walker) (code : String) (entry : Path) (s₀ : State) (r : Except Stop Unit)
    (s : State) : Prop :=
  ∃ postings, Posted w code entry s₀ s postings ∧ Closed w r postings

theorem Balanced.books (hbalanced : Balanced w code entry s₀ s)
    (hkeeps : ∀ stop, r = .error stop → stop.losesPath = false) : Books w code entry s₀ r s := by
  obtain ⟨-, postings, hfull, hposted⟩ := hbalanced
  exact ⟨postings, hposted, Closed.full hfull hkeeps⟩

theorem Balanced.books_short (hbalanced : Balanced w code entry s₀ s)
    (hvisited : s'.visited = s.visited ++ [p]) (hmodules : s'.modules = s.modules)
    (hblame : Blame w p stop) : Books w code entry s₀ (.error stop) s' := by
  obtain ⟨-, postings, hfull, hposted⟩ := hbalanced
  have hlost : Posted w code entry s₀ s' (postings ++ [(p, none)]) :=
    hposted.concat hvisited (by simpa using hmodules) (by simp)
  exact ⟨_, hlost, Closed.short hfull hblame⟩

theorem Opening.blame (hopen : Opening w source s (.error stop, s')) :
    Blame w source.path stop := by
  cases hopen with
  | unparsable failure hparse => exact Blame.unparsable source failure rfl hparse

theorem Balanced.halted (hwaiting : Waiting w (item :: rest) s)
    (hbalanced : Balanced w code entry s₀ s) (harrive : Arrival w item s (.error stop, s')) :
    Books w code entry s₀ (.error stop) s' := by
  obtain ⟨-, hname⟩ := hwaiting.head
  cases harrive with
  | dynamic | script =>
      refine hbalanced.books fun stop hstop => ?_
      obtain rfl := Except.error.inj hstop
      rfl
  | unmatched specifier path hleads hnew hrule =>
      -- the error names the importer, and only `Waiting` knows which one that is
      rw [hname]
      exact hbalanced.books_short rfl rfl
        (Blame.unmatched item.importer specifier hleads.path_eq hrule)
  | unreadable specifier path rule cause hleads hnew hrule hread =>
      exact hbalanced.books_short rfl rfl (Blame.unreadable cause hread)

theorem Ends.books
    (hends : Ends w (fun pending s => Waiting w pending s ∧ Balanced w code entry s₀ s) r s') :
    Books w code entry s₀ r s' := by
  cases hends with
  | done hI => exact hI.2.books (by simp)
  | halted hI harrive => exact hI.2.halted hI.1 harrive
  | unparsable hI harrive hopen =>
      obtain ⟨hvisited, hmodules⟩ := harrive.visit_source
      exact hI.2.books_short (hopen.changes.1.trans hvisited)
        (hopen.modules_of_error.trans hmodules) hopen.blame
  | cut hI harrive =>
      obtain ⟨hvisited, hmodules⟩ := harrive.visit_source
      exact hI.2.books_short hvisited hmodules Blame.cut

/-! ## The page of a call -/

theorem posted_nil (w : Walker) (code : String) (entry : Path) (s : State) :
    Posted w code entry s s [] :=
  ⟨by simp, by simp, by simp⟩

theorem balanced_entered
    (hopen : Opening w ⟨code, entry, .module⟩ (s.visit entry) (.ok pending, s₁)) :
    Balanced w code entry s s₁ := by
  have hrecord : recordAt? w code entry entry = some (w.sourceModule ⟨code, entry, .module⟩) :=
    recordAt?_of_source sourceAt?_entry
  cases hopen with
  | parsed =>
      refine ⟨by simp, _, full_nil.concat entry (w.sourceModule ⟨code, entry, .module⟩), ?_⟩
      exact (posted_nil w code entry s).concat (by simp) (by simp) (by simpa using hrecord)

/-- A call whose path can be made absolute keeps its books to the end. -/
theorem books_of_absolutize (habs : w.absolutize call.2 = .ok entry) (s : State) :
    Books w call.1 entry s ((w.visitEntrypoint call.1 call.2).run s).1 (w.stateAfter s call) := by
  have hposted := posted_nil w call.1 entry s
  have hentry := Walk.entry w call.1 call.2 s
  unfold Walker.stateAfter
  generalize (w.visitEntrypoint call.1 call.2).run s = outcome at hentry ⊢
  cases hentry with
  | unresolved habs' => cases habs.symm.trans habs'
  | visited => exact ⟨[], hposted.congr rfl rfl, Closed.full full_nil (by simp)⟩
  | unparsable habs' hnew hopen =>
      obtain rfl := Except.ok.inj (habs.symm.trans habs')
      have hopening := opening_of_run hopen
      have hlost : Posted w call.1 entry s _ ([] ++ [(entry, none)]) :=
        hposted.concat hopening.changes.1 (by simpa using hopening.modules_of_error) (by simp)
      exact ⟨_, hlost, Closed.short full_nil hopening.blame⟩
  | opened habs' hnew hopen hdrains =>
      obtain rfl := Except.ok.inj (habs.symm.trans habs')
      have hopening := opening_of_run hopen
      have hkept := (kept_waiting w).and (kept_balanced w call.1 entry s)
      exact (hdrains.ends hkept
        ⟨hopening.waiting_alone (by simp), balanced_entered hopening⟩).books

/-- Visits and records side by side are the postings they come from. -/
theorem zip_visits_records (hfull : Full postings) (left : List Path) :
    (postings.map Prod.fst ++ left).zip ((postings.filterMap Prod.snd).map some ++ [none]) =
      postings ++ left.zip [none] := by
  induction postings with
  | nil => rfl
  | cons posting postings ih =>
      obtain ⟨p, record⟩ := posting
      obtain ⟨hrecord, hrest⟩ := List.forall_mem_cons.mp hfull
      obtain ⟨m, rfl⟩ := Option.isSome_iff_exists.mp hrecord
      simpa using ih hrest

theorem Closed.full_of_keeps (hclosed : Closed w r postings)
    (hkeeps : ∀ stop, r = .error stop → stop.losesPath = false) : Full postings := by
  cases hclosed with
  | full hfull => exact hfull
  | @short _ _ stop _ hblame =>
      have hlost := hkeeps stop rfl
      rw [hblame.losesPath] at hlost
      cases hlost

theorem Closed.short_of_loses (hclosed : Closed w (.error stop) postings)
    (hlost : stop.losesPath = true) :
    ∃ front p, postings = front ++ [(p, none)] ∧ Full front ∧ Blame w p stop := by
  cases hclosed with
  | full _ hkeeps =>
      rw [hkeeps stop rfl] at hlost
      cases hlost
  | @short front p _ hfull hblame => exact ⟨front, p, rfl, hfull, hblame⟩

theorem Closed.zip_eq (hclosed : Closed w r postings) :
    (postings.map Prod.fst).zip ((postings.filterMap Prod.snd).map some ++ [none]) = postings := by
  cases hclosed with
  | full hfull => simpa using zip_visits_records hfull []
  | @short postings p _ hfull =>
      -- the one visit too many meets the `none` behind the records
      simpa using zip_visits_records hfull [p]

theorem Posted.page_eq (hposted : Posted w code entry s (w.stateAfter s call) postings)
    (hclosed : Closed w r postings) : w.page s call = postings := by
  rw [Walker.page, hposted.visited, hposted.modules, List.drop_left, List.drop_left,
    hclosed.zip_eq]

theorem loses_iff (habs : w.absolutize call.2 = .ok entry) :
    w.loses s call = true ↔ ∃ stop,
      ((w.visitEntrypoint call.1 call.2).run s).1 = .error stop ∧ stop.losesPath = true := by
  rw [Walker.loses, habs]
  rcases ((w.visitEntrypoint call.1 call.2).run s).1 with stop | _ <;> simp

/-- What a call adds to the books. -/
structure Charged (w : Walker) (s : State) (call : String × Path) : Prop where
  visited : (w.stateAfter s call).visited = s.visited ++ (w.page s call).map Prod.fst
  modules : (w.stateAfter s call).modules = s.modules ++ (w.page s call).filterMap Prod.snd
  /-- Each record stands against the path that it was made for. -/
  stands : ∀ p m, (p, some m) ∈ w.page s call →
    ∃ entry, w.absolutize call.2 = .ok entry ∧ recordAt? w call.1 entry p = some m
  full : w.loses s call = false → Full (w.page s call)
  /-- The path at fault was the last one to be visited. -/
  short : w.loses s call = true → ∃ postings p stop, w.page s call = postings ++ [(p, none)] ∧
    Full postings ∧ ((w.visitEntrypoint call.1 call.2).run s).1 = .error stop ∧ Blame w p stop

theorem charged (w : Walker) (s : State) (call : String × Path) : Charged w s call := by
  cases habs : w.absolutize call.2 with
  | error e =>
      -- nothing has happened yet, so the page is empty
      have hrun : w.stateAfter s call = s := by
        rw [Walker.stateAfter, Walker.visitEntrypoint, habs]
        rfl
      have hpage : w.page s call = [] := by simp [Walker.page, hrun]
      have hloses : w.loses s call = false := by simp [Walker.loses, habs]
      exact ⟨by simp [hrun, hpage], by simp [hrun, hpage], by simp [hpage],
        fun _ => hpage ▸ full_nil, fun h => absurd h (by simp [hloses])⟩
  | ok entry =>
      obtain ⟨postings, hposted, hclosed⟩ := books_of_absolutize habs s
      obtain rfl : w.page s call = postings := hposted.page_eq hclosed
      refine ⟨hposted.visited, hposted.modules,
        fun p m hmem => ⟨entry, habs, hposted.stands p m hmem⟩, fun hloses => ?_, fun hloses => ?_⟩
      · refine hclosed.full_of_keeps fun stop hstop => ?_
        by_contra hlost
        rw [Bool.not_eq_false] at hlost
        exact absurd ((loses_iff habs).mpr ⟨stop, hstop, hlost⟩) (by simp [hloses])
      · obtain ⟨stop, hstop, hlost⟩ := (loses_iff habs).mp hloses
        rw [hstop] at hclosed
        obtain ⟨front, p, hpage, hfull, hblame⟩ := hclosed.short_of_loses hlost
        exact ⟨front, p, stop, hpage, hfull, hstop, hblame⟩

/-! ## The ledger of a sequence -/

/-- A call visits as many paths as it records, and one more if it loses one. -/
theorem Charged.length_eq (hcharged : Charged w s call) :
    (w.page s call).length =
      ((w.page s call).filterMap Prod.snd).length + (if w.loses s call then 1 else 0) := by
  cases hloses : w.loses s call with
  | false =>
      have hfull := List.filterMap_length_eq_length.mpr (hcharged.full hloses)
      simp [hfull]
  | true =>
      obtain ⟨postings, p, -, hpage, hfull, -⟩ := hcharged.short hloses
      have hlength := List.filterMap_length_eq_length.mpr hfull
      simp [hpage, hlength]

theorem ledger_append (w : Walker) (first second : List (String × Path)) (s : State) :
    w.ledger (first ++ second) s = w.ledger first s ++ w.ledger second (w.visitAll first s) := by
  induction first generalizing s with
  | nil => rfl
  | cons call first ih =>
      rw [List.cons_append, Walker.ledger, Walker.ledger, ih, List.append_assoc]
      rfl

theorem visited_visitAll (w : Walker) (calls : List (String × Path)) (s : State) :
    (w.visitAll calls s).visited = s.visited ++ (w.ledger calls s).map Prod.fst := by
  induction calls generalizing s with
  | nil => simp [Walker.visitAll, Walker.ledger]
  | cons call calls ih =>
      have hcall := (charged w s call).visited
      have hrest := ih (w.stateAfter s call)
      rw [Walker.ledger, List.map_append, ← List.append_assoc, ← hcall]
      exact hrest

theorem modules_visitAll (w : Walker) (calls : List (String × Path)) (s : State) :
    (w.visitAll calls s).modules = s.modules ++ (w.ledger calls s).filterMap Prod.snd := by
  induction calls generalizing s with
  | nil => simp [Walker.visitAll, Walker.ledger]
  | cons call calls ih =>
      have hcall := (charged w s call).modules
      have hrest := ih (w.stateAfter s call)
      rw [Walker.ledger, List.filterMap_append, ← List.append_assoc, ← hcall]
      exact hrest

theorem length_ledger (w : Walker) (calls : List (String × Path)) (s : State) :
    (w.ledger calls s).length =
      ((w.ledger calls s).filterMap Prod.snd).length + w.losses calls s := by
  induction calls generalizing s with
  | nil => rfl
  | cons call calls ih =>
      have hcall := (charged w s call).length_eq
      have hrest := ih (w.stateAfter s call)
      rw [Walker.ledger, Walker.losses, List.filterMap_append, List.length_append,
        List.length_append, hcall, hrest]
      omega

theorem stands_ledger (hmem : (p, some m) ∈ w.ledger calls s) :
    ∃ call ∈ calls, ∃ entry, w.absolutize call.2 = .ok entry ∧
      recordAt? w call.1 entry p = some m := by
  induction calls generalizing s with
  | nil => cases hmem
  | cons call calls ih =>
      rw [Walker.ledger, List.mem_append] at hmem
      rcases hmem with h | h
      · exact ⟨call, List.mem_cons_self, (charged w s call).stands p m h⟩
      · obtain ⟨other, hother, hstands⟩ := ih h
        exact ⟨other, List.mem_cons_of_mem _ hother, hstands⟩

/-- The ledger of any sequence of calls, some of which may fail, lists the visited
paths, which are distinct, and the modules.  Each module stands against a path of its
own, and was made for it.  There are as many visited paths as there are modules and
calls that lost a path.  Another call loses a path exactly if it fails over a file
(and never by being cut off, if the runtime lists its files): it then leaves one path
without a record, the last that it visits, which its error is about.  No later call
has anything to do with a path that is in the ledger. -/
theorem ledger_balances (w : Walker) (calls : List (String × Path)) :
    let s := w.visitAll calls .fresh
    let ledger := w.ledger calls .fresh
    (ledger.map Prod.fst = s.visited ∧ (s.visited.map Path.segments).Nodup ∧
      ledger.filterMap Prod.snd = s.modules ∧
      ∀ p m, (p, some m) ∈ ledger → ∃ call ∈ calls, ∃ entry,
        w.absolutize call.2 = .ok entry ∧ recordAt? w call.1 entry p = some m) ∧
    s.visited.length = s.modules.length + w.losses calls .fresh ∧
    (∀ call, Charged w s call ∧ (w.runtime.FinitelyServed →
      ((w.visitEntrypoint call.1 call.2).run s).1 ≠ .error .tooDeep)) ∧
    ∀ later, w.ledger (calls ++ later) .fresh = ledger ++ w.ledger later s ∧
      ∀ posting ∈ w.ledger later s, ∀ p ∈ s.visited, ¬ posting.1.Same p := by
  intro s ledger
  have hvisited : s.visited = ledger.map Prod.fst := visited_visitAll w calls .fresh
  have hmodules : s.modules = ledger.filterMap Prod.snd := modules_visitAll w calls .fresh
  have hdistinct : ∀ more, ((w.visitAll more .fresh).visited.map Path.segments).Nodup := by
    intro more
    obtain ⟨hnodup, hsubset⟩ := (progress_visitAll w more .fresh).visited.of_nil rfl
    exact nodup_segments hnodup hsubset (clean_fresh.visitAll more)
  refine ⟨⟨hvisited.symm, hdistinct calls, hmodules.symm, fun p m hmem => stands_ledger hmem⟩,
    ?_, fun call => ⟨charged w s call, fun hfinite =>
      visitEntrypoint_ne_tooDeep hfinite call.1 call.2 s⟩, fun later => ⟨?_, ?_⟩⟩
  · rw [hvisited, hmodules, List.length_map]
    exact length_ledger w calls .fresh
  · exact ledger_append w calls later .fresh
  · -- what is visited later on is new to the state that the calls leave behind
    intro posting hposting p hp hsame
    have hboth := hdistinct (calls ++ later)
    rw [visitAll_append, visited_visitAll, List.map_append] at hboth
    refine List.disjoint_of_nodup_append hboth (List.mem_map_of_mem hp) ?_
    rw [List.map_map]
    exact List.mem_map.mpr ⟨posting, hposting, hsame⟩

/-- One of two files is missing, which costs a path; coming back to it costs nothing. -/
theorem ledger_balances_missing :
    let w : Walker := { Walker.circle with
      runtime := .ofFiles (.ok "/") [("/a.js", .ok [])] }
    let s := w.visitAll [("", "a.js")] .fresh
    s.visited.length = s.modules.length + 1 ∧ Full (w.page s ("", "b.js")) ∧
      ((w.visitEntrypoint "" "b.js").run s).1 ≠ .error .tooDeep := by
  intro w s
  obtain ⟨-, hlength, hcall, -⟩ := ledger_balances w [("", "a.js")]
  have hlosses : w.losses [("", "a.js")] .fresh = 1 := by decide +kernel
  obtain ⟨hcharged, hcut⟩ := hcall ("", "b.js")
  refine ⟨by rw [← hlosses]; exact hlength, hcharged.full (by decide +kernel), hcut ?_⟩
  exact Runtime.finitelyServed_ofFiles _ _

end Walk

end ModuleDiscovery
