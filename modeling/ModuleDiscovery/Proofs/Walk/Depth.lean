import Mathlib.Data.Finset.Card
import ModuleDiscovery.Proofs.Path.Clean
import ModuleDiscovery.Proofs.Walk.Progress

/-!
# The bound on the depth is never reached

When the runtime lists its files, every source that a walk arrives at uses up one of
the listed files that are still unvisited, and nothing brings one back.  The walk
allows itself one level more than there are listed files, so it is not cut off
(`visitEntrypoint_ne_tooDeep`).

`remaining` is that measure.  It is also what a run of the stack decreases.

What uses up a part with every source and never grows is a `Budget`.  A recursion that
is cut off has used up as much of any budget as its bound
(`Budget.visitModule_tooDeep`).  The length of the list of visited paths is one more
budget, for which nothing has to be listed.
-/

namespace ModuleDiscovery

/-- A map of files lists every file that it serves. -/
theorem Runtime.finitelyServed_ofFiles (cwd : Except RuntimeError Path)
    (files : List (Path × Except String Bytes)) : (Runtime.ofFiles cwd files).FinitelyServed := by
  intro path bytes _ hread
  cases hlookup : lookup? files path with
  | none => simp [ofFiles, hlookup] at hread
  | some contents =>
      obtain ⟨file, hfind, -⟩ := Option.map_eq_some_iff.mp hlookup
      have hfile : file ∈ files := List.mem_of_find?_eq_some hfind
      have hsame : file.1.segments = path.segments := by
        simpa using List.find?_some hfind
      exact ⟨file.1, List.mem_map_of_mem hfile, hsame⟩

/-- A walker of two files that refer to themselves and to each other. -/
def Walker.circle : Walker where
  runtime := .ofFiles (.ok "/") [("/a.js", .ok []), ("/b.js", .ok [])]
  parser := fun _ _ => .ok [.literal "./a.js" ⟨1, 1⟩, .literal "./b.js" ⟨2, 1⟩]
  root := "/"
  rules := [⟨.esModule, [⟨"*", [.anySequence]⟩]⟩]
  nodeCompat := .none
  external := []

theorem Walker.isAbsolute_cwd_circle :
    ∀ dir, Walker.circle.runtime.cwd = .ok dir → dir.isAbsolute := by
  intro dir hdir
  obtain rfl := Except.ok.inj hdir
  decide

theorem Walker.finitelyServed_circle : Walker.circle.runtime.FinitelyServed :=
  Runtime.finitelyServed_ofFiles _ _

namespace Walk

/-- The listed files that have not been visited. -/
def remaining (w : Walker) (s : State) : Finset Path :=
  (w.runtime.served.map Path.clean).toFinset \ s.visited.toFinset

variable {w : Walker} {item : Pending} {pending : List Pending} {source : Source}
  {s s₁ s' : State} {stop : Stop}

/-! ## The measure -/

theorem mem_remaining {p : Path} :
    p ∈ remaining w s ↔ (∃ listed ∈ w.runtime.served, listed.clean = p) ∧ p ∉ s.visited := by
  simp [remaining]

theorem card_remaining_le (w : Walker) (s : State) :
    (remaining w s).card ≤ w.runtime.served.length := by
  calc (remaining w s).card
      ≤ (w.runtime.served.map Path.clean).toFinset.card :=
        Finset.card_le_card Finset.sdiff_subset
    _ ≤ (w.runtime.served.map Path.clean).length := List.toFinset_card_le _
    _ = w.runtime.served.length := List.length_map _

theorem card_remaining_mono (hvisited : s.visited ⊆ s'.visited) :
    (remaining w s').card ≤ (remaining w s).card := by
  refine Finset.card_le_card fun p hp => ?_
  rw [mem_remaining] at hp ⊢
  exact ⟨hp.1, fun hmem => hp.2 (hvisited hmem)⟩

theorem clean_resolve (importer : Path) (specifier : String) :
    (Walker.resolve importer specifier).clean = Walker.resolve importer specifier :=
  Path.clean_clean _

/-- A source is one of the listed files, and it was unvisited. -/
theorem Arrival.card_remaining_lt (hfinite : w.runtime.FinitelyServed)
    (harrive : Arrival w item s (.ok (some source), s')) :
    (remaining w s').card < (remaining w s).card := by
  cases harrive with
  | source specifier path rule bytes mode hleads hserved =>
      have hclean : path.clean = path := by
        rw [hleads.path_eq, clean_resolve]
      obtain ⟨listed, hlisted, hsame⟩ := hfinite path bytes hclean hserved.read_eq
      have hbefore : path ∈ remaining w s :=
        mem_remaining.mpr ⟨⟨listed, hlisted, hsame.clean_eq.trans hclean⟩, hserved.is_new⟩
      -- the path of the source is what `s'` has no longer
      refine Finset.card_lt_card ⟨fun p hp => ?_, fun hsubset => ?_⟩
      · rw [mem_remaining] at hp ⊢
        exact ⟨hp.1, fun hmem => hp.2 (by simp [hmem])⟩
      · have hafter := mem_remaining.mp (hsubset hbefore)
        exact hafter.2 (by simp)

/-! ## The steps fail with an error of the walk -/

theorem Arrival.exists_failed (harrive : Arrival w item s (.error stop, s')) :
    ∃ e, stop = .failed e := by
  cases harrive <;> exact ⟨_, rfl⟩

theorem Opening.exists_failed (hopen : Opening w source s (.error stop, s')) :
    ∃ e, stop = .failed e := by
  cases hopen with
  | unparsable => exact ⟨_, rfl⟩

/-! ## The depth of the recursion -/

/-- A quantity that a visit to a source uses up, and that never grows. -/
structure Budget (w : Walker) (left : State → ℤ) : Prop where
  mono : ∀ {s s' : State}, s.visited <+: s'.visited → left s' ≤ left s
  spent : ∀ {item source s s'}, Arrival w item s (.ok (some source), s') → left s' < left s

theorem budget_remaining (hfinite : w.runtime.FinitelyServed) :
    Budget w fun s => (remaining w s).card where
  mono hvisited := by exact_mod_cast card_remaining_mono hvisited.subset
  spent harrive := by exact_mod_cast harrive.card_remaining_lt hfinite

/-- Every visit makes the list of visited paths longer. -/
theorem budget_visits (w : Walker) : Budget w fun s => -(s.visited.length : ℤ) where
  mono hvisited := by
    have hle := hvisited.length_le
    omega
  spent {item source s s'} harrive := by
    have hlength : s'.visited.length = s.visited.length + 1 := by
      cases harrive with
      | source => simp
    omega

variable {left : State → ℤ} {depth : ℕ}

theorem Budget.followAll_tooDeep (hbudget : Budget w left)
    (hvisit : ∀ (source : Source) (s : State),
      ((w.visitModule depth source.text source.path source.mode).run s).1 = .error .tooDeep →
        left ((w.visitModule depth source.text source.path source.mode).run s).2 + depth ≤ left s)
    (hcut : (followAll w depth pending s).1 = .error .tooDeep) :
    left (followAll w depth pending s).2 + depth < left s := by
  induction pending generalizing s with
  | nil => cases hcut
  | cons item rest ih =>
      rw [followAll, run_follow] at hcut ⊢
      cases harrived : (w.arrive item).run s with
      | mk outcome s₁ =>
          have harrive := arrival_of_run harrived
          have hle : left s₁ ≤ left s := hbudget.mono harrive.progress.visited.isPrefix
          rw [harrived] at hcut
          cases outcome with
          | error stop =>
              obtain ⟨e, rfl⟩ := harrive.exists_failed
              cases hcut
          | ok arrived =>
              cases arrived with
              | none => exact (ih hcut).trans_le hle
              | some source =>
                  -- the source has used up a part, and what is behind it has no more
                  have hlt := hbudget.spent harrive
                  have hdescend := hvisit source s₁
                  have hvisited := (visits w depth source s₁).isPrefix
                  dsimp only at hcut ⊢
                  generalize (w.visitModule depth source.text source.path source.mode).run s₁ =
                    result at hcut hdescend hvisited ⊢
                  rcases result with ⟨stop | _, s₂⟩
                  · exact (hdescend hcut).trans_lt hlt
                  · exact (ih hcut).trans_le ((hbudget.mono hvisited).trans hle)

/-- A recursion that is cut off has used up as much as its bound. -/
theorem Budget.visitModule_tooDeep (hbudget : Budget w left) (depth : ℕ) (source : Source)
    (s : State)
    (hcut : ((w.visitModule depth source.text source.path source.mode).run s).1 =
      .error .tooDeep) :
    left ((w.visitModule depth source.text source.path source.mode).run s).2 + depth ≤ left s := by
  induction depth generalizing source s with
  | zero => exact (Int.add_zero _).le
  | succ depth ih =>
      rw [run_visitModule_succ] at hcut ⊢
      cases hopen : (w.openSource source).run s with
      | mk outcome s₁ =>
          have hopening := opening_of_run hopen
          rw [hopen] at hcut
          cases outcome with
          | error stop =>
              obtain ⟨e, rfl⟩ := hopening.exists_failed
              cases hcut
          | ok pending =>
              have hle : left s₁ ≤ left s :=
                hbudget.mono (hopening.changes.1 ▸ List.prefix_rfl)
              have hlt := hbudget.followAll_tooDeep ih hcut
              push_cast
              omega

/-- A walk of a runtime that lists its files is not cut off. -/
theorem visitEntrypoint_ne_tooDeep (hfinite : w.runtime.FinitelyServed) (code : String)
    (path : Path) (s : State) :
    ((w.visitEntrypoint code path).run s).1 ≠ .error .tooDeep := by
  rw [Walker.visitEntrypoint]
  cases w.absolutize path with
  | error e => simp [run_fail]
  | ok target =>
      dsimp only
      by_cases hvisited : target ∈ s.visited
      · rw [run_bind_ok s (run_enter_of_mem s hvisited)]
        simp [run_log]
      · rw [run_bind_ok s (run_enter_of_not_mem s hvisited), if_pos rfl]
        intro hcut
        have hspent :=
          (budget_remaining hfinite).visitModule_tooDeep _ ⟨code, target, .module⟩ _ hcut
        have hfiles := card_remaining_le w (s.visit target)
        rw [Walker.depthBound] at hspent
        push_cast at hspent
        omega

end Walk

end ModuleDiscovery
