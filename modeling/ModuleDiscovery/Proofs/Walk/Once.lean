import ModuleDiscovery.Proofs.Walk.Calls

/-!
# A path is dealt with once

A walker may be given any number of entrypoints, and some of them may fail.  Over
the whole sequence a path is read at most once and parsed at most once, an
entrypoint that nothing had visited before is never read, and an entrypoint that
was visited before changes nothing.

Paths are compared by their segments.  All visited paths are clean, so two of them
with the same segments are the same path.

## Main results

* `visits_at_most_once`: the laws of a sequence that starts from a fresh state.
-/

namespace ModuleDiscovery

namespace Walk

variable {w : Walker} {call : String × Path} {p : Path} {s : State}

/-- An entrypoint that was not visited before is visited and not read. -/
theorem stateAfter_of_not_mem (call : String × Path) (habs : w.absolutize call.2 = .ok p)
    (hnew : p ∉ s.visited) (hread : p ∉ s.reads) :
    p ∈ (w.stateAfter s call).visited ∧ p ∉ (w.stateAfter s call).reads := by
  have hentry := entry w call.1 call.2 s
  unfold Walker.stateAfter
  generalize (w.visitEntrypoint call.1 call.2).run s = outcome at hentry ⊢
  cases hentry with
  | unresolved habs' => cases habs.symm.trans habs'
  | visited habs' hvisited =>
      obtain rfl := Except.ok.inj (habs.symm.trans habs')
      exact absurd hvisited hnew
  | unparsable habs' _ hopen =>
      obtain rfl := Except.ok.inj (habs.symm.trans habs')
      obtain ⟨hvisited, hreads, -⟩ := (opening_of_run hopen).changes
      rw [hvisited, hreads]
      exact ⟨by simp, hread⟩
  | @opened _ _ s₁ _ _ habs' _ hopen hdrains =>
      obtain rfl := Except.ok.inj (habs.symm.trans habs')
      obtain ⟨hvisited, hreads, -⟩ := (opening_of_run hopen).changes
      have hmem : p ∈ s₁.visited := by simp [hvisited]
      exact ⟨hdrains.progress.subset hmem, hdrains.progress.reads.not_mem hmem (hreads ▸ hread)⟩

/-- An entrypoint that was visited before is left alone. -/
theorem run_visitEntrypoint_of_mem (habs : w.absolutize call.2 = .ok p) (hmem : p ∈ s.visited) :
    (w.visitEntrypoint call.1 call.2).run s = (.ok (), s.note [.entrypointAlreadyVisited p]) := by
  rw [Walker.visitEntrypoint, habs]
  dsimp only
  rw [run_bind_ok s (run_enter_of_mem s hmem)]
  rfl

/-- Over any sequence of calls, some of which may fail: no path is read twice and no
path is parsed twice; the visited paths and the modules only grow; an entrypoint
that was new when it was given is never read; and an entrypoint that was visited
before, as an entrypoint or not, changes nothing. -/
theorem visits_at_most_once (w : Walker) (calls : List (String × Path)) :
    ((w.visitAll calls .fresh).reads.map Path.segments).Nodup ∧
      ((w.visitAll calls .fresh).parses.map Path.segments).Nodup ∧
      ∀ before call after, calls = before ++ call :: after →
        let s := w.visitAll before .fresh
        let outcome := (w.visitEntrypoint call.1 call.2).run s
        s.visited <+: outcome.2.visited ∧
          s.modules <+: outcome.2.modules ∧
          ∀ p, w.absolutize call.2 = .ok p →
            (p ∉ s.visited → ∀ q ∈ (w.visitAll calls .fresh).reads, ¬ q.Same p) ∧
            ((∃ q ∈ s.visited, q.Same p) →
              outcome.1 = .ok () ∧ outcome.2.visited = s.visited ∧
                outcome.2.modules = s.modules ∧ outcome.2.reads = s.reads ∧
                outcome.2.parses = s.parses) := by
  have hfresh : State.fresh.Clean := fun p hp => absurd hp List.not_mem_nil
  have hfinal : (w.visitAll calls .fresh).Clean := hfresh.visitAll calls
  have hprogress := progress_visitAll w calls .fresh
  obtain ⟨hreads, hreads_mem⟩ := hprogress.reads.of_nil rfl
  obtain ⟨hparses, hparses_mem⟩ := hprogress.parses.of_nil rfl
  refine ⟨nodup_segments hreads hreads_mem hfinal, nodup_segments hparses hparses_mem hfinal, ?_⟩
  rintro before call after rfl s outcome
  have hcall : Progress s outcome.2 := progress_visitEntrypoint w call.1 call.2 s
  refine ⟨hcall.visited.isPrefix, hcall.modules, fun p habs => ⟨?_, ?_⟩⟩
  · intro hnew q hq hsame
    have hread : p ∉ s.reads := fun hp =>
      hnew (((progress_visitAll w before .fresh).reads.of_nil rfl).2 hp)
    -- from this call on the path is visited, so nothing behind it reads the path
    obtain ⟨hvisited, hread⟩ := stateAfter_of_not_mem call habs hnew hread
    have hafter := (progress_visitAll w after (w.stateAfter s call)).reads.not_mem hvisited hread
    obtain rfl : q = p :=
      Path.eq_of_same (hfinal q (hreads_mem hq)) (clean_absolutize habs) hsame
    rw [visitAll_append] at hq
    exact hafter hq
  · rintro ⟨q, hq, hsame⟩
    obtain rfl : q = p :=
      Path.eq_of_same (hfresh.visitAll before q hq) (clean_absolutize habs) hsame
    have hrun : outcome = (.ok (), s.note [.entrypointAlreadyVisited q]) :=
      run_visitEntrypoint_of_mem habs hq
    rw [hrun]
    simp

/-- A file that was imported is given as an entrypoint, spelled in another way. -/
theorem visits_at_most_once_circle :
    ((Walker.circle.visitEntrypoint "" "/x/../b.js").run
      (Walker.circle.visitAll [("", "a.js")] .fresh)).1 = .ok () := by
  obtain ⟨-, -, hcalls⟩ := visits_at_most_once .circle [("", "a.js"), ("", "/x/../b.js")]
  obtain ⟨-, -, hpath⟩ := hcalls [("", "a.js")] ("", "/x/../b.js") [] rfl
  exact ((hpath "/b.js" (by decide +kernel)).2 ⟨"/b.js", by decide +kernel, rfl⟩).1

end Walk

end ModuleDiscovery
