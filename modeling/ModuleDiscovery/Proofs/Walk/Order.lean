import ModuleDiscovery.Proofs.Walk.Depth

/-!
# The order of a walk

The walk is depth first, and a module is recorded before what it imports.  To make
that precise the recursion is compared with a loop (`Walker.drain`) that has no
recursion into modules at all.  It keeps a stack of pending specifiers, takes the
one on top, and puts the specifiers of a JavaScript target on top of the older ones,
in the order of the source.  Whether a target has been visited is only asked when
its specifier is taken.

## Main results

* `run_visitEntrypoint_eq_iterate`: the recursion and the loop have the same result
  and leave the same state behind: the visited paths, the modules in their order,
  and the trace, which has every read and every parse.

The loop ends because a pop either uses up a listed file or shortens the stack.
-/

namespace ModuleDiscovery

open Walk

/-! ## The loop -/

theorem Walker.run_pop (w : Walker) (item : Pending) (s : State) :
    (w.pop item).run s =
      match (w.arrive item).run s with
      | (.ok none, s₁) => (.ok [], s₁)
      | (.ok (some source), s₁) => (w.openSource source).run s₁
      | (.error stop, s₁) => (.error stop, s₁) := by
  rw [Walker.pop, run_bind]
  rcases (w.arrive item).run s with ⟨stop | _ | source, s₁⟩ <;> rfl

theorem Walker.pop_decreases {w : Walker} (hfinite : w.runtime.FinitelyServed) {item : Pending}
    {pushed : List Pending} {s s' : State} (hpop : (w.pop item).run s = (.ok pushed, s'))
    (rest : List Pending) :
    Prod.Lex (· < ·) (· < ·) ((remaining w s').card, (pushed ++ rest).length)
      ((remaining w s).card, (item :: rest).length) := by
  rw [Walker.run_pop] at hpop
  rcases harrived : (w.arrive item).run s with ⟨stop | _ | source, s₁⟩ <;> rw [harrived] at hpop
  · cases hpop
  · -- Nothing is pushed, so the stack is shorter.
    cases hpop
    have hle := card_remaining_mono (w := w) (arrival_of_run harrived).progress.subset
    rcases hle.lt_or_eq with hlt | heq
    · exact Prod.Lex.left _ _ hlt
    · rw [heq]
      exact Prod.Lex.right _ (by simp)
  · -- Whatever is pushed, a listed file has been used up.
    have hlt := (arrival_of_run harrived).card_remaining_lt hfinite
    rw [remaining, ← (opening_of_run hpop).changes.1] at hlt
    exact Prod.Lex.left _ _ hlt

/-- Takes pending specifiers from the top of a stack until none is left. -/
def Walker.drain (w : Walker) (hfinite : w.runtime.FinitelyServed) :
    List Pending → State → Except Stop Unit × State
  | [], s => (.ok (), s)
  | item :: rest, s =>
    match _hpop : (w.pop item).run s with
    | (.ok pushed, s') => w.drain hfinite (pushed ++ rest) s'
    | (.error stop, s') => (.error stop, s')
termination_by pending s => ((remaining w s).card, pending.length)
decreasing_by exact Walker.pop_decreases hfinite _hpop rest

/-- Walks the imports of an entrypoint with a stack. -/
def Walker.iterateEntrypoint (w : Walker) (hfinite : w.runtime.FinitelyServed) (code : String)
    (path : Path) (s : State) : Except Stop Unit × State :=
  match w.absolutize path with
  | .error e => (.error (.failed e), s)
  | .ok target =>
    if target ∈ s.visited then (.ok (), s.note [.entrypointAlreadyVisited target])
    else
      match (w.openSource ⟨code, target, .module⟩).run (s.visit target) with
      | (.ok pending, s') => w.drain hfinite pending s'
      | (.error stop, s') => (.error stop, s')

namespace Walk

variable {w : Walker} {hfinite : w.runtime.FinitelyServed} {item : Pending}
  {rest pending pushed : List Pending} {s s' : State} {r : Except Stop Unit}

theorem drain_cons_ok (hpop : (w.pop item).run s = (.ok pushed, s')) :
    w.drain hfinite (item :: rest) s = w.drain hfinite (pushed ++ rest) s' := by
  rw [Walker.drain]
  split
  · rename_i hpop'
    cases hpop.symm.trans hpop'
    rfl
  · rename_i hpop'
    cases hpop.symm.trans hpop'

theorem drain_cons_error {stop : Stop} (hpop : (w.pop item).run s = (.error stop, s')) :
    w.drain hfinite (item :: rest) s = (.error stop, s') := by
  rw [Walker.drain]
  split
  · rename_i hpop'
    cases hpop.symm.trans hpop'
  · rename_i hpop'
    cases hpop.symm.trans hpop'
    rfl

/-! ## The recursion and the loop agree -/

/-- A run of the stack that is not cut off is a run of the loop. -/
theorem Drains.drain_eq (hdrains : Drains w pending s r s') (hr : r ≠ .error .tooDeep) :
    w.drain hfinite pending s = (r, s') := by
  induction hdrains with
  | done s => rw [Walker.drain]
  | halted harrive =>
      apply drain_cons_error
      rw [Walker.run_pop, harrive]
  | passed harrive _ ih =>
      rw [drain_cons_ok (by rw [Walker.run_pop, harrive]), List.nil_append]
      exact ih hr
  | unparsable harrive hopen =>
      apply drain_cons_error
      rw [Walker.run_pop, harrive]
      exact hopen
  | opened harrive hopen _ ih =>
      rw [drain_cons_ok (by rw [Walker.run_pop, harrive]; exact hopen)]
      exact ih hr
  | cut => exact absurd rfl hr

theorem Entry.iterate_eq {code : String} {path : Path} (hentry : Entry w code path s (r, s'))
    (hr : r ≠ .error .tooDeep) : w.iterateEntrypoint hfinite code path s = (r, s') := by
  unfold Walker.iterateEntrypoint
  cases hentry with
  | unresolved habs => rw [habs]
  | visited habs hvisited =>
      rw [habs]
      exact if_pos hvisited
  | unparsable habs hnew hopen =>
      rw [habs]
      dsimp only
      rw [if_neg hnew, hopen]
  | opened habs hnew hopen hdrains =>
      rw [habs]
      dsimp only
      rw [if_neg hnew, hopen]
      exact hdrains.drain_eq hr

/-- From any state, the recursion does what the loop does: the result, the visited
paths, the modules and the trace are the same. -/
theorem run_visitEntrypoint_eq_iterate (w : Walker) (hfinite : w.runtime.FinitelyServed)
    (code : String) (path : Path) (s : State) :
    (w.visitEntrypoint code path).run s = w.iterateEntrypoint hfinite code path s := by
  have hentry := entry w code path s
  have hdepth := visitEntrypoint_ne_tooDeep hfinite code path s
  generalize (w.visitEntrypoint code path).run s = outcome at hentry hdepth
  obtain ⟨r, s'⟩ := outcome
  exact (hentry.iterate_eq hdepth).symm

theorem iterate_circle :
    ((Walker.circle.iterateEntrypoint Walker.finitelyServed_circle "" "a.js" .fresh).2.modules.map
      WorkerModule.name) = ["a.js", "b.js"] := by
  rw [← run_visitEntrypoint_eq_iterate]
  decide +kernel

end Walk

end ModuleDiscovery
