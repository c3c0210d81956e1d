import ModuleDiscovery.Proofs.Walk.Nesting
import ModuleDiscovery.Proofs.Walk.Records

/-!
# Providing more specifiers

Which specifiers need no file is a matter of policy: the mode of Node.js compatibility
and the list of external specifiers.  Under a policy that provides more, a walk follows
fewer specifiers.  This file shows that nothing gets worse by that.

## Strategy

The two walks may find their modules by different imports and hence in different orders,
and in the second a module may lie deeper inside others than it did in the first, so
their runs cannot be compared step by step.  They are compared by what the entrypoint
reaches.

* **Less is reached, and it is as sound.**  The files, the rules and the parser do not
  depend on the policy, so every import that the second walk follows is one that the
  first walk followed (`Reach.of_withPolicy`, `Faulty.of_withPolicy`).
* **The second walk ends.**  A walk that is cut off has visited more paths than its bound
  says, and all of them are reached.  So the number of paths that the first walk visited
  is bound enough (`visitWithin_ne_tooDeep`).

## Main results

* `visit_withPolicy`: a walk that succeeds still does when more is provided, and then
  records nothing new.
-/

namespace ModuleDiscovery

open Walk

/-- The walker under another policy. -/
def Walker.withPolicy (w : Walker) (mode : NodeCompat) (external : List String) : Walker :=
  { w with nodeCompat := mode, external := external }

/-! ## Policies that provide more -/

namespace NodeCompat

/-- The modes that cover all that a mode covers. -/
inductive Within : NodeCompat → NodeCompat → Prop
  | refl (mode : NodeCompat) : Within mode mode
  | none (mode : NodeCompat) : Within none mode
  | als_v1 : Within als v1
  | als_v2 : Within als v2

variable {mode mode' : NodeCompat} {external external' : List String} {specifier : String}

theorem Within.covers (hmode : mode.Within mode') (hcovers : mode.covers specifier) :
    mode'.covers specifier := by
  cases hmode with
  | refl => exact hcovers
  | none => cases hcovers
  | als_v1 | als_v2 =>
      -- the one specifier of the mode on the left
      obtain rfl : specifier = asyncContextBuiltin := of_decide_eq_true hcovers
      decide +kernel

theorem isProvided_mono (hmode : mode.Within mode') (hexternal : external ⊆ external')
    (hprovided : isProvided mode external specifier) : isProvided mode' external' specifier := by
  simp only [isProvided, Bool.or_eq_true, List.contains_iff_mem] at hprovided ⊢
  exact hprovided.imp (Or.imp_right hmode.covers) fun hmem => hexternal hmem

end NodeCompat

namespace Walk

variable {w : Walker} {mode : NodeCompat} {external : List String} {code : String}
  {path entry p q : Path} {specifier : Specifier} {pending : List Pending} {s s' : State}
  {bound : ℕ}

/-! ## What is reached under another policy -/

theorem HasSpecifier.of_withPolicy
    (hspecifier : HasSpecifier (w.withPolicy mode external) code entry p specifier) :
    HasSpecifier w code entry p specifier := by
  obtain ⟨hsource, hparse, hmem⟩ := hspecifier
  exact .intro hsource hparse hmem

section

variable (hpolicy : ∀ specifier, NodeCompat.isProvided w.nodeCompat w.external specifier →
  NodeCompat.isProvided mode external specifier)

include hpolicy

theorem Refers.of_withPolicy (hrefers : Refers (w.withPolicy mode external) code entry p q) :
    Refers w code entry p q := by
  obtain ⟨hspecifier, hprovided⟩ := hrefers
  refine Refers.intro hspecifier.of_withPolicy (Bool.eq_false_iff.mpr fun h => ?_)
  exact Bool.eq_false_iff.mp hprovided (hpolicy _ h)

theorem Reach.of_withPolicy (hreach : Reach (w.withPolicy mode external) code entry p) :
    Reach w code entry p := by
  induction hreach with
  | entry => exact Reach.entry
  | step _ hrefers ih => exact Reach.step ih (hrefers.of_withPolicy hpolicy)

theorem Faulty.of_withPolicy (hfaulty : Faulty (w.withPolicy mode external) code entry p) :
    Faulty w code entry p := by
  cases hfaulty with
  | unmatched hentry hrule => exact Faulty.unmatched hentry hrule
  | unreadable cause hentry hread => exact Faulty.unreadable cause hentry hread
  | unparsable source failure hsource hparse =>
      exact Faulty.unparsable source failure hsource hparse
  | dynamic position hspecifier => exact Faulty.dynamic position hspecifier.of_withPolicy
  | script q hscript hrefers => exact Faulty.script q hscript (hrefers.of_withPolicy hpolicy)

/-- What is reached has been visited by a walk under the first policy. -/
theorem Frontier.mem_of_withPolicy (hI : Frontier w code entry [] s)
    (hreach : Reach (w.withPolicy mode external) code entry p) : p ∈ s.visited :=
  hI.closed (hreach.of_withPolicy hpolicy)

/-- A path has the same module under both policies. -/
theorem Frontier.modules_subset (hI : Frontier w code entry [] s)
    (hI' : Frontier (w.withPolicy mode external) code entry pending s') :
    s'.modules ⊆ s.modules := by
  intro m hm
  obtain ⟨p, hmem, hrecord⟩ := exists_partner_of_mem_right hI'.forall₂ hm
  have hvisited : p ∈ s.visited :=
    hI.mem_of_withPolicy hpolicy (hI'.reached p (List.of_mem_zip hmem).1)
  obtain ⟨m₁, hmem₁, hrecord₁⟩ := exists_partner_of_mem_left hI.forall₂ hvisited
  obtain rfl : m₁ = m := Option.some.inj (hrecord₁.symm.trans hrecord)
  exact (List.of_mem_zip hmem₁).2

end

/-! ## Walks within a bound -/

theorem exists_frontier_of_ok (hrun : (w.visitWithin bound code path).run .fresh = (.ok (), s)) :
    ∃ entry, w.absolutize path = .ok entry ∧ Frontier w code entry [] s := by
  obtain ⟨entry, habs⟩ := exists_absolutize_of_ok hrun
  exact ⟨entry, habs, frontier_of_ok habs hrun⟩

/-- A walk that reaches only the paths of a list is not cut off by their number. -/
theorem visitWithin_ne_tooDeep (habs : w.absolutize path = .ok entry) {paths : List Path}
    (hreach : ∀ p, Reach w code entry p → p ∈ paths) (hbound : paths.length ≤ bound) :
    ((w.visitWithin bound code path).run .fresh).1 ≠ .error .tooDeep := by
  intro hcut
  obtain ⟨b, rfl⟩ : ∃ b, bound = b + 1 := by
    have hpos := List.length_pos_of_mem (hreach entry Reach.entry)
    exact ⟨bound - 1, by omega⟩
  have hentry := entry_within w b code path .fresh
  have hnodup := (hentry.progress.visited.of_nil rfl).1
  have hvisited := hentry.reached habs
  rw [run_visitWithin_of_new (b + 1) code habs List.not_mem_nil] at hcut hnodup hvisited
  -- the entrypoint comes on top of what the bound has room for
  have hspent := (budget_visits w).visitModule_tooDeep (b + 1) ⟨code, entry, .module⟩ _ hcut
  have hlength := (List.subperm_of_subset hnodup fun p hp => hreach p (hvisited p hp)).length_le
  have hstart : (State.fresh.visit entry).visited.length = 1 := rfl
  dsimp only at hspent
  omega

section

variable (hpolicy : ∀ specifier, NodeCompat.isProvided w.nodeCompat w.external specifier →
  NodeCompat.isProvided mode external specifier)

include hpolicy

/-- A walk under the second policy that is not cut off succeeds. -/
theorem Frontier.exists_of_withPolicy (hI : Frontier w code entry [] s)
    (habs : w.absolutize path = .ok entry)
    (hcut : (((w.withPolicy mode external).visitWithin (bound + 1) code path).run .fresh).1 ≠
      .error .tooDeep) :
    ∃ s', ((w.withPolicy mode external).visitWithin (bound + 1) code path).run .fresh =
      (.ok (), s') ∧ s'.modules ⊆ s.modules := by
  have habs' : (w.withPolicy mode external).absolutize path = .ok entry := habs
  have hentry := entry_within (w.withPolicy mode external) bound code path .fresh
  generalize ((w.withPolicy mode external).visitWithin (bound + 1) code path).run .fresh =
    outcome at hentry hcut ⊢
  obtain ⟨r, s'⟩ := outcome
  rcases hentry.frontier habs' with ⟨rfl, hI'⟩ | ⟨-, hstop⟩
  · exact ⟨s', rfl, hI.modules_subset hpolicy hI'⟩
  · -- what stops it would have stopped the first walk
    obtain ⟨p, hreach, hfaulty⟩ := hstop.resolve_left hcut
    exact absurd (hfaulty.of_withPolicy hpolicy)
      (hI.not_faulty (hI.mem_of_withPolicy hpolicy hreach))

/-- As many levels as the first walk has visited paths are enough for the second. -/
theorem Frontier.exists_for_all_bounds (hI : Frontier w code entry [] s)
    (habs : w.absolutize path = .ok entry) :
    ∃ s', (∀ bound, s.visited.length ≤ bound →
      ((w.withPolicy mode external).visitWithin bound code path).run .fresh = (.ok (), s')) ∧
        s'.modules ⊆ s.modules := by
  have hcut : ∀ bound, s.visited.length ≤ bound →
      (((w.withPolicy mode external).visitWithin bound code path).run .fresh).1 ≠
        .error .tooDeep := by
    have habs' : (w.withPolicy mode external).absolutize path = .ok entry := habs
    intro bound hbound
    exact visitWithin_ne_tooDeep habs' (fun p => hI.mem_of_withPolicy hpolicy) hbound
  obtain ⟨n, hn⟩ : ∃ n, s.visited.length = n + 1 :=
    Nat.exists_eq_add_of_le' (List.length_pos_of_mem hI.entry_mem)
  have hleast := hcut (n + 1) hn.le
  obtain ⟨s', hrun, hmodules⟩ := hI.exists_of_withPolicy hpolicy habs hleast
  obtain ⟨depth, hfrom⟩ := exists_nestsFrom (n + 1) code path .fresh hleast
  refine ⟨s', fun bound hbound => ?_, hmodules⟩
  -- the least bound covers the tree, so a larger one changes nothing
  have hdepth : depth ≤ n + 1 := by
    by_contra hdeep
    exact hleast (hfrom.run_cut (by omega))
  exact (hfrom.run_eq (by omega)).trans hrun

end

/-- Under a policy that provides all that the policy of a walker provides, a walk succeeds
when it does under that of the walker, and records no other modules.  A walk within a bound
that succeeds is the whole walk, whatever the runtime serves, and for the second walk a
bound is large enough when it is no less than the number of paths that the first has
visited.  A mode that covers more and a longer list make such a policy. -/
theorem visit_withPolicy (w : Walker) (code : String) (path : Path) (mode : NodeCompat)
    (external : List String) :
    (w.nodeCompat.Within mode → w.external ⊆ external →
      ∀ specifier, NodeCompat.isProvided w.nodeCompat w.external specifier →
        NodeCompat.isProvided mode external specifier) ∧
    ((∀ specifier, NodeCompat.isProvided w.nodeCompat w.external specifier →
        NodeCompat.isProvided mode external specifier) →
      let w' := w.withPolicy mode external
      (∀ bound s, (w.visitWithin bound code path).run .fresh = (.ok (), s) →
        ∃ s', (∀ bound', s.visited.length ≤ bound' →
          (w'.visitWithin bound' code path).run .fresh = (.ok (), s')) ∧
            s'.modules ⊆ s.modules) ∧
      (w.runtime.FinitelyServed → ∀ s, (w.visitEntrypoint code path).run .fresh = (.ok (), s) →
        ∃ s', (w'.visitEntrypoint code path).run .fresh = (.ok (), s') ∧
          s'.modules ⊆ s.modules)) := by
  refine ⟨fun hmode hexternal specifier => NodeCompat.isProvided_mono hmode hexternal,
    fun hpolicy => ⟨fun bound s hrun => ?_, fun hfinite s hrun => ?_⟩⟩
  · obtain ⟨entry, habs, hI⟩ := exists_frontier_of_ok hrun
    exact hI.exists_for_all_bounds hpolicy habs
  · rw [← Walker.visitWithin_depthBound] at hrun
    obtain ⟨entry, habs, hI⟩ := exists_frontier_of_ok hrun
    have hcut := visitEntrypoint_ne_tooDeep (w := w.withPolicy mode external) hfinite code path
      .fresh
    exact hI.exists_of_withPolicy hpolicy habs hcut

/-- With the second file external, only the first is walked, and it is recorded as before. -/
theorem visit_withPolicy_circle :
    let w' := Walker.circle.withPolicy .v1 ["./b.js"]
    let s := ((Walker.circle.visitEntrypoint "" "a.js").run .fresh).2
    (∀ bound, 2 ≤ bound → ((w'.visitWithin bound "" "a.js").run .fresh).1 = .ok ()) ∧
      ∃ s', (w'.visitEntrypoint "" "a.js").run .fresh = (.ok (), s') ∧
        s'.modules ⊆ s.modules ∧ s'.modules.map WorkerModule.name = ["a.js"] ∧
          s.modules.map WorkerModule.name = ["a.js", "b.js"] := by
  have hok : ((Walker.circle.visitEntrypoint "" "a.js").run .fresh).1 = .ok () := by
    decide +kernel
  have hrun := eq_ok_of_fst_eq hok
  obtain ⟨hpolicy, hvisit⟩ := visit_withPolicy .circle "" "a.js" .v1 ["./b.js"]
  obtain ⟨hwithin, hwalk⟩ := hvisit (hpolicy (.none .v1) (List.nil_subset _))
  refine ⟨fun bound hbound => ?_, ?_⟩
  · obtain ⟨s', hbounds, -⟩ := hwithin Walker.circle.depthBound _ hrun
    have htwo : ((Walker.circle.visitEntrypoint "" "a.js").run .fresh).2.visited.length = 2 := by
      decide +kernel
    rw [hbounds bound (htwo.trans_le hbound)]
  · obtain ⟨s', hrun', hmodules⟩ := hwalk Walker.finitelyServed_circle _ hrun
    refine ⟨s', hrun', hmodules, ?_, by decide +kernel⟩
    obtain rfl : _ = s' := congrArg Prod.snd hrun'
    decide +kernel

end Walk

end ModuleDiscovery
