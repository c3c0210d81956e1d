import ModuleDiscovery.Proofs.ModuleName
import ModuleDiscovery.Proofs.Walk.Calls

/-!
# Imports of inline scripts

An inline script has no directory, so a walk refuses its imports
(`ModuleError.stringScriptImport`).  Whether a module is an inline script is read off
its name, and the name of a file in the root directory can read like an identifier
(`Path.PosesAsScript`).  Below an absolute root these are the only modules besides
inline scripts whose imports are refused.

## Main results

* `stringScriptImport_iff_refused`: a walk only fails in this way because of an inline
  script or a file that poses as one, and any other module resolves its specifiers
  against its own directory.
* `stringScriptImport_of_file`: a file that has a directory is refused all the same.
-/

namespace ModuleDiscovery.Walk

variable {w : Walker} {p : Path} {name specifier : String} {position : Position}
  {item : Pending} {rest pending : List Pending} {source : Source} {s s' : State}

/-! ## One specifier -/

/-- The modules whose imports are refused. -/
def Refused (w : Walker) (p : Path) : Prop :=
  p.isScriptId ∨ p.PosesAsScript w.root

theorem follow_of_refused (hroot : w.root.isAbsolute) (hclean : p.clean = p)
    (hprovided : NodeCompat.isProvided w.nodeCompat w.external specifier = false)
    (hrefused : Refused w p) (descend : String → Path → ParseMode → Walk Unit) :
    w.follow descend p (moduleName w.root p) (.literal specifier position) =
      fail (.stringScriptImport (moduleName w.root p) specifier) := by
  have hname := (Path.isSome_parse?_moduleName_iff hroot hclean).mpr hrefused
  rw [Walker.follow, Walker.followLiteral, if_neg (by simp [hprovided]), if_pos hname]

theorem follow_of_not_refused (hroot : w.root.isAbsolute) (hclean : p.clean = p)
    (hprovided : NodeCompat.isProvided w.nodeCompat w.external specifier = false)
    (hallowed : ¬ Refused w p) (descend : String → Path → ParseMode → Walk Unit) :
    w.follow descend p (moduleName w.root p) (.literal specifier position) =
      w.followTo descend (moduleName w.root p) specifier (Walker.resolve p specifier) := by
  have hname : (ScriptId.parse? (moduleName w.root p)).isSome = false := by
    rw [Bool.eq_false_iff, ne_eq, Path.isSome_parse?_moduleName_iff hroot hclean]
    exact hallowed
  have hleads : Leads w ⟨p, moduleName w.root p, .literal specifier position⟩ specifier
      (Walker.resolve p specifier) := ⟨⟨position, rfl⟩, hprovided, hname, rfl⟩
  exact follow_of_leads hleads descend

/-! ## Where pending specifiers come from -/

/-- Whether the module at a path was parsed and the parser found a specifier in it. -/
def StandsIn (w : Walker) (s : State) (p : Path) (specifier : Specifier) : Prop :=
  ∃ code mode specifiers, .parsed p code mode ∈ s.events ∧
    w.parser code mode = .ok specifiers ∧ specifier ∈ specifiers

/-- What is pending was found by the parser where it is said to stand. -/
def Reported (w : Walker) (pending : List Pending) (s : State) : Prop :=
  ∀ item ∈ pending, StandsIn w s item.importer item.specifier

theorem StandsIn.mono {specifier : Specifier} (hstands : StandsIn w s p specifier)
    (hevents : s.events ⊆ s'.events) : StandsIn w s' p specifier := by
  obtain ⟨code, mode, specifiers, hparsed, hfound⟩ := hstands
  exact ⟨code, mode, specifiers, hevents hparsed, hfound⟩

theorem Arrival.events_subset {outcome : Except Stop (Option Source)}
    (harrive : Arrival w item s (outcome, s')) : s.events ⊆ s'.events := by
  cases harrive <;> simp [State.visit, State.note, State.add]

theorem Reported.passed (hreported : Reported w (item :: rest) s)
    {outcome : Except Stop (Option Source)} (harrive : Arrival w item s (outcome, s')) :
    Reported w rest s' :=
  fun other hother =>
    (hreported other (List.mem_cons_of_mem _ hother)).mono harrive.events_subset

theorem Opening.reported (hrest : Reported w rest s)
    (hopen : Opening w source s (.ok pending, s')) : Reported w (pending ++ rest) s' := by
  cases hopen with
  | parsed specifiers hparse =>
      refine List.forall_mem_append.mpr ⟨fun item hitem => ?_, fun item hitem => ?_⟩
      · obtain ⟨specifier, hspecifier, rfl⟩ := List.mem_map.mp hitem
        exact ⟨_, _, specifiers, by simp [State.note, State.add], hparse, hspecifier⟩
      · exact (hrest item hitem).mono (by simp [State.note, State.add])

theorem kept_reported (w : Walker) : Kept w (Reported w) where
  passed hreported harrive := hreported.passed harrive
  opened hreported harrive hopen := hopen.reported (hreported.passed harrive)

/-! ## Whole walks -/

/-- A specifier that was refused stands in a visited module that is refused its imports. -/
def RefusedIn (w : Walker) (s : State) (name specifier : String) : Prop :=
  ∃ importer ∈ s.visited, Refused w importer ∧ name = moduleName w.root importer ∧
    (∃ position, StandsIn w s importer (.literal specifier position)) ∧
    NodeCompat.isProvided w.nodeCompat w.external specifier = false

theorem Ends.refusedIn (hroot : w.root.isAbsolute)
    (hends : Ends w (fun pending s =>
      (Waiting w pending s ∧ Everywhere (fun _ p => p.clean = p) s) ∧ Reported w pending s)
      (.error (.failed (.stringScriptImport name specifier))) s') :
    RefusedIn w s' name specifier := by
  cases hends with
  | @halted item _ _ _ _ hI harrive =>
      obtain ⟨⟨hwaiting, hclean⟩, hreported⟩ := hI
      obtain ⟨hmem, hname⟩ := hwaiting.head
      have hstands := hreported item List.mem_cons_self
      cases harrive with
      | script _ position hitem hprovided hscript =>
          rw [hname] at hscript
          rw [hitem] at hstands
          exact ⟨item.importer, hmem,
            (Path.isSome_parse?_moduleName_iff hroot (hclean _ hmem)).mp hscript, hname,
            ⟨position, hstands⟩, hprovided⟩
  | unparsable _ _ hopen => cases hopen

theorem refusedIn_of_visitEntrypoint (hroot : w.root.isAbsolute) (hclean : s.Clean)
    {code : String} {path : Path}
    (hrun : (w.visitEntrypoint code path).run s =
      (.error (.failed (.stringScriptImport name specifier)), s')) :
    RefusedIn w s' name specifier := by
  have hentry := entry w code path s
  rw [hrun] at hentry
  cases hentry with
  | unresolved habs =>
      -- all that can fail there is the working directory
      unfold Walker.absolutize at habs
      split_ifs at habs
      cases hcwd : w.runtime.cwd <;> simp [hcwd] at habs
  | unparsable _ _ hopen => cases opening_of_run hopen
  | @opened target _ _ _ _ habs _ hopen hdrains =>
      have hopened := opening_of_run hopen
      have hreported : Reported w [] (s.visit target) := fun item hitem => by cases hitem
      have hvisited : Everywhere (fun _ p => p.clean = p) (s.visit target) :=
        (spreads_clean w).everywhere_append hclean (clean_absolutize habs) rfl
      refine Ends.refusedIn hroot (hdrains.ends ((spreads_clean w).kept.and (kept_reported w))
        ⟨⟨hopened.waiting_alone (by simp), (spreads_clean w).opening hvisited hopened⟩, ?_⟩)
      have hpending := hopened.reported hreported
      rwa [List.append_nil] at hpending

/-- Below an absolute root, when a call in a sequence of calls fails with a refused
specifier, the parser found the specifier in a visited module that is an inline script or
poses as one.  Such a module has every specifier refused that the platform does not
provide; any other module goes on to the file that the specifier names, seen from the
directory of the module. -/
theorem stringScriptImport_iff_refused (w : Walker) (hroot : w.root.isAbsolute) :
    (∀ calls code path name specifier,
      let outcome := (w.visitEntrypoint code path).run (w.visitAll calls .fresh)
      outcome.1 = .error (.failed (.stringScriptImport name specifier)) →
        ∃ importer ∈ outcome.2.visited, Refused w importer ∧ name = moduleName w.root importer ∧
          (∃ position, StandsIn w outcome.2 importer (.literal specifier position)) ∧
          NodeCompat.isProvided w.nodeCompat w.external specifier = false) ∧
      ∀ (p directory : Path) (specifier : String) (position : Position)
        (descend : String → Path → ParseMode → Walk Unit),
        p.clean = p → p.parent = some directory →
        NodeCompat.isProvided w.nodeCompat w.external specifier = false →
          let followed := w.follow descend p (moduleName w.root p) (.literal specifier position)
          (Refused w p → followed = fail (.stringScriptImport (moduleName w.root p) specifier)) ∧
            (¬ Refused w p → followed = w.followTo descend (moduleName w.root p) specifier
              (directory.join specifier).clean) := by
  constructor
  · intro calls code path name specifier outcome houtcome
    have hclean : (w.visitAll calls .fresh).Clean := clean_fresh.visitAll calls
    have hrun : outcome = (.error (.failed (.stringScriptImport name specifier)), outcome.2) :=
      Prod.ext houtcome rfl
    exact refusedIn_of_visitEntrypoint hroot hclean hrun
  · intro p directory specifier position descend hclean hparent hprovided
    have hresolve : Walker.resolve p specifier = (directory.join specifier).clean := by
      rw [Walker.resolve, hparent, Option.getD_some]
    refine ⟨fun hrefused => follow_of_refused hroot hclean hprovided hrefused descend, ?_⟩
    intro hallowed
    rw [← hresolve]
    exact follow_of_not_refused hroot hclean hprovided hallowed descend

/-- A file below the root directory is no inline script, whatever it is called. -/
theorem stringScriptImport_iff_refused_circle :
    Walker.circle.follow (Walker.circle.visitModule 1) "/lib/<script:0>" "lib/<script:0>"
        (.literal "./a.js" ⟨1, 1⟩) =
      Walker.circle.followTo (Walker.circle.visitModule 1) "lib/<script:0>" "./a.js"
        "/lib/a.js" := by
  have hclean : ("/lib/<script:0>" : Path).clean = "/lib/<script:0>" := by decide +kernel
  have hname : moduleName Walker.circle.root "/lib/<script:0>" = "lib/<script:0>" := by
    decide +kernel
  have htarget : (Path.join "/lib" "./a.js").clean = "/lib/a.js" := by decide +kernel
  have hallowed : ¬ Refused .circle "/lib/<script:0>" := by
    rw [Refused, ← Path.isSome_parse?_moduleName_iff (by decide) hclean, hname]
    decide +kernel
  obtain ⟨-, hfollow⟩ := stringScriptImport_iff_refused .circle (by decide)
  obtain ⟨-, hfollow⟩ := hfollow "/lib/<script:0>" "/lib" "./a.js" ⟨1, 1⟩
    (Walker.circle.visitModule 1) hclean (by decide +kernel) (by decide +kernel)
  rw [hname, htarget] at hfollow
  exact hfollow hallowed

/-- A file in the root directory that is called like an inline script is refused its
imports, although it has a directory. -/
theorem stringScriptImport_of_file :
    let file : Path := "/<script:0>"
    file.isAbsolute ∧ file.isScriptId = false ∧
      ((Walker.circle.visitEntrypoint "" file).run .fresh).1 =
        .error (.failed (.stringScriptImport "<script:0>" "./a.js")) := by
  decide +kernel

end ModuleDiscovery.Walk
