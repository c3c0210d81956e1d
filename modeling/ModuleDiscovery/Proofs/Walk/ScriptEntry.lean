import ModuleDiscovery.Proofs.ModuleName
import ModuleDiscovery.Proofs.Walk.ReadSet

/-!
# Walks that start at an inline script

An inline script has no directory, so none of its specifiers leads anywhere: the platform
provides it, or the script is refused.  A walk that starts at an inline script is therefore
over after its own specifiers, and asks its surroundings for nothing.

## Strategy

The whole walk has a closed form, `Walker.scriptOutcome`, in which the runtime does not
occur.  It is that of the loop over the specifiers (`followAll_script`) behind the one
source that is opened.

* **The loop.**  It passes the specifiers that are provided, each with an event, and ends at
  the first one that is not (`Walker.verdict`, `Walker.passed`).
* **The runtime.**  Since the closed form does not read it, it can be exchanged.

## Main results

* `visitEntrypoint_of_isScriptId`: what a walk from a new inline script asks for, leaves and
  comes to.
-/

namespace ModuleDiscovery

open Walk

/-! ## The closed form -/

namespace Walker

variable (w : Walker)

/-- Whether a specifier is a text that the platform provides. -/
def provides : Specifier → Bool
  | .literal specifier _ => NodeCompat.isProvided w.nodeCompat w.external specifier
  | .dynamic _ => false

/-- What an inline script that refers to something else is told about it, after some modules
were recorded. -/
def objection (id : String) (modules : List WorkerModule) : Specifier → ModuleError
  | .literal specifier _ => .stringScriptImport id specifier
  | .dynamic position => .dynamicSpecifier id (some position) (register w.root modules)

/-- The first specifier that the platform does not provide. -/
def firstUnprovided? (specifiers : List Specifier) : Option Specifier :=
  specifiers.find? fun specifier => !w.provides specifier

/-- What the specifiers of an inline script come to. -/
def verdict (id : String) (modules : List WorkerModule) (specifiers : List Specifier) :
    Except Stop Unit :=
  match w.firstUnprovided? specifiers with
  | none => .ok ()
  | some specifier => .error (.failed (w.objection id modules specifier))

/-- The event of a specifier that is provided. -/
def passing? (id : String) : Specifier → Option Event
  | .literal specifier _ => some (.provided specifier id)
  | .dynamic _ => none

/-- The events of the specifiers in front of the first one that is not provided. -/
def passed (id : String) (specifiers : List Specifier) : List Event :=
  (specifiers.takeWhile w.provides).filterMap (passing? id)

/-- The record of an inline script. -/
def scriptModule (code : String) (p : Path) : WorkerModule :=
  ⟨p.text, .esModule (SourceUrl.stamp code p.text)⟩

/-- What a walk from a new inline script comes to. -/
def scriptOutcome (code : String) (p : Path) (s : State) : Except Stop Unit × State :=
  let source := SourceUrl.stamp code p.text
  match w.parser source .module with
  | .error failure =>
    (.error (.failed (.parseFailure p.text failure.text failure.location)),
      (s.visit p).note [.parsed p source .module])
  | .ok specifiers =>
    let opened := ((s.visit p).note [.parsed p source .module,
      .discoveredJavaScript p.text .module specifiers.length]).add (scriptModule code p)
    (w.verdict p.text opened.modules specifiers, opened.note (w.passed p.text specifiers))

end Walker

namespace Walk

variable {w : Walker} {p : Path} {specifier : Specifier} {specifiers : List Specifier} {s : State}

/-! ## One specifier -/

/-- A specifier that is provided is passed. -/
theorem run_arrive_of_provides (id : String) (hprovides : w.provides specifier) :
    ∃ event, Walker.passing? id specifier = some event ∧
      (w.arrive ⟨p, id, specifier⟩).run s = (.ok none, s.note [event]) := by
  cases specifier with
  | dynamic position => cases hprovides
  | literal text position =>
      exact ⟨.provided text id, rfl, (Arrival.provided text position rfl hprovides).run_eq⟩

/-- An inline script is refused any other specifier, before it is resolved. -/
theorem run_arrive_of_not_provides (hscript : p.isScriptId)
    (hprovides : w.provides specifier = false) :
    (w.arrive ⟨p, p.text, specifier⟩).run s =
      (.error (.failed (w.objection p.text s.modules specifier)), s) := by
  cases specifier with
  | dynamic position => exact (Arrival.dynamic position rfl).run_eq
  | literal text position =>
      have hrefused : Arrival w ⟨p, p.text, .literal text position⟩ s
          (.error (.failed (.stringScriptImport p.text text)), s) :=
        Arrival.script text position rfl hprovides (Path.isSome_parse?_text_iff.mpr hscript)
      exact hrefused.run_eq

/-! ## The loop -/

theorem verdict_cons_of_provides (id : String) (modules : List WorkerModule)
    (hprovides : w.provides specifier) :
    w.verdict id modules (specifier :: specifiers) = w.verdict id modules specifiers := by
  simp [Walker.verdict, Walker.firstUnprovided?, hprovides]

theorem verdict_cons_of_not_provides (id : String) (modules : List WorkerModule)
    (hprovides : w.provides specifier = false) :
    w.verdict id modules (specifier :: specifiers) =
      .error (.failed (w.objection id modules specifier)) := by
  simp [Walker.verdict, Walker.firstUnprovided?, hprovides]

theorem passed_cons_of_provides {id : String} {event : Event}
    (hprovides : w.provides specifier) (hevent : Walker.passing? id specifier = some event) :
    w.passed id (specifier :: specifiers) = event :: w.passed id specifiers := by
  simp [Walker.passed, hprovides, hevent]

theorem passed_cons_of_not_provides (id : String) (hprovides : w.provides specifier = false) :
    w.passed id (specifier :: specifiers) = [] := by
  simp [Walker.passed, hprovides]

/-- An inline script has its specifiers passed up to the first one that is not provided. -/
theorem followAll_script (w : Walker) (depth : ℕ) (hscript : p.isScriptId)
    (specifiers : List Specifier) (s : State) :
    followAll w depth (specifiers.map (⟨p, p.text, ·⟩)) s =
      (w.verdict p.text s.modules specifiers, s.note (w.passed p.text specifiers)) := by
  induction specifiers generalizing s with
  | nil =>
      rw [List.map_nil, followAll, Walker.passed, List.takeWhile_nil, List.filterMap_nil,
        State.note_nil]
      rfl
  | cons specifier rest ih =>
      rw [List.map_cons]
      cases hprovides : w.provides specifier with
      | true =>
          obtain ⟨event, hevent, harrive⟩ :=
            run_arrive_of_provides (p := p) (s := s) p.text hprovides
          rw [followAll_cons_none harrive, verdict_cons_of_provides _ _ hprovides,
            passed_cons_of_provides hprovides hevent, ih, State.note_note]
          rfl
      | false =>
          rw [followAll_cons_error (run_arrive_of_not_provides hscript hprovides),
            verdict_cons_of_not_provides _ _ hprovides, passed_cons_of_not_provides _ hprovides,
            State.note_nil]

/-- All specifiers of an inline script have to be provided. -/
theorem verdict_eq_ok_iff {id : String} {modules : List WorkerModule} :
    w.verdict id modules specifiers = .ok () ↔ ∀ x ∈ specifiers, w.provides x := by
  unfold Walker.verdict
  cases hfirst : w.firstUnprovided? specifiers with
  | none => simpa [Walker.firstUnprovided?] using hfirst
  | some specifier =>
      have hmem : specifier ∈ specifiers := List.mem_of_find?_eq_some hfirst
      have hprovides : w.provides specifier = false := by simpa using List.find?_some hfirst
      refine iff_of_false (by simp) fun hall => ?_
      rw [hall specifier hmem] at hprovides
      cases hprovides

theorem verdict_eq_error_iff {id : String} {modules : List WorkerModule} {stop : Stop} :
    w.verdict id modules specifiers = .error stop ↔
      ∃ x, w.firstUnprovided? specifiers = some x ∧
        stop = .failed (w.objection id modules x) := by
  unfold Walker.verdict
  cases w.firstUnprovided? specifiers with
  | none => simp
  | some specifier => simp [eq_comm]

/-- Passing a specifier reads nothing. -/
theorem reads_passed (w : Walker) (id : String) (specifiers : List Specifier) :
    (w.passed id specifiers).filterMap Event.readPath? = [] := by
  rw [Walker.passed, List.filterMap_filterMap, List.filterMap_eq_nil_iff]
  intro specifier _
  cases specifier <;> rfl

/-! ## The walk -/

theorem run_visitEntrypoint_script (w : Walker) (code : String) (hscript : p.isScriptId)
    (hnew : p ∉ s.visited) :
    (w.visitEntrypoint code p).run s = w.scriptOutcome code p s := by
  have habs : w.absolutize p = .ok p := if_pos hscript
  have hname : moduleName w.root p = p.text := Path.moduleName_of_isScriptId w.root hscript
  have hlocator : SourceUrl.locator p = p.text := if_pos hscript
  have hsource : Walker.stamped ⟨code, p, .module⟩ = SourceUrl.stamp code p.text := by
    rw [Walker.stamped, hlocator]
  have hmodule : w.sourceModule ⟨code, p, .module⟩ = Walker.scriptModule code p := by
    rw [Walker.sourceModule, hname, hsource, Walker.javaScriptContents, Walker.scriptModule]
  rw [← Walker.visitWithin_depthBound, run_visitWithin_of_new _ code habs hnew, Walker.depthBound,
    run_visitModule_succ w _ ⟨code, p, .module⟩]
  have hopen := opening w ⟨code, p, .module⟩ (s.visit p)
  generalize (w.openSource ⟨code, p, .module⟩).run (s.visit p) = opened at hopen
  unfold Walker.scriptOutcome
  cases hopen with
  | unparsable failure hparse =>
      dsimp only at hparse ⊢
      rw [hsource] at hparse ⊢
      rw [hparse, hname]
  | parsed specifiers hparse =>
      dsimp only at hparse ⊢
      rw [hsource] at hparse ⊢
      rw [hparse, hmodule, Walker.pendingOf, hname]
      exact followAll_script w _ hscript specifiers _

/-- A walk from an inline script that was not visited goes the same way in all surroundings,
reads nothing and visits nothing besides the script.  It records the script, under its own
identifier and with a stamp of it, when it can be parsed, and nothing otherwise.  It succeeds
exactly when the script can be parsed and all its specifiers are texts that the platform
provides.  Otherwise its error is that of the parser, or is about the first specifier that
is not provided: that it is dynamic, or that an inline script cannot import it. -/
theorem visitEntrypoint_of_isScriptId (w : Walker) (code : String) (p : Path) (s : State)
    (hscript : p.isScriptId) (hnew : p ∉ s.visited) :
    let outcome := (w.visitEntrypoint code p).run s
    let source := SourceUrl.stamp code p.text
    let script : WorkerModule := ⟨p.text, .esModule source⟩
    (∀ runtime, ((w.withRuntime runtime).visitEntrypoint code p).run s = outcome) ∧
    outcome.2.reads = s.reads ∧
    outcome.2.visited = s.visited ++ [p] ∧
    outcome.2.modules =
      (match w.parser source .module with
      | .error _ => s.modules
      | .ok _ => s.modules ++ [script]) ∧
    (outcome.1 = .ok () ↔
      ∃ specifiers, w.parser source .module = .ok specifiers ∧ ∀ x ∈ specifiers, w.provides x) ∧
    ∀ stop, outcome.1 = .error stop ↔
      (∃ failure, w.parser source .module = .error failure ∧
        stop = .failed (.parseFailure p.text failure.text failure.location)) ∨
      ∃ specifiers x, w.parser source .module = .ok specifiers ∧
        w.firstUnprovided? specifiers = some x ∧
        stop = .failed (w.objection p.text (s.modules ++ [script]) x) := by
  intro outcome source script
  have houtcome : outcome = w.scriptOutcome code p s :=
    run_visitEntrypoint_script w code hscript hnew
  have hruntime : ∀ runtime, ((w.withRuntime runtime).visitEntrypoint code p).run s = outcome := by
    intro runtime
    rw [run_visitEntrypoint_script (w.withRuntime runtime) code hscript hnew, houtcome]
    rfl
  refine ⟨hruntime, ?_⟩
  rw [houtcome, Walker.scriptOutcome]
  cases hparse : w.parser source .module with
  | error failure =>
      -- the script was marked as visited, and that is all
      refine ⟨by simp, rfl, rfl, ?_, ?_⟩
      · simp
      · intro stop
        simp [eq_comm]
  | ok specifiers =>
      have hread := reads_passed w p.text specifiers
      refine ⟨by simp [hread], rfl, rfl, ?_, ?_⟩
      · simp [verdict_eq_ok_iff]
      · intro stop
        simp [verdict_eq_error_iff, script, source, Walker.scriptModule]

/-- An import that the caller lists as external is passed, and the one behind it is refused
with the file that it names left alone. -/
theorem visitEntrypoint_of_isScriptId_external :
    let w : Walker := { Walker.circle with external := ["./a.js"] }
    let outcome := (w.visitEntrypoint "" "<script:0>").run .fresh
    outcome.1 = .error (.failed (.stringScriptImport "<script:0>" "./b.js")) ∧
      outcome.2.reads = [] ∧ outcome.2.visited = [("<script:0>" : Path)] := by
  intro w outcome
  obtain ⟨-, hreads, hvisited, -, -, herror⟩ :=
    visitEntrypoint_of_isScriptId w "" "<script:0>" .fresh (by decide +kernel) (by decide)
  refine ⟨(herror _).mpr (Or.inr ?_), hreads, hvisited⟩
  exact ⟨_, .literal "./b.js" ⟨2, 1⟩, rfl, by decide +kernel, rfl⟩

end Walk

end ModuleDiscovery
