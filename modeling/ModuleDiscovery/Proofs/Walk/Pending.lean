import ModuleDiscovery.Walk.Visit
import ModuleDiscovery.Proofs.Walk.State

/-!
# Walking with a stack of pending specifiers

The recursion of `Walker.visitModule` can be unrolled into a stack of specifiers
that still wait to be followed.  `Walker.pop` takes one of them: `Walker.arrive`
decides whether it needs a file at all, resolves it, and reads the target, and
`Walker.openSource` stamps, parses and records a target that is JavaScript, whose
own specifiers are pending from then on.

`Arrival` and `Opening` list what these two can do to a state.  Every law of a walk
rests on these two lists, and none of them looks at the code again.  Each entry of the
list is run once (`Arrival.run_eq`), and the list is complete (`exists_arrival`), so what
an arrival does is one of its entries (`arrival`).
-/

namespace ModuleDiscovery

/-- The mode that sources of a kind are parsed in; the other kinds are assets. -/
def ContentKind.parseMode? : ContentKind → Option ParseMode
  | esModule => some .module
  | commonJs => some .script
  | _ => none

namespace Walk

/-- A JavaScript source that was found and has not been looked at. -/
structure Source where
  text : String
  path : Path
  mode : ParseMode

/-- A specifier that waits to be followed, with the module it stands in. -/
structure Pending where
  importer : Path
  name : String
  specifier : Specifier

end Walk

open Walk

namespace Walker

variable (w : Walker)

/-- The source with its stamp. -/
def stamped (source : Source) : String :=
  SourceUrl.stamp source.text (SourceUrl.locator source.path)

/-- The record of a source. -/
def sourceModule (source : Source) : WorkerModule :=
  ⟨moduleName w.root source.path, javaScriptContents source.mode (stamped source)⟩

/-- The specifiers of the source at a path, ready to be followed. -/
def pendingOf (path : Path) (specifiers : List Specifier) : List Pending :=
  specifiers.map (⟨path, moduleName w.root path, ·⟩)

/-! ## One specifier -/

/-- Stamps, parses and records a source, and returns what is pending in it. -/
def openSource (source : Source) : Walk (List Pending) := do
  let specifiers ← perform (parseLogged w.parser (moduleName w.root source.path) source.path
    (stamped source) source.mode)
  log (.discoveredJavaScript (moduleName w.root source.path) source.mode specifiers.length)
  record (w.sourceModule source)
  return w.pendingOf source.path specifiers

/-- Reads the file at a path, and records it if it is an asset. -/
def fetch (path : Path) (kind : ContentKind) : Walk (Option Source) := do
  log (.matchedRule path kind)
  let bytes ← perform (readLogged w.runtime path)
  match kind.parseMode? with
  | some mode => return some ⟨Utf8.decodeLossy bytes, path, mode⟩
  | none => do
    log (.discoveredAsset (moduleName w.root path) kind)
    record ⟨moduleName w.root path, .ofBytes kind bytes⟩
    return none

/-- Follows a pending specifier to its target, if it needs one that is new. -/
def arrive (item : Pending) : Walk (Option Source) := do
  match item.specifier with
  | .dynamic position => do
    let s ← getThe State
    fail (.dynamicSpecifier item.name (some position) (register w.root s.modules))
  | .literal specifier _ =>
    if NodeCompat.isProvided w.nodeCompat w.external specifier then do
      log (.provided specifier item.name)
      return none
    else if (ScriptId.parse? item.name).isSome then
      fail (.stringScriptImport item.name specifier)
    else do
      if ← enter (resolve item.importer specifier) then
        match CompiledRule.find? w.rules (resolve item.importer specifier) with
        | none => fail (.noMatchingRule item.name specifier (NodeCompat.isBuiltin specifier))
        | some rule => w.fetch (resolve item.importer specifier) rule.kind
      else do
        log (.alreadyVisited (resolve item.importer specifier))
        return none

/-- Takes one specifier and returns those that are pending in its target. -/
def pop (item : Pending) : Walk (List Pending) := do
  match ← w.arrive item with
  | none => return []
  | some source => w.openSource source

end Walker

namespace Walk

variable {w : Walker} {item : Pending} {rest : List Pending} {source : Source}
  {s s₁ s₂ s' : State}

/-! ## What opening a source can do -/

/-- The outcomes of opening a source. -/
inductive Opening (w : Walker) (source : Source) (s : State) :
    Except Stop (List Pending) × State → Prop
  | unparsable (failure : ParseFailure)
      (hparse : w.parser (Walker.stamped source) source.mode = .error failure) :
      Opening w source s
        (.error (.failed (.parseFailure (moduleName w.root source.path) failure.text
          failure.location)),
        s.note [.parsed source.path (Walker.stamped source) source.mode])
  | parsed (specifiers : List Specifier)
      (hparse : w.parser (Walker.stamped source) source.mode = .ok specifiers) :
      Opening w source s
        (.ok (w.pendingOf source.path specifiers),
        (s.note [.parsed source.path (Walker.stamped source) source.mode,
          .discoveredJavaScript (moduleName w.root source.path) source.mode
            specifiers.length]).add (w.sourceModule source))

theorem opening (w : Walker) (source : Source) (s : State) :
    Opening w source s ((w.openSource source).run s) := by
  cases hparse : w.parser (Walker.stamped source) source.mode with
  | error failure =>
      rw [Walker.openSource, run_bind, run_parse s hparse]
      exact Opening.unparsable failure hparse
  | ok specifiers =>
      rw [Walker.openSource, run_bind_ok s (run_parse s hparse _ _), run_bind_ok _ (run_log _ _),
        State.note_note]
      exact Opening.parsed specifiers hparse

/-! ## What following a specifier can do -/

/-- A specifier that leads to a file: a text that the platform does not provide, in
a module that has a path. -/
structure Leads (w : Walker) (item : Pending) (specifier : String) (path : Path) : Prop where
  literal : ∃ position, item.specifier = .literal specifier position
  not_provided : NodeCompat.isProvided w.nodeCompat w.external specifier = false
  not_script : (ScriptId.parse? item.name).isSome = false
  path_eq : path = Walker.resolve item.importer specifier

/-- A target that is seen for the first time and has a rule and contents. -/
structure Served (w : Walker) (s : State) (path : Path) (rule : CompiledRule) (bytes : Bytes) :
    Prop where
  is_new : path ∉ s.visited
  rule_eq : CompiledRule.find? w.rules path = some rule
  read_eq : w.runtime.readFile path = .ok bytes

/-- The outcomes of following a specifier up to its target. -/
inductive Arrival (w : Walker) (item : Pending) (s : State) :
    Except Stop (Option Source) × State → Prop
  | dynamic (position : Position) (hitem : item.specifier = .dynamic position) :
      Arrival w item s
        (.error (.failed (.dynamicSpecifier item.name (some position)
          (Walker.register w.root s.modules))), s)
  | provided (specifier : String) (position : Position)
      (hitem : item.specifier = .literal specifier position)
      (hprovided : NodeCompat.isProvided w.nodeCompat w.external specifier) :
      Arrival w item s (.ok none, s.note [.provided specifier item.name])
  | script (specifier : String) (position : Position)
      (hitem : item.specifier = .literal specifier position)
      (hprovided : NodeCompat.isProvided w.nodeCompat w.external specifier = false)
      (hscript : (ScriptId.parse? item.name).isSome) :
      Arrival w item s (.error (.failed (.stringScriptImport item.name specifier)), s)
  | visited (specifier : String) (path : Path) (hleads : Leads w item specifier path)
      (hvisited : path ∈ s.visited) :
      Arrival w item s (.ok none, s.note [.alreadyVisited path])
  | unmatched (specifier : String) (path : Path) (hleads : Leads w item specifier path)
      (hnew : path ∉ s.visited) (hrule : CompiledRule.find? w.rules path = none) :
      Arrival w item s
        (.error (.failed (.noMatchingRule item.name specifier (NodeCompat.isBuiltin specifier))),
        s.visit path)
  | unreadable (specifier : String) (path : Path) (rule : CompiledRule) (cause : RuntimeError)
      (hleads : Leads w item specifier path) (hnew : path ∉ s.visited)
      (hrule : CompiledRule.find? w.rules path = some rule)
      (hread : w.runtime.readFile path = .error cause) :
      Arrival w item s
        (.error (.failed (.readFailure path cause)),
        (s.visit path).note [.matchedRule path rule.kind, .read path])
  | asset (specifier : String) (path : Path) (rule : CompiledRule) (bytes : Bytes)
      (hleads : Leads w item specifier path) (hserved : Served w s path rule bytes)
      (hkind : rule.kind.parseMode? = none) :
      Arrival w item s
        (.ok none,
        ((s.visit path).note [.matchedRule path rule.kind, .read path,
          .discoveredAsset (moduleName w.root path) rule.kind]).add
          ⟨moduleName w.root path, .ofBytes rule.kind bytes⟩)
  | source (specifier : String) (path : Path) (rule : CompiledRule) (bytes : Bytes)
      (mode : ParseMode) (hleads : Leads w item specifier path)
      (hserved : Served w s path rule bytes) (hkind : rule.kind.parseMode? = some mode) :
      Arrival w item s
        (.ok (some ⟨Utf8.decodeLossy bytes, path, mode⟩),
        (s.visit path).note [.matchedRule path rule.kind, .read path])

/-! ## Each outcome of an arrival is had by one run -/

/-- Following a specifier that leads to a path is visiting the path and fetching the
file there. -/
theorem arrive_of_leads {specifier : String} {path : Path} (hleads : Leads w item specifier path) :
    w.arrive item = do
      if ← enter path then
        match CompiledRule.find? w.rules path with
        | none => fail (.noMatchingRule item.name specifier (NodeCompat.isBuiltin specifier))
        | some rule => w.fetch path rule.kind
      else do
        log (.alreadyVisited path)
        return none := by
  obtain ⟨⟨position, hitem⟩, hprovided, hscript, rfl⟩ := hleads
  rw [Walker.arrive, hitem]
  exact (if_neg (by simp [hprovided])).trans (if_neg (by simp [hscript]))

theorem run_arrive_of_new {specifier : String} {path : Path} {rule : CompiledRule}
    (hleads : Leads w item specifier path) (hnew : path ∉ s.visited)
    (hrule : CompiledRule.find? w.rules path = some rule) :
    (w.arrive item).run s = (w.fetch path rule.kind).run (s.visit path) := by
  rw [arrive_of_leads hleads, run_bind_ok s (run_enter_of_not_mem s hnew), if_pos rfl, hrule]

theorem run_fetch (w : Walker) (path : Path) (kind : ContentKind) (s : State) :
    (w.fetch path kind).run s =
      match w.runtime.readFile path, kind.parseMode? with
      | .error cause, _ =>
        (.error (.failed (.readFailure path cause)), s.note [.matchedRule path kind, .read path])
      | .ok bytes, some mode =>
        (.ok (some ⟨Utf8.decodeLossy bytes, path, mode⟩),
          s.note [.matchedRule path kind, .read path])
      | .ok bytes, none =>
        (.ok none,
          (s.note [.matchedRule path kind, .read path,
            .discoveredAsset (moduleName w.root path) kind]).add
              ⟨moduleName w.root path, .ofBytes kind bytes⟩) := by
  rw [Walker.fetch, run_bind_ok s (run_log s _)]
  cases hread : w.runtime.readFile path with
  | error cause =>
      rw [run_bind, run_read _ hread, State.note_note]
      rfl
  | ok bytes =>
      rw [run_bind_ok _ (run_read _ hread), State.note_note]
      cases kind.parseMode? with
      | some mode => rfl
      | none =>
          dsimp only
          rw [run_bind_ok _ (run_log _ _), State.note_note]
          rfl

/-- What an arrival may come to is what it comes to. -/
theorem Arrival.run_eq {outcome : Except Stop (Option Source) × State}
    (harrive : Arrival w item s outcome) : (w.arrive item).run s = outcome := by
  cases harrive with
  | dynamic position hitem =>
      rw [Walker.arrive, hitem]
      rfl
  | provided specifier position hitem hprovided =>
      rw [Walker.arrive, hitem]
      dsimp only
      rw [if_pos hprovided]
      rfl
  | script specifier position hitem hprovided hscript =>
      rw [Walker.arrive, hitem]
      dsimp only
      rw [if_neg (by simp [hprovided]), if_pos hscript]
      rfl
  | visited specifier path hleads hvisited =>
      rw [arrive_of_leads hleads, run_bind_ok s (run_enter_of_mem s hvisited)]
      rfl
  | unmatched specifier path hleads hnew hrule =>
      rw [arrive_of_leads hleads, run_bind_ok s (run_enter_of_not_mem s hnew), if_pos rfl, hrule]
      rfl
  | unreadable specifier path rule cause hleads hnew hrule hread =>
      rw [run_arrive_of_new hleads hnew hrule, run_fetch, hread]
  | asset specifier path rule bytes hleads hserved hkind =>
      rw [run_arrive_of_new hleads hserved.is_new hserved.rule_eq, run_fetch, hserved.read_eq,
        hkind]
  | source specifier path rule bytes mode hleads hserved hkind =>
      rw [run_arrive_of_new hleads hserved.is_new hserved.rule_eq, run_fetch, hserved.read_eq,
        hkind]

/-! ## Every arrival has an outcome -/

theorem exists_arrival_of_leads {specifier : String} {path : Path}
    (hleads : Leads w item specifier path) (s : State) : ∃ outcome, Arrival w item s outcome := by
  by_cases hvisited : path ∈ s.visited
  · exact ⟨_, Arrival.visited specifier path hleads hvisited⟩
  cases hrule : CompiledRule.find? w.rules path with
  | none => exact ⟨_, Arrival.unmatched specifier path hleads hvisited hrule⟩
  | some rule =>
      cases hread : w.runtime.readFile path with
      | error cause =>
          exact ⟨_, Arrival.unreadable specifier path rule cause hleads hvisited hrule hread⟩
      | ok bytes =>
          have hserved : Served w s path rule bytes := ⟨hvisited, hrule, hread⟩
          cases hkind : rule.kind.parseMode? with
          | none => exact ⟨_, Arrival.asset specifier path rule bytes hleads hserved hkind⟩
          | some mode =>
              exact ⟨_, Arrival.source specifier path rule bytes mode hleads hserved hkind⟩

/-- There is an outcome for every specifier. -/
theorem exists_arrival (w : Walker) (item : Pending) (s : State) :
    ∃ outcome, Arrival w item s outcome := by
  cases hitem : item.specifier with
  | dynamic position => exact ⟨_, Arrival.dynamic position hitem⟩
  | literal specifier position =>
      cases hprovided : NodeCompat.isProvided w.nodeCompat w.external specifier with
      | true => exact ⟨_, Arrival.provided specifier position hitem hprovided⟩
      | false =>
          cases hscript : (ScriptId.parse? item.name).isSome with
          | true => exact ⟨_, Arrival.script specifier position hitem hprovided hscript⟩
          | false =>
              have hleads : Leads w item specifier (Walker.resolve item.importer specifier) :=
                ⟨⟨position, hitem⟩, hprovided, hscript, rfl⟩
              exact exists_arrival_of_leads hleads s

/-- The converse of `Arrival.run_eq`: what an arrival comes to is one of its outcomes. -/
theorem arrival (w : Walker) (item : Pending) (s : State) :
    Arrival w item s ((w.arrive item).run s) := by
  obtain ⟨outcome, harrive⟩ := exists_arrival w item s
  rw [harrive.run_eq]
  exact harrive

end Walk

end ModuleDiscovery
