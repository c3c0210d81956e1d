import ModuleDiscovery.Proofs.Walk.Pending

/-!
# What an entrypoint reaches

The files and the parser alone say which paths belong to an entrypoint (`Reach`),
what is wrong with a path (`Faulty`), and which module stands for it (`recordAt?`).
None of this mentions a walk or its state.

The entrypoint is an ES module whatever the rules say, also when one of the modules
behind it imports it again.
-/

namespace ModuleDiscovery.Walk

section

variable (w : Walker) (code : String) (entry : Path)

/-- The JavaScript source at a path, if there is one. -/
def sourceAt? (p : Path) : Option Source :=
  if p = entry then some ⟨code, entry, .module⟩
  else
    match CompiledRule.find? w.rules p, w.runtime.readFile p with
    | some rule, .ok bytes => rule.kind.parseMode?.map (⟨Utf8.decodeLossy bytes, p, ·⟩)
    | _, _ => none

/-- The module that stands for a path. -/
def recordAt? (p : Path) : Option WorkerModule :=
  match sourceAt? w code entry p, CompiledRule.find? w.rules p, w.runtime.readFile p with
  | some source, _, _ => some (w.sourceModule source)
  | none, some rule, .ok bytes => some ⟨moduleName w.root p, .ofBytes rule.kind bytes⟩
  | none, _, _ => none

/-- A specifier in the stamped source at a path. -/
inductive HasSpecifier (p : Path) (specifier : Specifier) : Prop
  | intro {source : Source} {specifiers : List Specifier}
      (hsource : sourceAt? w code entry p = some source)
      (hparse : w.parser (Walker.stamped source) source.mode = .ok specifiers)
      (hmem : specifier ∈ specifiers)

/-- A path refers to another one by a text that the platform does not provide. -/
inductive Refers (p : Path) : Path → Prop
  | intro {text : String} {position : Position}
      (hspecifier : HasSpecifier w code entry p (.literal text position))
      (hprovided : NodeCompat.isProvided w.nodeCompat w.external text = false) :
      Refers p (Walker.resolve p text)

/-- The paths that belong to an entrypoint. -/
inductive Reach : Path → Prop
  | entry : Reach entry
  | step {p q : Path} (hreach : Reach p) (hrefers : Refers w code entry p q) : Reach q

/-- What can be wrong with a path. -/
inductive Faulty (p : Path) : Prop
  | unmatched (hentry : p ≠ entry) (hrule : CompiledRule.find? w.rules p = none)
  | unreadable (cause : RuntimeError) (hentry : p ≠ entry)
      (hread : w.runtime.readFile p = .error cause)
  | unparsable (source : Source) (failure : ParseFailure)
      (hsource : sourceAt? w code entry p = some source)
      (hparse : w.parser (Walker.stamped source) source.mode = .error failure)
  | dynamic (position : Position) (hspecifier : HasSpecifier w code entry p (.dynamic position))
  /-- A module without a place of its own refers to another one. -/
  | script (q : Path) (hscript : (ScriptId.parse? (moduleName w.root p)).isSome)
      (hrefers : Refers w code entry p q)

end

variable {w : Walker} {code : String} {entry p : Path} {rule : CompiledRule} {bytes : Bytes}

theorem sourceAt?_entry : sourceAt? w code entry entry = some ⟨code, entry, .module⟩ :=
  if_pos rfl

theorem sourceAt?_of_rule (hentry : p ≠ entry) (hrule : CompiledRule.find? w.rules p = some rule)
    (hread : w.runtime.readFile p = .ok bytes) :
    sourceAt? w code entry p = rule.kind.parseMode?.map (⟨Utf8.decodeLossy bytes, p, ·⟩) := by
  rw [sourceAt?, if_neg hentry, hrule, hread]

/-- A target that is seen for the first time is not the entrypoint. -/
theorem Served.sourceAt?_eq {s : State} (hserved : Served w s p rule bytes)
    (hentry : entry ∈ s.visited) :
    sourceAt? w code entry p = rule.kind.parseMode?.map (⟨Utf8.decodeLossy bytes, p, ·⟩) := by
  have hne : p ≠ entry := fun h => hserved.is_new (h ▸ hentry)
  exact sourceAt?_of_rule hne hserved.rule_eq hserved.read_eq

theorem Arrival.sourceAt?_eq {item : Pending} {source : Source} {s s' : State}
    (harrive : Arrival w item s (.ok (some source), s')) (hentry : entry ∈ s.visited) :
    sourceAt? w code entry source.path = some source := by
  cases harrive with
  | source specifier path rule bytes mode hleads hserved hkind =>
      rw [hserved.sourceAt?_eq hentry, hkind]
      rfl

theorem recordAt?_of_source {source : Source} (hsource : sourceAt? w code entry p = some source) :
    recordAt? w code entry p = some (w.sourceModule source) := by
  rw [recordAt?, hsource]

theorem recordAt?_of_asset (hsource : sourceAt? w code entry p = none)
    (hrule : CompiledRule.find? w.rules p = some rule)
    (hread : w.runtime.readFile p = .ok bytes) :
    recordAt? w code entry p = some ⟨moduleName w.root p, .ofBytes rule.kind bytes⟩ := by
  rw [recordAt?, hsource, hrule, hread]

/-- A path with a module has a rule and contents, unless it is the entrypoint. -/
theorem exists_of_recordAt? {m : WorkerModule} (hrecord : recordAt? w code entry p = some m)
    (hentry : p ≠ entry) :
    (∃ rule, CompiledRule.find? w.rules p = some rule) ∧
      ∃ bytes, w.runtime.readFile p = .ok bytes := by
  rw [recordAt?, sourceAt?, if_neg hentry] at hrecord
  cases hrule : CompiledRule.find? w.rules p with
  | none => simp [hrule] at hrecord
  | some rule =>
      cases hread : w.runtime.readFile p with
      | error cause => simp [hrule, hread] at hrecord
      | ok bytes => exact ⟨⟨rule, rfl⟩, bytes, rfl⟩

end ModuleDiscovery.Walk
