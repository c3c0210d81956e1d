import ModuleDiscovery.Collect
import ModuleDiscovery.Proofs.Walk.Calls
import ModuleDiscovery.Proofs.Walk.Discovery

/-!
# What a successful walk has recorded

A walk writes down what it reads and what it parses in its trace, and what it finds in
its record.  After a success the two agree: apart from the entrypoint, which is an ES
module with the code that was given, each module was made from the bytes of its file as
the first rule that matches the file says (`FileRecord`), the files were read one after
the other in the order of the modules, and the sources that were parsed are those that
were recorded.

Who imported a file first plays no part in this.  `FileRecord` looks at the file, the
rules and the root alone, so two walks that share these agree on every file that both
record.

## Main results

* `visitEntrypoint_faithful`: the laws of the records of a successful walk.
-/

namespace ModuleDiscovery

open Walk

/-- The source of a JavaScript module, with the mode that its kind is parsed in. -/
def WorkerModule.javaScript? (m : WorkerModule) : Option (String × ParseMode) :=
  match m.contents with
  | .esModule code => some (code, .module)
  | .commonJs code => some (code, .script)
  | _ => none

/-- The source and the mode of a parse. -/
def Event.parseCall? : Event → Option (String × ParseMode)
  | parsed _ code mode => some (code, mode)
  | _ => none

attribute [simp] Event.parseCall?

/-! ## The contents of a file -/

/-- The module of some bytes at a path. -/
def WorkerModule.ofBytes (root : Path) (kind : ContentKind) (p : Path) (bytes : Bytes) :
    WorkerModule :=
  ⟨moduleName root p, ModuleDefinition.contentsOf kind p bytes⟩

@[simp] theorem WorkerModule.name_ofBytes (root : Path) (kind : ContentKind) (p : Path)
    (bytes : Bytes) : (ofBytes root kind p bytes).name = moduleName root p := rfl

section

variable {kind : ContentKind} {mode : ParseMode}

@[simp] theorem kind?_contentsOf (kind : ContentKind) (p : Path) (bytes : Bytes) :
    (ModuleDefinition.contentsOf kind p bytes).kind? = some kind := by
  cases kind <;> rfl

theorem contentsOf_of_asset (hkind : kind.parseMode? = none) (p : Path) (bytes : Bytes) :
    ModuleDefinition.contentsOf kind p bytes = .ofBytes kind bytes := by
  cases kind <;> first | rfl | cases hkind

theorem contentsOf_of_source (hkind : kind.parseMode? = some mode) (p : Path) (bytes : Bytes) :
    ModuleDefinition.contentsOf kind p bytes =
      Walker.javaScriptContents mode (Walker.stamped ⟨Utf8.decodeLossy bytes, p, mode⟩) := by
  cases kind <;> cases hkind <;> rfl

theorem ofBytes_of_source (hkind : kind.parseMode? = some mode) (w : Walker) (p : Path)
    (bytes : Bytes) :
    WorkerModule.ofBytes w.root kind p bytes =
      w.sourceModule ⟨Utf8.decodeLossy bytes, p, mode⟩ := by
  rw [WorkerModule.ofBytes, contentsOf_of_source hkind]
  rfl

theorem javaScript?_sourceModule (w : Walker) (source : Source) :
    (w.sourceModule source).javaScript? = some (Walker.stamped source, source.mode) := by
  obtain ⟨text, path, mode⟩ := source
  cases mode <;> rfl

theorem javaScript?_of_asset (hkind : kind.parseMode? = none) (name : String) (bytes : Bytes) :
    WorkerModule.javaScript? ⟨name, .ofBytes kind bytes⟩ = none := by
  cases kind <;> first | rfl | cases hkind

end

/-! ## Lists side by side -/

section

variable {α β : Type} {R : α → β → Prop} {as : List α} {bs : List β}

theorem exists_partner_of_mem_left (hpairs : List.Forall₂ R as bs) {a : α} (ha : a ∈ as) :
    ∃ b, (a, b) ∈ as.zip bs ∧ R a b := by
  rw [← List.map_fst_zip hpairs.length_eq.le] at ha
  obtain ⟨⟨_, b⟩, hmem, rfl⟩ := List.mem_map.mp ha
  exact ⟨b, hmem, (List.forall₂_iff_zip.mp hpairs).2 hmem⟩

theorem exists_partner_of_mem_right (hpairs : List.Forall₂ R as bs) {b : β} (hb : b ∈ bs) :
    ∃ a, (a, b) ∈ as.zip bs ∧ R a b := by
  rw [← List.map_snd_zip hpairs.length_eq.ge] at hb
  obtain ⟨⟨a, _⟩, hmem, rfl⟩ := List.mem_map.mp hb
  exact ⟨a, hmem, (List.forall₂_iff_zip.mp hpairs).2 hmem⟩

end

namespace Walk

/-- The sources that were handed to the parser, in order. -/
def State.parseCalls (s : State) : List (String × ParseMode) :=
  s.events.filterMap Event.parseCall?

@[simp] theorem State.parseCalls_visit (s : State) (path : Path) :
    (s.visit path).parseCalls = s.parseCalls := rfl

@[simp] theorem State.parseCalls_add (s : State) (m : WorkerModule) :
    (s.add m).parseCalls = s.parseCalls := rfl

@[simp] theorem State.parseCalls_note (s : State) (events : List Event) :
    (s.note events).parseCalls = s.parseCalls ++ events.filterMap Event.parseCall? := by
  simp [State.parseCalls, State.note]

/-- A module that was made from the file at a path, as the first rule that matches the
path says. -/
def FileRecord (w : Walker) (p : Path) (m : WorkerModule) : Prop :=
  ∃ rule bytes, CompiledRule.find? w.rules p = some rule ∧ w.runtime.readFile p = .ok bytes ∧
    m.name = moduleName w.root p ∧ m.kind? = some rule.kind ∧
      m.contents = ModuleDefinition.contentsOf rule.kind p bytes

/-- The contents of a record, kind by kind. -/
theorem FileRecord.contents_eq {w : Walker} {p : Path} {m : WorkerModule}
    (hm : FileRecord w p m) :
    ∃ rule bytes, CompiledRule.find? w.rules p = some rule ∧ w.runtime.readFile p = .ok bytes ∧
      m.contents = match rule.kind with
        | .esModule => .esModule (SourceUrl.stamp (Utf8.decodeLossy bytes) (SourceUrl.locator p))
        | .commonJs => .commonJs (SourceUrl.stamp (Utf8.decodeLossy bytes) (SourceUrl.locator p))
        | .text => .text (Utf8.decodeLossy bytes)
        | .data => .data bytes
        | .compiledWasm => .wasm bytes
        | .pythonModule => .pythonModule (Utf8.decodeLossy bytes)
        | .pythonRequirement => .pythonRequirement (Utf8.decodeLossy bytes) := by
  obtain ⟨rule, bytes, hrule, hread, -, -, hcontents⟩ := hm
  refine ⟨rule, bytes, hrule, hread, hcontents.trans ?_⟩
  cases rule.kind <;> rfl

/-- A specifier that the parser reports for the source of a module. -/
inductive Reports (w : Walker) (m : WorkerModule) (specifier : Specifier) : Prop
  | intro {code : String} {mode : ParseMode} {specifiers : List Specifier}
      (hsource : m.javaScript? = some (code, mode))
      (hparse : w.parser code mode = .ok specifiers) (hmem : specifier ∈ specifiers)

variable {w w₂ : Walker} {code code₂ : String} {path path₂ entry p : Path}
  {m m₂ : WorkerModule} {specifier : Specifier} {pending : List Pending} {s s₁ : State} {bound : ℕ}

/-! ## The module at a path -/

theorem path_of_sourceAt? {source : Source} (hsource : sourceAt? w code entry p = some source) :
    source.path = p := by
  unfold sourceAt? at hsource
  split_ifs at hsource with hentry
  · obtain rfl := Option.some.inj hsource
    exact hentry.symm
  · cases hrule : CompiledRule.find? w.rules p with
    | none => simp [hrule] at hsource
    | some rule =>
        cases hread : w.runtime.readFile p with
        | error cause => simp [hrule, hread] at hsource
        | ok bytes =>
            simp only [hrule, hread] at hsource
            obtain ⟨mode, -, rfl⟩ := Option.map_eq_some_iff.mp hsource
            rfl

theorem name_of_recordAt? (hrecord : recordAt? w code entry p = some m) :
    m.name = moduleName w.root p := by
  unfold recordAt? at hrecord
  split at hrecord
  · next source _ _ hsource =>
      obtain rfl := Option.some.inj hrecord
      rw [Walker.sourceModule, path_of_sourceAt? hsource]
  · obtain rfl := Option.some.inj hrecord
    rfl
  · cases hrecord

/-- A file other than the entrypoint is a source or an asset, by its rule. -/
theorem fileRecord_of_recordAt? (hrecord : recordAt? w code entry p = some m)
    (hentry : p ≠ entry) : FileRecord w p m := by
  obtain ⟨⟨rule, hrule⟩, bytes, hread⟩ := exists_of_recordAt? hrecord hentry
  have hsource : sourceAt? w code entry p = _ := sourceAt?_of_rule hentry hrule hread
  suffices hcontents : m.contents = ModuleDefinition.contentsOf rule.kind p bytes by
    refine ⟨rule, bytes, hrule, hread, name_of_recordAt? hrecord, ?_, hcontents⟩
    rw [WorkerModule.kind?, hcontents, kind?_contentsOf]
  cases hkind : rule.kind.parseMode? with
  | none =>
      rw [hkind] at hsource
      obtain rfl := Option.some.inj (hrecord.symm.trans (recordAt?_of_asset hsource hrule hread))
      rw [contentsOf_of_asset hkind]
  | some mode =>
      rw [hkind] at hsource
      obtain rfl := Option.some.inj (hrecord.symm.trans (recordAt?_of_source hsource))
      rw [contentsOf_of_source hkind]
      rfl

/-- The file, the rules and the root settle what is recorded. -/
theorem FileRecord.unique (hruntime : w₂.runtime = w.runtime) (hrules : w₂.rules = w.rules)
    (hroot : w₂.root = w.root) (hm : FileRecord w p m) (hm₂ : FileRecord w₂ p m₂) : m₂ = m := by
  obtain ⟨rule, bytes, hrule, hread, hname, -, hcontents⟩ := hm
  obtain ⟨rule₂, bytes₂, hrule₂, hread₂, hname₂, -, hcontents₂⟩ := hm₂
  rw [hrules] at hrule₂
  rw [hruntime] at hread₂
  obtain rfl := Option.some.inj (hrule.symm.trans hrule₂)
  obtain rfl := Except.ok.inj (hread.symm.trans hread₂)
  cases m
  cases m₂
  simp_all

/-- The source of a record is the stamped source at its path. -/
theorem javaScript?_of_recordAt? (hrecord : recordAt? w code entry p = some m) :
    m.javaScript? =
      (sourceAt? w code entry p).map fun source => (Walker.stamped source, source.mode) := by
  cases hsource : sourceAt? w code entry p with
  | some source =>
      obtain rfl := Option.some.inj (hrecord.symm.trans (recordAt?_of_source hsource))
      exact javaScript?_sourceModule w source
  | none =>
      have hentry : p ≠ entry := by
        rintro rfl
        cases sourceAt?_entry.symm.trans hsource
      obtain ⟨⟨rule, hrule⟩, bytes, hread⟩ := exists_of_recordAt? hrecord hentry
      have hkind : rule.kind.parseMode? = none := by
        rw [sourceAt?_of_rule hentry hrule hread] at hsource
        simpa using hsource
      obtain rfl := Option.some.inj (hrecord.symm.trans (recordAt?_of_asset hsource hrule hread))
      exact javaScript?_of_asset hkind _ bytes

/-- What the parser reports for a record are the specifiers at its path. -/
theorem reports_iff (hrecord : recordAt? w code entry p = some m) :
    Reports w m specifier ↔ HasSpecifier w code entry p specifier := by
  have hjavaScript := javaScript?_of_recordAt? hrecord
  constructor
  · rintro ⟨hsource, hparse, hmem⟩
    rw [hjavaScript] at hsource
    obtain ⟨source, hat, hpair⟩ := Option.map_eq_some_iff.mp hsource
    cases hpair
    exact ⟨hat, hparse, hmem⟩
  · rintro ⟨hsource, hparse, hmem⟩
    rw [hsource, Option.map_some] at hjavaScript
    exact ⟨hjavaScript, hparse, hmem⟩

/-! ## Invariants at the end of a walk -/

/-- What one pop keeps, and what is pending in the entrypoint starts, holds after a
successful walk, whatever its bound. -/
theorem invariant_of_ok {I : List Pending → State → Prop} (hkept : Kept w I)
    (habs : w.absolutize path = .ok entry)
    (hopened : ∀ pending s₁, Opening w ⟨code, entry, .module⟩ (State.fresh.visit entry)
      (.ok pending, s₁) → I pending s₁)
    (hrun : (w.visitWithin bound code path).run .fresh = (.ok (), s)) : I [] s := by
  rcases (entry_of_ok hrun).ends hkept habs List.not_mem_nil hopened with hends | ⟨stop, hstop, -⟩
  · cases hends with
    | done hI => exact hI
  · cases hstop

theorem exists_absolutize_of_ok
    (hrun : (w.visitWithin bound code path).run .fresh = (.ok (), s)) :
    ∃ entry, w.absolutize path = .ok entry := by
  cases entry_of_ok hrun with
  | visited habs | opened habs => exact ⟨_, habs⟩

theorem frontier_of_ok (habs : w.absolutize path = .ok entry)
    (hrun : (w.visitWithin bound code path).run .fresh = (.ok (), s)) :
    Frontier w code entry [] s :=
  invariant_of_ok (kept_frontier w code entry) habs (fun _ _ => Opening.frontier) hrun

/-- A path is read in the step that visits it, apart from the entrypoint. -/
theorem kept_reads (w : Walker) (entry : Path) :
    Kept w fun _ s => s.visited = entry :: s.reads where
  passed hreads harrive := by
    cases harrive with
    | provided | visited => simpa [List.filterMap_cons] using hreads
    | asset => simp [hreads, List.filterMap_cons]
  opened hreads harrive hopen := by
    cases harrive with
    | source => cases hopen with
      | parsed => simp [hreads, List.filterMap_cons]

/-- A source is parsed in the step that records it. -/
theorem kept_parseCalls (w : Walker) :
    Kept w fun _ s => s.parseCalls = s.modules.filterMap WorkerModule.javaScript? where
  passed hcalls harrive := by
    cases harrive with
    | provided | visited => simpa [List.filterMap_cons] using hcalls
    | asset specifier path rule bytes hleads hserved hkind =>
        simp [hcalls, List.filterMap_cons, javaScript?_of_asset hkind]
  opened hcalls harrive hopen := by
    cases harrive with
    | source => cases hopen with
      | parsed => simp [hcalls, List.filterMap_cons, javaScript?_sourceModule]

theorem visited_eq_of_ok (habs : w.absolutize path = .ok entry)
    (hrun : (w.visitWithin bound code path).run .fresh = (.ok (), s)) :
    s.visited = entry :: s.reads := by
  refine invariant_of_ok (kept_reads w entry) habs (fun pending s₁ hopen => ?_) hrun
  cases hopen with
  | parsed => simp [State.reads, State.fresh, State.visit, State.note, State.add]

theorem parseCalls_eq_of_ok (habs : w.absolutize path = .ok entry)
    (hrun : (w.visitWithin bound code path).run .fresh = (.ok (), s)) :
    s.parseCalls = s.modules.filterMap WorkerModule.javaScript? := by
  refine invariant_of_ok (kept_parseCalls w) habs (fun pending s₁ hopen => ?_) hrun
  cases hopen with
  | parsed =>
      simp [State.parseCalls, State.fresh, State.visit, State.note, State.add,
        javaScript?_sourceModule]

/-- A walk from a fresh state visits distinct paths, whatever comes of it. -/
theorem nodup_visited (w : Walker) (code : String) (path : Path) :
    ((w.visitEntrypoint code path).run .fresh).2.visited.Nodup :=
  ((progress_visitEntrypoint w code path .fresh).visited.of_nil rfl).1

/-- Visited paths and modules stand side by side. -/
theorem Frontier.forall₂ (hI : Frontier w code entry pending s) :
    List.Forall₂ (fun p m => recordAt? w code entry p = some m) s.visited s.modules := by
  have hrecords := hI.records
  rw [← List.forall₂_eq_eq_eq, List.forall₂_map_left_iff, List.forall₂_map_right_iff] at hrecords
  exact hrecords

/-! ## Records that agree with the files -/

/-- What a successful walk says of its records. -/
structure Faithful (w : Walker) (code : String) (entry : Path) (s : State) : Prop where
  /-- All paths but the entrypoint were read, in the order of the visits and only once. -/
  visited_eq : s.visited = entry :: s.reads
  nodup : s.visited.Nodup
  entry_record : s.modules.head? = some ⟨moduleName w.root entry,
    .esModule (SourceUrl.stamp code (SourceUrl.locator entry))⟩
  file_records : List.Forall₂ (FileRecord w) s.reads s.modules.tail
  parse_calls : s.parseCalls = s.modules.filterMap WorkerModule.javaScript?
  parsable : ∀ m ∈ s.modules, ∀ source mode, m.javaScript? = some (source, mode) →
    ∃ specifiers, w.parser source mode = .ok specifiers
  /-- What the parser reports for a record is provided or leads to a visited path. -/
  followed : ∀ p m, (p, m) ∈ s.visited.zip s.modules → ∀ specifier, Reports w m specifier →
    ∃ text position, specifier = .literal text position ∧
      (NodeCompat.isProvided w.nodeCompat w.external text ∨ Walker.resolve p text ∈ s.visited)
  /-- Nothing else leads to a path that was read. -/
  led : ∀ q ∈ s.reads, ∃ p m text position, (p, m) ∈ s.visited.zip s.modules ∧
    Reports w m (.literal text position) ∧
      NodeCompat.isProvided w.nodeCompat w.external text = false ∧ q = Walker.resolve p text

theorem Frontier.parsable (hI : Frontier w code entry pending s) (hm : m ∈ s.modules)
    {source : String} {mode : ParseMode} (hsource : m.javaScript? = some (source, mode)) :
    ∃ specifiers, w.parser source mode = .ok specifiers := by
  obtain ⟨p, hmem, hrecord⟩ := exists_partner_of_mem_right hI.forall₂ hm
  rw [javaScript?_of_recordAt? hrecord] at hsource
  obtain ⟨origin, horigin, hpair⟩ := Option.map_eq_some_iff.mp hsource
  cases hpair
  exact (hI.loaded p (List.of_mem_zip hmem).1).parsed origin horigin

theorem Frontier.followed (hI : Frontier w code entry [] s)
    (hmem : (p, m) ∈ s.visited.zip s.modules) (hreports : Reports w m specifier) :
    ∃ text position, specifier = .literal text position ∧
      (NodeCompat.isProvided w.nodeCompat w.external text ∨ Walker.resolve p text ∈ s.visited) := by
  have hrecord : recordAt? w code entry p = some m := (List.forall₂_iff_zip.mp hI.forall₂).2 hmem
  have hspecifier := (reports_iff hrecord).mp hreports
  rcases hI.settled p (List.of_mem_zip hmem).1 specifier hspecifier with hsettled | h
  · cases hsettled with
    | provided hprovided => exact ⟨_, _, rfl, Or.inl hprovided⟩
    | visited _ hvisited => exact ⟨_, _, rfl, Or.inr hvisited⟩
  · cases h

theorem Frontier.led (hI : Frontier w code entry [] s) {q : Path} (hq : q ∈ s.visited)
    (hentry : q ≠ entry) : ∃ p m text position, (p, m) ∈ s.visited.zip s.modules ∧
      Reports w m (.literal text position) ∧
        NodeCompat.isProvided w.nodeCompat w.external text = false ∧
          q = Walker.resolve p text := by
  cases hI.reached q hq with
  | entry => exact absurd rfl hentry
  | @step p _ hreach hrefers =>
      cases hrefers with
      | intro hspecifier hprovided =>
          obtain ⟨m, hmem, hrecord⟩ := exists_partner_of_mem_left hI.forall₂ (hI.closed hreach)
          exact ⟨p, m, _, _, hmem, (reports_iff hrecord).mpr hspecifier, hprovided, rfl⟩

theorem faithful_of_ok (habs : w.absolutize path = .ok entry)
    (hrun : (w.visitEntrypoint code path).run .fresh = (.ok (), s)) :
    Faithful w code entry s := by
  have hI : Frontier w code entry [] s := frontier_of_ok habs hrun
  have hvisited : s.visited = entry :: s.reads := visited_eq_of_ok habs hrun
  have hnodup : s.visited.Nodup := by
    have hnodup := nodup_visited w code path
    rwa [hrun] at hnodup
  have hpairs := hI.forall₂
  rw [hvisited] at hpairs hnodup
  obtain ⟨first, rest, hfirst, hrest, hmodules⟩ := List.forall₂_cons_left_iff.mp hpairs
  have hnew : entry ∉ s.reads := (List.nodup_cons.mp hnodup).1
  refine ⟨hvisited, hvisited ▸ hnodup, ?_, ?_, parseCalls_eq_of_ok habs hrun,
    fun m hm _ _ hsource => hI.parsable hm hsource,
    fun p m hmem _ hreports => hI.followed hmem hreports, fun q hq => ?_⟩
  · obtain rfl := Option.some.inj (hfirst.symm.trans (recordAt?_of_source sourceAt?_entry))
    rw [hmodules]
    rfl
  · rw [hmodules]
    have hne : ∀ q ∈ s.reads, q ≠ entry := fun q hq h => hnew (h ▸ hq)
    have hfiles := (List.forall₂_and_left s.reads rest).mpr ⟨hne, hrest⟩
    exact hfiles.imp fun q m h => fileRecord_of_recordAt? h.2 h.1
  · exact hI.led (by simp [hvisited, hq]) fun h => hnew (h ▸ hq)

theorem eq_ok_of_fst_eq {outcome : Except Stop Unit × State} (hok : outcome.1 = .ok ()) :
    outcome = (.ok (), outcome.2) :=
  Prod.ext hok rfl

/-- After a successful walk the records agree with the files, the rules and what was
read and parsed; and any other walk with the same files, rules and root, whatever it
started from and in whatever order it found its modules, has the same record of every
file that both have read. -/
theorem visitEntrypoint_faithful (w : Walker) (code : String) (path : Path)
    (hok : ((w.visitEntrypoint code path).run .fresh).1 = .ok ()) :
    let s := ((w.visitEntrypoint code path).run .fresh).2
    (∃ entry, w.absolutize path = .ok entry ∧ Faithful w code entry s) ∧
      ∀ (w₂ : Walker) (code₂ : String) (path₂ : Path),
        w₂.runtime = w.runtime → w₂.rules = w.rules → w₂.root = w.root →
          ((w₂.visitEntrypoint code₂ path₂).run .fresh).1 = .ok () →
            let s₂ := ((w₂.visitEntrypoint code₂ path₂).run .fresh).2
            ∀ p m m₂, (p, m) ∈ s.reads.zip s.modules.tail →
              (p, m₂) ∈ s₂.reads.zip s₂.modules.tail → m₂ = m := by
  have hrun := eq_ok_of_fst_eq hok
  obtain ⟨entry, habs⟩ := exists_absolutize_of_ok hrun
  have hfaithful := faithful_of_ok habs hrun
  refine ⟨⟨entry, habs, hfaithful⟩, ?_⟩
  intro w₂ code₂ path₂ hruntime hrules hroot hok₂ s₂ p m m₂ hm hm₂
  have hrun₂ := eq_ok_of_fst_eq hok₂
  obtain ⟨entry₂, habs₂⟩ := exists_absolutize_of_ok hrun₂
  have hrecord := (List.forall₂_iff_zip.mp hfaithful.file_records).2 hm
  have hrecord₂ := (List.forall₂_iff_zip.mp (faithful_of_ok habs₂ hrun₂).file_records).2 hm₂
  exact FileRecord.unique hruntime hrules hroot hrecord hrecord₂

/-- A source that was read imports the entrypoint back, which is not read for all that.  A text
is recorded as it is decoded. -/
theorem visitEntrypoint_faithful_circle :
    let texts : Walker := { Walker.circle with
      runtime := .ofFiles (.ok "/") [("/b.txt", .ok [0x68, 0xFF])]
      parser := fun _ _ => .ok [.literal "./b.txt" ⟨1, 1⟩]
      rules := [⟨.text, [⟨"*", [.anySequence]⟩]⟩] }
    let s := ((Walker.circle.visitEntrypoint "" "a.js").run .fresh).2
    let t := ((texts.visitEntrypoint "" "a.js").run .fresh).2
    (s.reads = [("/b.js" : Path)] ∧
        List.Forall₂ (FileRecord .circle) s.reads s.modules.tail) ∧
      t.reads = [("/b.txt" : Path)] ∧ t.modules.tail = [⟨"b.txt", .text "h\uFFFD"⟩] ∧
        List.Forall₂ (FileRecord texts) t.reads t.modules.tail := by
  intro texts s t
  have hok : ((Walker.circle.visitEntrypoint "" "a.js").run .fresh).1 = .ok () := by
    decide +kernel
  have hok' : ((texts.visitEntrypoint "" "a.js").run .fresh).1 = .ok () := by
    decide +kernel
  obtain ⟨⟨entry, -, hfaithful⟩, -⟩ := visitEntrypoint_faithful .circle "" "a.js" hok
  obtain ⟨⟨entry', -, hfaithful'⟩, -⟩ := visitEntrypoint_faithful texts "" "a.js" hok'
  exact ⟨⟨by decide +kernel, hfaithful.file_records⟩, by decide +kernel, by decide +kernel,
    hfaithful'.file_records⟩

end Walk

end ModuleDiscovery
