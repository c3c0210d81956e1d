import ModuleDiscovery.Proofs.ModuleName
import ModuleDiscovery.Proofs.Walk.Canonical
import ModuleDiscovery.Proofs.Walk.Ledger
import ModuleDiscovery.Proofs.Walk.Records

/-!
# Names tell files apart

Nothing in a walk compares the names of modules, so two modules of one name would go
unnoticed.  A walk from one entrypoint has no such modules among those to which the way
from the root is text, whatever comes of it.

## Strategy

A name leads from the root to what is shown of its file (`Path.clean_join_moduleName`).
Where the path of the file is canonical and the way to it is text, that is the file itself,
so such files have distinct names.  The paths that a walk visits are canonical as long as it
only follows specifiers of canonical files that have a directory (`Grounded`).  Only `/` has
none; a walk that does not start there comes to `/` by a specifier at most, and stops when
there is no file.

A walk from an inline script goes nowhere else, since its specifiers are refused.

## Main results

* `names_identify`: where the names of a walk lead, and which of them are distinct.
-/

namespace ModuleDiscovery

open Walk

/-- No file is at the root directory of the disk. -/
def Runtime.Rootless (runtime : Runtime) : Prop :=
  ∀ bytes, runtime.readFile "/" ≠ .ok bytes

theorem Runtime.Rootless.ne_root {runtime : Runtime} {p : Path} {bytes : Bytes}
    (hrootless : runtime.Rootless) (hread : runtime.readFile p = .ok bytes) : p ≠ "/" := by
  rintro rfl
  exact hrootless bytes hread

theorem Walker.rootless_circle : Walker.circle.runtime.Rootless := by
  intro bytes hread
  cases hread

namespace Walk

variable {w : Walker} {code : String} {path entry p : Path} {m : WorkerModule}
  {postings : List Posting} {item : Pending} {pending rest : List Pending} {source : Source}
  {s s' : State} {r : Except Stop Unit}

theorem absolutize_of_canonical (hp : p.Canonical) : w.absolutize p = .ok p := by
  rw [Walker.absolutize, if_neg (by simp [Path.not_isScriptId_of_isAbsolute hp.absolute]),
    if_pos hp.absolute, hp.clean_eq]

/-! ## Recorded paths -/

/-- Postings without a gap put the paths and the modules side by side. -/
theorem Full.forall₂ {R : Path → WorkerModule → Prop} (hfull : Full postings)
    (hstands : ∀ p m, (p, some m) ∈ postings → R p m) :
    List.Forall₂ R (postings.map Prod.fst) (postings.filterMap Prod.snd) := by
  induction postings with
  | nil => exact List.Forall₂.nil
  | cons posting postings ih =>
      obtain ⟨p, record⟩ := posting
      obtain ⟨hrecord, hrest⟩ := List.forall_mem_cons.mp hfull
      obtain ⟨m, rfl⟩ := Option.isSome_iff_exists.mp hrecord
      exact List.Forall₂.cons (hstands p m List.mem_cons_self)
        (ih hrest fun q n hmem => hstands q n (List.mem_cons_of_mem _ hmem))

theorem Books.exists_recorded (hbooks : Books w code entry .fresh r s) :
    ∃ recorded, recorded <+: s.visited ∧
      List.Forall₂ (fun p m => recordAt? w code entry p = some m) recorded s.modules := by
  obtain ⟨postings, ⟨hvisited, hmodules, hstands⟩, hclosed⟩ := hbooks
  rw [hvisited, hmodules]
  cases hclosed with
  | full hfull => exact ⟨_, List.prefix_rfl, hfull.forall₂ hstands⟩
  | @short front p stop hfull =>
      -- the path that was visited last is the one without a module
      refine ⟨front.map Prod.fst, by simp [State.fresh], ?_⟩
      have hfront := hfull.forall₂ fun q n hmem => hstands q n (List.mem_append_left _ hmem)
      simpa [State.fresh] using hfront

/-- Whatever came of a walk, its modules stand for the first of the visited paths. -/
theorem exists_recorded (habs : w.absolutize path = .ok entry) (code : String) :
    ∃ recorded, recorded <+: ((w.visitEntrypoint code path).run .fresh).2.visited ∧
      List.Forall₂ (fun p m => recordAt? w code entry p = some m) recorded
        ((w.visitEntrypoint code path).run .fresh).2.modules := by
  have hcall : w.absolutize (code, path).2 = .ok entry := habs
  exact (books_of_absolutize hcall .fresh).exists_recorded

/-! ## Walks among canonical paths -/

/-- The invariant of walks from files and from inline scripts: what has been visited is
canonical or one of the scripts, and what is pending stands in files that have a directory, or
in scripts, whose specifiers are refused. -/
structure Grounded (scripts : Path → Prop) (pending : List Pending) (s : State) : Prop where
  visited : ∀ p ∈ s.visited, p.Canonical ∨ scripts p
  importers : ∀ item ∈ pending, (item.importer.Canonical ∧ item.importer ≠ "/") ∨
    (ScriptId.parse? item.name).isSome

variable {scripts : Path → Prop}

theorem Grounded.canonical (hI : Grounded scripts (item :: rest) s) {specifier : String}
    (hleads : Leads w item specifier p) : p.Canonical := by
  rcases hI.importers item List.mem_cons_self with ⟨hcanonical, hroot⟩ | hscript
  · rw [hleads.path_eq]
    exact canonical_resolve hcanonical hroot specifier
  · rw [hleads.not_script] at hscript
    cases hscript

theorem Grounded.visit (hI : Grounded scripts (item :: rest) s) {specifier : String}
    (hleads : Leads w item specifier p) (hvisited : s'.visited = s.visited ++ [p]) :
    Grounded scripts rest s' := by
  refine ⟨fun q hq => ?_, fun other hother => hI.importers other (List.mem_cons_of_mem _ hother)⟩
  rw [hvisited, List.mem_append, List.mem_singleton] at hq
  rcases hq with hq | rfl
  exacts [hI.visited q hq, Or.inl (hI.canonical hleads)]

theorem Grounded.arrive (hI : Grounded scripts (item :: rest) s)
    {outcome : Except Stop (Option Source)} (harrive : Arrival w item s (outcome, s')) :
    Grounded scripts rest s' := by
  have htail : Grounded scripts rest s :=
    ⟨hI.visited, fun other hother => hI.importers other (List.mem_cons_of_mem _ hother)⟩
  cases harrive with
  | dynamic | script => exact htail
  | provided | visited => exact ⟨htail.visited, htail.importers⟩
  | unmatched _ _ hleads | unreadable _ _ _ _ hleads => exact hI.visit hleads rfl
  | asset _ _ _ _ hleads | source _ _ _ _ _ hleads => exact hI.visit hleads rfl

/-- What is pending in a source that has a directory, or in an inline script, is in order. -/
theorem Grounded.opening (hI : Grounded scripts rest s)
    (hsource : (source.path.Canonical ∧ source.path ≠ "/") ∨ source.path.isScriptId)
    (hopen : Opening w source s (.ok pending, s')) : Grounded scripts (pending ++ rest) s' := by
  cases hopen with
  | parsed specifiers =>
      refine ⟨hI.visited, fun item hitem => ?_⟩
      rcases List.mem_append.mp hitem with h | h
      · obtain ⟨specifier, -, rfl⟩ := List.mem_map.mp h
        refine hsource.imp_right fun hscript => ?_
        rw [Path.moduleName_of_isScriptId w.root hscript]
        exact Path.isSome_parse?_text_iff.mpr hscript
      · exact hI.importers item h

/-- A source that an arrival leads to is a file in a directory. -/
theorem Grounded.source_canonical (hrootless : w.runtime.Rootless)
    (hI : Grounded scripts (item :: rest) s)
    (harrive : Arrival w item s (.ok (some source), s')) :
    source.path.Canonical ∧ source.path ≠ "/" := by
  cases harrive with
  | source _ _ _ _ _ hleads hserved =>
      exact ⟨hI.canonical hleads, hrootless.ne_root hserved.read_eq⟩

theorem kept_grounded (hrootless : w.runtime.Rootless) (scripts : Path → Prop) :
    Kept w (Grounded scripts) where
  passed hI harrive := hI.arrive harrive
  opened hI harrive hopen :=
    (hI.arrive harrive).opening (Or.inl (hI.source_canonical hrootless harrive)) hopen

theorem Ends.grounded (hends : Ends w (Grounded scripts) r s') :
    ∀ p ∈ s'.visited, p.Canonical ∨ scripts p := by
  cases hends with
  | done hI => exact hI.visited
  | halted hI harrive | cut hI harrive => exact (hI.arrive harrive).visited
  | unparsable hI harrive hopen =>
      rw [hopen.changes.1]
      exact (hI.arrive harrive).visited

/-- A call whose entrypoint is a file in a directory or one of the scripts goes to canonical
paths from there. -/
theorem grounded_stateAfter (hrootless : w.runtime.Rootless) (scripts : Path → Prop)
    (call : String × Path) (hs : ∀ p ∈ s.visited, p.Canonical ∨ scripts p)
    (hcall : ∀ entry, w.absolutize call.2 = .ok entry →
      (entry.Canonical ∧ entry ≠ "/") ∨ (entry.isScriptId ∧ scripts entry)) :
    ∀ p ∈ (w.stateAfter s call).visited, p.Canonical ∨ scripts p := by
  have hentered : ∀ entry, w.absolutize call.2 = .ok entry →
      Grounded scripts [] (s.visit entry) := by
    intro entry habs
    refine ⟨fun p hp => ?_, by simp⟩
    rw [State.visited_visit, List.mem_append, List.mem_singleton] at hp
    rcases hp with hp | rfl
    · exact hs p hp
    · exact (hcall p habs).imp And.left And.right
  have hentry := Walk.entry w call.1 call.2 s
  unfold Walker.stateAfter
  generalize (w.visitEntrypoint call.1 call.2).run s = outcome at hentry ⊢
  cases hentry with
  | unresolved => exact hs
  | visited => exact hs
  | unparsable habs _ hopen =>
      rw [(opening_of_run hopen).changes.1]
      exact (hentered _ habs).visited
  | opened habs _ hopen hdrains =>
      have hopened := (hentered _ habs).opening ((hcall _ habs).imp_right And.left)
        (opening_of_run hopen)
      rw [List.append_nil] at hopened
      exact (hdrains.ends (kept_grounded hrootless scripts) hopened).grounded

/-- A walk from a canonical path other than `/` only visits canonical paths. -/
theorem canonical_of_visitEntrypoint (hrootless : w.runtime.Rootless)
    (habs : w.absolutize path = .ok entry) (hcanonical : entry.Canonical) (hroot : entry ≠ "/")
    (code : String) :
    ∀ p ∈ ((w.visitEntrypoint code path).run .fresh).2.visited, p.Canonical := by
  intro p hp
  have hplaces := grounded_stateAfter (s := .fresh) hrootless (fun _ => False) (code, path)
    (by simp [State.fresh]) (fun target htarget => Or.inl (by
      obtain rfl := Except.ok.inj (habs.symm.trans htarget)
      exact ⟨hcanonical, hroot⟩))
  exact (hplaces p hp).resolve_right id

/-! ## Walks from inline scripts -/

/-- What is pending stands in inline scripts. -/
def Scripted (pending : List Pending) : Prop :=
  ∀ item ∈ pending, (ScriptId.parse? item.name).isSome

theorem Scripted.not_leads (hscripted : Scripted (item :: rest)) {specifier : String} :
    ¬ Leads w item specifier p := by
  intro hleads
  have hname := hscripted item List.mem_cons_self
  rw [hleads.not_script] at hname
  cases hname

/-- No specifier of an inline script leads to a path. -/
theorem Scripted.arrive (hscripted : Scripted (item :: rest))
    {outcome : Except Stop (Option Source)} (harrive : Arrival w item s (outcome, s')) :
    s'.visited = s.visited ∧ ∀ source, outcome ≠ .ok (some source) := by
  cases harrive with
  | dynamic | provided | script => exact ⟨rfl, by simp⟩
  | visited _ _ hleads | unmatched _ _ hleads | unreadable _ _ _ _ hleads
  | asset _ _ _ _ hleads | source _ _ _ _ _ hleads => exact absurd hleads hscripted.not_leads

theorem kept_scripted (w : Walker) (visited : List Path) :
    Kept w fun pending s => Scripted pending ∧ s.visited = visited where
  passed hI harrive :=
    ⟨fun item hitem => hI.1 item (List.mem_cons_of_mem _ hitem),
      (hI.1.arrive harrive).1.trans hI.2⟩
  opened hI harrive _ := absurd rfl ((hI.1.arrive harrive).2 _)

theorem Opening.scripted (hopen : Opening w source s (.ok pending, s'))
    (hscript : source.path.isScriptId) : Scripted pending := by
  cases hopen with
  | parsed specifiers =>
      intro item hitem
      obtain ⟨specifier, -, rfl⟩ := List.mem_map.mp hitem
      rw [Path.moduleName_of_isScriptId w.root hscript]
      exact Path.isSome_parse?_text_iff.mpr hscript

/-- A walk from an inline script visits nothing else. -/
theorem visited_of_script (habs : w.absolutize path = .ok entry) (hscript : entry.isScriptId)
    (code : String) : ((w.visitEntrypoint code path).run .fresh).2.visited = [entry] := by
  have hentry := Walk.entry w code path .fresh
  generalize (w.visitEntrypoint code path).run .fresh = outcome at hentry ⊢
  obtain ⟨r, s⟩ := outcome
  rcases hentry.ends (kept_scripted w _) habs List.not_mem_nil
    (fun _ _ hopen => ⟨hopen.scripted hscript, hopen.changes.1⟩) with hends | ⟨stop, -, hopen⟩
  · cases hends with
    | done hI => exact hI.2
    | halted hI harrive => exact (hI.1.arrive harrive).1.trans hI.2
    | unparsable hI harrive | cut hI harrive => exact absurd rfl ((hI.1.arrive harrive).2 _)
  · exact hopen.changes.1

/-! ## Names and paths -/

/-- How a module that was recorded in a walk from `path` stands for a visited path. -/
structure NamedAfter (w : Walker) (code : String) (path p : Path) (m : WorkerModule) : Prop where
  record : ∃ entry, w.absolutize path = .ok entry ∧ recordAt? w code entry p = some m
  /-- The name leads from the root to what is shown of the file. -/
  file : p.isScriptId = false → (w.root.clean.join m.name).clean = p.shownFrom w.root
  /-- That is the file itself exactly if the way to it is text. -/
  back : p.isScriptId = false → ((w.root.clean.join m.name).clean = p ↔ p.isTextFrom w.root)
  script : p.isScriptId → p = path ∧ m.name = path.text

/-- Canonical paths, or a lone inline script. -/
def Placed (path : Path) (visited : List Path) : Prop :=
  (∀ p ∈ visited, p.Canonical) ∨ path.isScriptId ∧ visited = [path]

/-- A walk that does not start at `/` visits canonical paths, or a lone inline script. -/
theorem placed_of_visitEntrypoint (hcwd : ∀ dir, w.runtime.cwd = .ok dir → dir.isAbsolute)
    (hrootless : w.runtime.Rootless) (habs : w.absolutize path = .ok entry)
    (hroot : entry ≠ "/") (code : String) :
    Placed path ((w.visitEntrypoint code path).run .fresh).2.visited := by
  rcases canonical_or_script_of_absolutize hcwd habs with hcanonical | ⟨hscript, rfl⟩
  · exact Or.inl (canonical_of_visitEntrypoint hrootless habs hcanonical hroot code)
  · exact Or.inr ⟨hscript, visited_of_script habs hscript code⟩

/-- Files to which the ways are text have distinct names. -/
theorem eq_of_moduleName_eq {root p q : Path} (hp : p.Canonical) (hq : q.Canonical)
    (hptext : p.isTextFrom root) (hqtext : q.isTextFrom root)
    (hname : moduleName root p = moduleName root q) : p = q := by
  rw [← (Path.clean_join_moduleName_eq_iff root hp).mpr hptext, hname,
    (Path.clean_join_moduleName_eq_iff root hq).mpr hqtext]

theorem map_name_eq {recorded : List Path} {modules : List WorkerModule}
    (hpairs : List.Forall₂ (fun p m => recordAt? w code entry p = some m) recorded modules) :
    modules.map WorkerModule.name = recorded.map (moduleName w.root) := by
  induction hpairs with
  | nil => rfl
  | cons hrecord _ ih => rw [List.map_cons, List.map_cons, ih, name_of_recordAt? hrecord]

/-- Distinct paths that a walk visits have distinct names, where the ways to them are text. -/
theorem Placed.eq_of_moduleName_eq {visited : List Path} {q root : Path}
    (hplaced : Placed path visited) (hp : p ∈ visited) (hq : q ∈ visited)
    (hptext : p.isTextFrom root) (hqtext : q.isTextFrom root)
    (hname : moduleName root p = moduleName root q) : p = q := by
  rcases hplaced with hcanonical | ⟨-, rfl⟩
  · exact Walk.eq_of_moduleName_eq (hcanonical p hp) (hcanonical q hq) hptext hqtext hname
  · rw [List.mem_singleton.mp hp, List.mem_singleton.mp hq]

/-- The record of a path that a walk visits is named after it. -/
theorem Placed.namedAfter {visited : List Path} (hplaced : Placed path visited)
    (habs : w.absolutize path = .ok entry) (hp : p ∈ visited)
    (hrecord : recordAt? w code entry p = some m) : NamedAfter w code path p m := by
  have hfile : p.isScriptId = false → p.Canonical := by
    intro hfile
    rcases hplaced with hcanonical | ⟨hscript, rfl⟩
    · exact hcanonical p hp
    · rw [List.mem_singleton.mp hp, hscript] at hfile
      cases hfile
  have hname := name_of_recordAt? hrecord
  refine ⟨⟨entry, habs, hrecord⟩, fun h => ?_, fun h => ?_, fun hscript => ?_⟩
  · rw [hname, Path.clean_join_moduleName w.root (hfile h).absolute]
  · rw [hname, Path.clean_join_moduleName_eq_iff w.root (hfile h)]
  · rcases hplaced with hcanonical | ⟨-, rfl⟩
    · rw [Path.not_isScriptId_of_isAbsolute (hcanonical p hp).absolute] at hscript
      cases hscript
    · obtain rfl := List.mem_singleton.mp hp
      rw [hname, Path.moduleName_of_isScriptId w.root hscript]
      exact ⟨rfl, rfl⟩

/-- The names of modules at files lead to what is shown of these files. -/
theorem map_clean_join_name {recorded : List Path} {modules : List WorkerModule}
    (hpairs : List.Forall₂ (fun p m => recordAt? w code entry p = some m) recorded modules)
    (hfiles : ∀ p ∈ recorded, p.isAbsolute) :
    modules.map (fun m => (w.root.clean.join m.name).clean) =
      recorded.map (·.shownFrom w.root) := by
  induction hpairs with
  | nil => rfl
  | cons hrecord _ ih =>
      rw [List.forall_mem_cons] at hfiles
      rw [List.map_cons, List.map_cons, ih hfiles.2, name_of_recordAt? hrecord,
        Path.clean_join_moduleName w.root hfiles.1]

/-- Below an absolute working directory, with no file at `/`, a walk from an entrypoint
that is not at `/` has its modules stand for the first of the visited paths, each for its
own, whatever comes of it.  The name of a module leads from the root to what is shown of
the path it stands for, which is the path itself where the way to it is text, unless the
module is an inline script that was given as the entrypoint.  Among the modules to which
the ways are text, the names are distinct. -/
theorem names_identify (w : Walker) (hcwd : ∀ dir, w.runtime.cwd = .ok dir → dir.isAbsolute)
    (hrootless : w.runtime.Rootless) (code : String) (path : Path)
    (hentry : w.absolutize path ≠ .ok "/") :
    let s := ((w.visitEntrypoint code path).run .fresh).2
    ∃ recorded, recorded <+: s.visited ∧
      List.Forall₂ (NamedAfter w code path) recorded s.modules ∧
      (recorded.zip s.modules).Pairwise fun a b =>
        a.1.isTextFrom w.root → b.1.isTextFrom w.root → a.2.name ≠ b.2.name := by
  intro s
  cases habs : w.absolutize path with
  | error e =>
      have hs : s = .fresh := by
        simp only [s, Walker.visitEntrypoint, habs, run_fail]
      rw [hs]
      exact ⟨[], List.prefix_rfl, List.Forall₂.nil, List.Pairwise.nil⟩
  | ok entry =>
      have hroot : entry ≠ "/" := fun h => hentry (h ▸ habs)
      have hplaced := placed_of_visitEntrypoint hcwd hrootless habs hroot code
      obtain ⟨recorded, hfront, hpairs⟩ := exists_recorded habs code
      have hnodup : recorded.Nodup := hfront.sublist.nodup (nodup_visited w code path)
      have hstands : ∀ a ∈ recorded.zip s.modules, recordAt? w code entry a.1 = some a.2 :=
        fun _ hmem => (List.forall₂_iff_zip.mp hpairs).2 hmem
      have hvisited : ∀ a ∈ recorded.zip s.modules, a.1 ∈ s.visited :=
        fun _ hmem => hfront.subset (List.of_mem_zip hmem).1
      refine ⟨recorded, hfront, List.forall₂_iff_zip.mpr ⟨hpairs.length_eq, fun hmem =>
        hplaced.namedAfter habs (hvisited _ hmem) (hstands _ hmem)⟩, ?_⟩
      have hdistinct : (recorded.zip s.modules).Pairwise fun a b => a.1 ≠ b.1 := by
        rw [← List.pairwise_map, List.map_fst_zip hpairs.length_eq.le]
        exact hnodup
      refine hdistinct.imp_of_mem fun {a b} ha hb hne hatext hbtext hname => hne ?_
      rw [name_of_recordAt? (hstands a ha), name_of_recordAt? (hstands b hb)] at hname
      exact hplaced.eq_of_moduleName_eq (hvisited a ha) (hvisited b hb) hatext hbtext hname

/-- The files lie outside the root that names them, and one of them is missing. -/
theorem names_identify_missing :
    let w : Walker := { Walker.circle with
      root := "/lib"
      runtime := .ofFiles (.ok "/") [("/a.js", .ok [])] }
    let s := ((w.visitEntrypoint "" "/lib/../c.js").run .fresh).2
    s.modules.map WorkerModule.name = ["../c.js", "../a.js"] ∧
      s.visited = (["/c.js", "/a.js", "/b.js"] : List Path) ∧
      ∃ recorded, recorded <+: s.visited ∧
        List.Forall₂ (NamedAfter w "" "/lib/../c.js") recorded s.modules ∧
        (recorded.zip s.modules).Pairwise fun a b =>
          a.1.isTextFrom w.root → b.1.isTextFrom w.root → a.2.name ≠ b.2.name := by
  intro w s
  have hcwd : ∀ dir, w.runtime.cwd = .ok dir → dir.isAbsolute := by
    intro dir hdir
    obtain rfl := Except.ok.inj hdir
    decide
  have hrootless : w.runtime.Rootless := by
    intro bytes hread
    cases hread
  have hentry : w.absolutize "/lib/../c.js" ≠ .ok "/" := by decide +kernel
  exact ⟨by decide +kernel, by decide +kernel,
    names_identify w hcwd hrootless "" "/lib/../c.js" hentry⟩

/-- Two files that differ where the path of one is malformed have the same name, which leads
to the other one.  And a walk that starts at `/` in another spelling goes to a relative
path, to which the name does not lead back. -/
theorem names_collide :
    let entry : Path := ⟨Utf8.encode "/w/" ++ 0xFF :: Utf8.encode "/a.js"⟩
    let w : Walker := { Walker.circle with
      root := "/w"
      runtime := .ofFiles (.ok "/w") [("/w/\uFFFD/a.js", .ok [])]
      parser := fun _ _ => .ok [.literal "../\uFFFD/a.js" ⟨1, 1⟩] }
    let s := ((w.visitEntrypoint "" entry).run .fresh).2
    let astray : Walker := { Walker.circle with
      root := "/w"
      runtime := .ofFiles (.ok "/w") [("lib/a.js", .ok []), ("/lib/a.js", .ok [])]
      rules := [⟨.text, [⟨"*", [.anySequence]⟩]⟩]
      parser := fun _ _ => .ok [.literal "./lib/a.js" ⟨1, 1⟩] }
    let t := ((astray.visitEntrypoint "" "/..").run .fresh).2
    (w.runtime.readFile "/" = .error (.fileNotFound "/") ∧ w.absolutize entry = .ok entry ∧
        s.visited = [entry, ("/w/\uFFFD/a.js" : Path)] ∧
        s.modules.map WorkerModule.name = ["\uFFFD/a.js", "\uFFFD/a.js"] ∧
        (w.root.clean.join "\uFFFD/a.js").clean ≠ entry) ∧
      astray.runtime.readFile "/" = .error (.fileNotFound "/") ∧ ("/.." : Path) ≠ "/" ∧
        t.visited = (["/", "lib/a.js"] : List Path) ∧
        t.modules.map WorkerModule.name = ["..", "../../lib/a.js"] ∧
        (astray.root.clean.join "../../lib/a.js").clean ≠ "lib/a.js" := by
  decide +kernel

end Walk

end ModuleDiscovery
