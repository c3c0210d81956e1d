import ModuleDiscovery.Proofs.Walk.Calls

/-!
# Where visited paths lie

The paths that a walk visits are meant to be canonical, so that a file has one
spelling and is read where it lies.  Below a working directory that is absolute they
are: an entrypoint is made absolute, and a specifier is seen from the directory of a
canonical path.

There is one way out.  The path `/` has no directory, and an entrypoint may be given
that path.  Its specifiers are taken as they stand (`resolve_root`), so a relative
one leads to a relative path, and from there to others.  `Strayed` collects the paths
that this way leads to.

## Main results

* `visited_canonical`: every path that is visited or read is canonical, an inline
  script that was given as an entrypoint, or strayed.
* `reads_astray`: a walk from `/` reads a relative path.
-/

namespace ModuleDiscovery.Walk

/-- The paths that specifiers lead to from `/`, once that path has been visited. -/
inductive Strayed (s : State) : Path → Prop
  | root (specifier : String) (hroot : ("/" : Path) ∈ s.visited) :
      Strayed s (Path.clean specifier)
  | step {importer : Path} (specifier : String) (hvisited : importer ∈ s.visited)
      (himporter : Strayed s importer) : Strayed s (Walker.resolve importer specifier)

/-- An inline script that is among the entrypoints. -/
def GivenScript (calls : List (String × Path)) (p : Path) : Prop :=
  p.isScriptId ∧ p ∈ calls.map Prod.snd

/-- Where a visited path can lie. -/
def Sited (calls : List (String × Path)) (s : State) (p : Path) : Prop :=
  p.Canonical ∨ GivenScript calls p ∨ Strayed s p

variable {w : Walker} {call : String × Path} {calls : List (String × Path)} {importer p q : Path}
  {s s' : State}

/-! ## Paths that stray -/

theorem Strayed.mono (hvisited : s.visited ⊆ s'.visited) (hp : Strayed s p) : Strayed s' p := by
  induction hp with
  | root specifier hroot => exact Strayed.root specifier (hvisited hroot)
  | step specifier himporter _ ih => exact Strayed.step specifier (hvisited himporter) ih

theorem Strayed.root_mem (hp : Strayed s p) : ("/" : Path) ∈ s.visited := by
  induction hp with
  | root specifier hroot => exact hroot
  | step _ _ _ ih => exact ih

/-- A specifier in the module at `/` is taken as it stands. -/
theorem resolve_root (specifier : String) :
    Walker.resolve "/" specifier = Path.clean specifier := by
  have hparent : Path.parent "/" = none := by decide
  have hjoin : Path.join "" specifier = specifier := by
    have hempty : Path.bytes "" = [] := rfl
    simp [Path.join, hempty]
  rw [Walker.resolve, hparent, Option.getD_none, hjoin]

theorem canonical_resolve (himporter : importer.Canonical) (hroot : importer ≠ "/")
    (specifier : String) : (Walker.resolve importer specifier).Canonical :=
  himporter.join_parent_clean hroot specifier

/-! ## Every visited path has its place -/

/-- An entrypoint is canonical, unless it is an inline script. -/
theorem canonical_or_script_of_absolutize
    (hcwd : ∀ dir, w.runtime.cwd = .ok dir → dir.isAbsolute) (habs : w.absolutize p = .ok q) :
    q.Canonical ∨ q.isScriptId ∧ q = p := by
  unfold Walker.absolutize at habs
  split_ifs at habs with hscript hpath
  · obtain rfl := Except.ok.inj habs
    exact Or.inr ⟨hscript, rfl⟩
  · obtain rfl := Except.ok.inj habs
    exact Or.inl (Path.canonical_clean hpath)
  · cases hdir : w.runtime.cwd with
    | error cause => simp [hdir] at habs
    | ok dir =>
        rw [hdir] at habs
        obtain rfl := Except.ok.inj habs
        exact Or.inl (Path.canonical_clean (Path.isAbsolute_join (hcwd dir hdir) p))

theorem Sited.entrypoint (hcwd : ∀ dir, w.runtime.cwd = .ok dir → dir.isAbsolute)
    (hcall : call ∈ calls) (habs : w.absolutize call.2 = .ok p) : Sited calls s p := by
  rcases canonical_or_script_of_absolutize hcwd habs with hcanonical | ⟨hscript, rfl⟩
  · exact Or.inl hcanonical
  · exact Or.inr (Or.inl ⟨hscript, List.mem_map_of_mem hcall⟩)

/-- The target of a specifier has its place if the importer has. -/
theorem Sited.resolve (hvisited : importer ∈ s.visited) (himporter : Sited calls s importer)
    (hname : (ScriptId.parse? (moduleName w.root importer)).isSome = false) (specifier : String) :
    Sited calls s (Walker.resolve importer specifier) := by
  rcases himporter with hcanonical | ⟨hscript, -⟩ | hstrayed
  · by_cases hroot : importer = "/"
    · subst hroot
      rw [resolve_root]
      exact Or.inr (Or.inr (Strayed.root specifier hvisited))
    · exact Or.inl (canonical_resolve hcanonical hroot specifier)
  · -- an inline script has no specifiers that lead anywhere
    rw [moduleName, if_pos hscript, Path.isSome_parse?_text_iff.mpr hscript] at hname
    cases hname
  · exact Or.inr (Or.inr (Strayed.step specifier hvisited hstrayed))

theorem spreads_sited (w : Walker) (calls : List (String × Path)) : Spreads w (Sited calls) where
  mono hvisited hp := hp.imp_right (Or.imp_right (Strayed.mono hvisited))
  resolve specifier hvisited himporter hname := himporter.resolve hvisited hname specifier

/-- Below an absolute working directory, every path that a sequence of calls visits or
reads is clean.  It is absolute as well, unless it is an inline script that was given
as an entrypoint, or `/` was given as an entrypoint and its specifiers lead there. -/
theorem visited_canonical (w : Walker) (hcwd : ∀ dir, w.runtime.cwd = .ok dir → dir.isAbsolute)
    (calls : List (String × Path)) :
    let s := w.visitAll calls .fresh
    ∀ p, p ∈ s.visited ∨ p ∈ s.reads →
      p.clean = p ∧ (p.isAbsolute ∨ GivenScript calls p ∨ Strayed s p) ∧
        (("/" : Path) ∉ s.visited → p.Canonical ∨ GivenScript calls p) := by
  intro s p hp
  have hreads : s.reads ⊆ s.visited := ((progress_visitAll w calls .fresh).reads.of_nil rfl).2
  have hmem : p ∈ s.visited := hp.elim id fun hread => hreads hread
  have hsited : Sited calls s p :=
    (spreads_sited w calls).visitAll (everywhere_fresh _)
      (fun _ hcall _ _ habs => Sited.entrypoint hcwd hcall habs) p hmem
  refine ⟨clean_fresh.visitAll calls p hmem, hsited.imp_left Path.Canonical.absolute, ?_⟩
  intro hroot
  rcases hsited with hcanonical | hscript | hstrayed
  · exact Or.inl hcanonical
  · exact Or.inr hscript
  · exact absurd hstrayed.root_mem hroot

/-- A walk from a file below `/` reads a canonical path. -/
theorem visited_canonical_circle :
    ("/b.js" : Path) ∈ (Walker.circle.visitAll [("", "x/../a.js")] .fresh).reads ∧
      ("/b.js" : Path).Canonical := by
  have hread : ("/b.js" : Path) ∈
      (Walker.circle.visitAll [("", "x/../a.js")] .fresh).reads := by
    decide +kernel
  obtain ⟨-, -, hcanonical⟩ :=
    visited_canonical .circle Walker.isAbsolute_cwd_circle [("", "x/../a.js")] "/b.js"
      (Or.inr hread)
  rcases hcanonical (by decide +kernel) with h | ⟨hscript, -⟩
  · exact ⟨hread, h⟩
  · exact absurd hscript (by decide)

/-- A walk from `/` reads a relative path that nobody gave. -/
theorem reads_astray :
    let w : Walker := { Walker.circle with
      parser := fun _ _ => .ok [.literal "./lib/a.js" ⟨1, 1⟩] }
    let calls := [("", ("/" : Path))]
    (w.visitAll calls .fresh).reads = [("lib/a.js" : Path)] ∧
      ¬ (("lib/a.js" : Path).Canonical ∨ GivenScript calls "lib/a.js") := by
  intro w calls
  have hrelative : ("lib/a.js" : Path).isAbsolute = false := by decide
  have hfile : ("lib/a.js" : Path).isScriptId = false := by decide
  refine ⟨by decide +kernel, ?_⟩
  rintro (hcanonical | ⟨hscript, -⟩)
  · exact absurd hcanonical.absolute (by simp [hrelative])
  · exact absurd hscript (by simp [hfile])

end ModuleDiscovery.Walk
