import ModuleDiscovery.Proofs.Config.Load

/-!
# Resolving a configuration in two stages

The paths of a file are resolved from the directory that the file was named with, which may
be relative, and the outcome is resolved from the working directory.  Lexical cleaning lets
the two stages be one: cleaning in between loses nothing that a later join needs
(`Path.clean_join_clean_right`), and it does not matter which of two joins comes first
(`Path.clean_join_join`).

## Main results

* `Config.resolve_resolve`: two stages are one, from the directory that both make up.
-/

namespace ModuleDiscovery

/-- A path that is seen from a directory, seen from another. -/
theorem Path.seenFrom_seenFrom (cwd base path : Path) :
    cwd.seenFrom (base.seenFrom path) = (cwd.join base).seenFrom path := by
  rw [seenFrom, seenFrom, seenFrom, clean_join_clean_right, clean_join_join]

namespace Config

theorem main_resolve_resolve (config : Config) (base cwd : Path) :
    ((config.resolve base).resolve cwd).main = (config.resolve (cwd.join base)).main := by
  rw [resolve_eq_mk, resolve_eq_mk, resolve_eq_mk]
  simp [Function.comp_def, Path.seenFrom_seenFrom]

/-- Without a root of its own a configuration gets the directory, which is cleaned in
between like any other path. -/
theorem root_resolve_resolve (config : Config) (base cwd : Path) :
    ((config.resolve base).resolve cwd).root = (config.resolve (cwd.join base)).root := by
  rw [resolve_eq_mk, resolve_eq_mk, resolve_eq_mk]
  cases config.root with
  | none => simp [Path.seenFrom, Path.clean_join_clean_right]
  | some root => simp [Path.seenFrom_seenFrom]

theorem modules_resolve_resolve (config : Config) (base cwd : Path) :
    ((config.resolve base).resolve cwd).modules = (config.resolve (cwd.join base)).modules := by
  rw [resolve_eq_mk, resolve_eq_mk, resolve_eq_mk]
  simp [Function.comp_def, Path.seenFrom_seenFrom]

/-- A configuration that is resolved from a directory and then from the working directory
is the one that is resolved once, from the directory as it is seen from the working
directory.  If the directory is absolute, the second stage changes nothing. -/
theorem resolve_resolve (config : Config) (base cwd : Path) :
    (config.resolve base).resolve cwd = config.resolve (cwd.join base) ∧
      (base.isAbsolute → (config.resolve base).resolve cwd = config.resolve base) := by
  have htwice : (config.resolve base).resolve cwd = config.resolve (cwd.join base) := by
    have hmain := main_resolve_resolve config base cwd
    have hroot := root_resolve_resolve config base cwd
    have hmodules := modules_resolve_resolve config base cwd
    rw [Config.mk.injEq]
    exact ⟨hmain, hroot, rfl, rfl, rfl, hmodules⟩
  exact ⟨htwice, fun habs => by rw [htwice, Path.join_of_isAbsolute cwd habs]⟩

/-- A directory that climbs, a configuration without a root, and a path with dots. -/
theorem resolve_resolve_climbing :
    let config : Config := { Config.empty with
      main := some "../a.mjs", modules := [⟨.text, "b/./../c.txt", none⟩] }
    let resolved : Config := { Config.empty with
      main := some "/a.mjs", root := some "/lib", modules := [⟨.text, "/lib/c.txt", none⟩] }
    (config.resolve "../lib").resolve "/w" = resolved ∧
      (config.resolve "/lib/").resolve "/w" = resolved := by
  intro config resolved
  have hrelative := (resolve_resolve config "../lib" "/w").1
  have habsolute := (resolve_resolve config "/lib/" "/w").2 (by decide)
  rw [hrelative, habsolute]
  decide +kernel

end Config

end ModuleDiscovery
