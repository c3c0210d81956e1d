import Mathlib.Data.List.DropRight
import ModuleDiscovery.Config.Validation
import ModuleDiscovery.Proofs.Run

/-!
# Which configurations pass the check

A check of a configuration looks at what is written in it, and may go on to look for the
files that it names.

The globs of a rule are checked by compiling the rules, and a rule whose kind an earlier
one has closed is left out before its globs are read.  So whether a glob is looked at
depends on the kinds and flags of all the rules before its own: a bad glob passes in a
hidden rule, and is found when the rules change places.  Rules without globs do not pass
that way, since they are looked for before anything is compiled.

## Main results

* `Config.validate_eq_ok_iff`: the configurations that pass, with the globs that count.
* `Config.validate_hidden_glob`: not all globs do.
* `Config.validateFiles_eq_ok_iff`: the files that have to be there.
-/

namespace ModuleDiscovery

namespace ModuleRule

/-- All globs of a rule can be read. -/
def Readable (rule : ModuleRule) : Prop :=
  ∀ glob ∈ rule.globs, ∃ pattern, Pattern.parse glob = .ok pattern

/-- Rules hide a later one when one of them has closed its kind. -/
def Hide (before : List ModuleRule) (rule : ModuleRule) : Prop :=
  ∃ earlier ∈ before, earlier.kind = rule.kind ∧ earlier.fallthrough = false

variable {kind : ContentKind} {globs : List String} {closed : List ContentKind}
  {rule earlier : ModuleRule} {before rules rest tail : List ModuleRule}

/-! ## The globs of one rule -/

theorem compileGlobs_ok_iff :
    (∃ patterns, compileGlobs kind globs = .ok patterns) ↔
      ∀ glob ∈ globs, ∃ pattern, Pattern.parse glob = .ok pattern := by
  induction globs with
  | nil => simp [compileGlobs]
  | cons glob globs ih =>
      rw [List.forall_mem_cons, ← ih, compileGlobs]
      cases Pattern.parse glob with
      | error cause => simp
      | ok pattern => cases compileGlobs kind globs <;> simp [Except.map]

/-! ## Rules in their order -/

theorem not_hide_nil : ¬ Hide [] rule := by
  simp [Hide]

theorem hide_cons_iff :
    Hide (earlier :: before) rule ↔
      (earlier.kind = rule.kind ∧ earlier.fallthrough = false) ∨ Hide before rule := by
  simp [Hide]

/-- A rule that is left out hides nothing that is not closed already. -/
theorem closed_or_hide_cons_iff_of_mem (hclosed : earlier.kind ∈ closed) :
    rule.kind ∈ closed ∨ Hide (earlier :: before) rule ↔
      rule.kind ∈ closed ∨ Hide before rule := by
  rw [hide_cons_iff]
  constructor
  · rintro (h | ⟨hkind, -⟩ | h)
    exacts [Or.inl h, Or.inl (hkind ▸ hclosed), Or.inr h]
  · exact Or.imp_right Or.inr

/-- Closing a kind hides the later rules of that kind. -/
theorem closed_or_hide_cons_iff :
    rule.kind ∈ closed ∨ Hide (earlier :: before) rule ↔
      rule.kind ∈ (if earlier.fallthrough then closed else earlier.kind :: closed) ∨
        Hide before rule := by
  rw [hide_cons_iff]
  cases earlier.fallthrough
  · simp only [Bool.false_eq_true, if_false, List.mem_cons, and_true]
    rw [eq_comm (a := rule.kind)]
    tauto
  · simp

/-- Each member of a list stands behind the members before it. -/
theorem forall_split_cons {α : Type} {P : List α → α → Prop} {first : α} {rest : List α} :
    (∀ before a after, first :: rest = before ++ a :: after → P before a) ↔
      P [] first ∧ ∀ before a after, rest = before ++ a :: after → P (first :: before) a := by
  constructor
  · intro h
    exact ⟨h [] first rest rfl, fun before a after hrest => h (first :: before) a after (by
      rw [hrest, List.cons_append])⟩
  · rintro ⟨hfirst, hrest⟩ before a after hsplit
    cases before with
    | nil =>
        obtain ⟨rfl, -⟩ := List.cons.inj hsplit
        exact hfirst
    | cons b before =>
        obtain ⟨rfl, hbehind⟩ := List.cons.inj hsplit
        exact hrest before a after hbehind

theorem compileFrom_cons_ok_iff (hopen : rule.kind ∉ closed) :
    (∃ compiled, compileFrom closed (rule :: rest) = .ok compiled) ↔
      rule.Readable ∧ ∃ compiled,
        compileFrom (if rule.fallthrough then closed else rule.kind :: closed) rest =
          .ok compiled := by
  rw [Readable, ← compileGlobs_ok_iff, compileFrom, if_neg hopen]
  constructor
  · rintro ⟨compiled, hcompiled⟩
    obtain ⟨patterns, hpatterns, hbehind⟩ := bind_eq_ok_iff.mp hcompiled
    obtain ⟨later, hlater, -⟩ := bind_eq_ok_iff.mp hbehind
    exact ⟨⟨patterns, hpatterns⟩, later, hlater⟩
  · rintro ⟨⟨patterns, hpatterns⟩, later, hlater⟩
    exact ⟨_, bind_eq_ok_iff.mpr ⟨patterns, hpatterns, bind_eq_ok_iff.mpr ⟨later, hlater, rfl⟩⟩⟩

/-- Rules in front of others that can be compiled, whatever has been closed. -/
theorem compileFrom_append_ok_iff
    (htail : ∀ closed, ∃ compiled, compileFrom closed tail = .ok compiled)
    (closed : List ContentKind) (rules : List ModuleRule) :
    (∃ compiled, compileFrom closed (rules ++ tail) = .ok compiled) ↔
      ∀ before rule after, rules = before ++ rule :: after →
        rule.kind ∈ closed ∨ Hide before rule ∨ rule.Readable := by
  induction rules generalizing closed with
  | nil => exact iff_of_true (htail closed) fun before rule after h => by simp at h
  | cons first rest ih =>
      rw [forall_split_cons, List.cons_append]
      by_cases hclosed : first.kind ∈ closed
      · rw [compileFrom, if_pos hclosed, ih, and_iff_right (Or.inl hclosed)]
        refine forall₄_congr fun before rule after _ => ?_
        rw [← or_assoc, ← or_assoc, closed_or_hide_cons_iff_of_mem hclosed]
      · rw [compileFrom_cons_ok_iff hclosed, ih]
        refine and_congr ?_ (forall₄_congr fun before rule after _ => ?_)
        · simp [hclosed, not_hide_nil]
        · rw [← or_assoc, ← or_assoc, closed_or_hide_cons_iff]

theorem readable_of_mem_defaults (hrule : rule ∈ defaults) : rule.Readable := by
  simp only [defaults, List.mem_cons, List.not_mem_nil, or_false] at hrule
  rcases hrule with rfl | rfl
  · intro glob hglob
    simp only [List.mem_cons, List.not_mem_nil, or_false] at hglob
    subst hglob
    exact ⟨_, rfl⟩
  · intro glob hglob
    simp only [List.mem_cons, List.not_mem_nil, or_false] at hglob
    rcases hglob with rfl | rfl
    exacts [⟨_, rfl⟩, ⟨_, rfl⟩]

theorem compileFrom_defaults (closed : List ContentKind) :
    ∃ compiled, compileFrom closed defaults = .ok compiled := by
  have hnil : ∀ closed, ∃ compiled, compileFrom closed [] = .ok compiled := fun _ => ⟨[], rfl⟩
  rw [← List.append_nil defaults, compileFrom_append_ok_iff hnil]
  intro before rule after hsplit
  exact Or.inr (Or.inr (readable_of_mem_defaults (by simp [hsplit])))

/-- Rules can be compiled when all globs can be read but those of hidden rules. -/
theorem compile_ok_iff :
    (∃ compiled, compile rules = .ok compiled) ↔
      ∀ before rule after, rules = before ++ rule :: after → Hide before rule ∨ rule.Readable := by
  rw [compile, compileFrom_append_ok_iff compileFrom_defaults]
  simp

end ModuleRule

namespace Config

open ModuleRule

/-! ## Names of external specifiers -/

theorem isBlankName_iff {name : String} : isBlankName name ↔ ∀ c ∈ name.toList, isBlank c := by
  have hblank : ∀ text : List Char, trimBlank text = [] ↔ text.dropWhile isBlank = [] := by
    intro text
    simp only [trimBlank, List.reverse_eq_nil_iff, List.dropWhile_eq_nil_iff, List.mem_reverse]
    rw [← List.dropWhile_eq_nil_iff, List.dropWhile_idempotent, List.dropWhile_eq_nil_iff]
  rw [isBlankName, List.isEmpty_iff, hblank, List.dropWhile_eq_nil_iff]

/-! ## The check -/

/-- What a configuration needs in order to pass. -/
structure Passable (config : Config) : Prop where
  start : config.main.isSome ∨ config.modules ≠ []
  external : ∀ name ∈ config.external, ∃ c ∈ name.toList, isBlank c = false
  globs : ∀ rule ∈ config.rules, rule.globs ≠ []
  readable : ∀ before rule after, config.rules = before ++ rule :: after →
    Hide before rule ∨ rule.Readable

/-- The checks are made one after the other, and each has to succeed. -/
theorem validate_eq_ok_iff_checks (config : Config) :
    config.validate = .ok () ↔
      ¬ (config.main.isNone ∧ config.modules.isEmpty) ∧ config.external.any isBlankName = false ∧
        config.rules.find? (·.globs.isEmpty) = none ∧
          ∃ compiled, ModuleRule.compile config.rules = .ok compiled := by
  unfold validate
  split_ifs with hstart hexternal
  · simp [hstart]
  · simp [hexternal]
  · cases config.rules.find? (·.globs.isEmpty) with
    | some rule => simp
    | none => cases ModuleRule.compile config.rules <;> simp_all

/-- A configuration passes when it says where to start, names its externals, has globs in
each rule, and all globs can be read but those of rules that are hidden by earlier ones. -/
theorem validate_eq_ok_iff (config : Config) : config.validate = .ok () ↔ config.Passable := by
  have hstart : ¬ (config.main.isNone ∧ config.modules.isEmpty) ↔
      config.main.isSome ∨ config.modules ≠ [] := by
    rw [Option.isNone_iff_eq_none, List.isEmpty_iff, Option.isSome_iff_ne_none, not_and_or]
  have hexternal : config.external.any isBlankName = false ↔
      ∀ name ∈ config.external, ∃ c ∈ name.toList, isBlank c = false := by
    simp [List.any_eq_false, isBlankName_iff]
  have hglobs : config.rules.find? (·.globs.isEmpty) = none ↔
      ∀ rule ∈ config.rules, rule.globs ≠ [] := by
    simp [List.find?_eq_none]
  rw [validate_eq_ok_iff_checks, hstart, hexternal, hglobs, compile_ok_iff]
  exact ⟨fun ⟨h₁, h₂, h₃, h₄⟩ => ⟨h₁, h₂, h₃, h₄⟩, fun ⟨h₁, h₂, h₃, h₄⟩ => ⟨h₁, h₂, h₃, h₄⟩⟩

/-- Behind a rule for the same kind a glob passes that cannot be read.  It does not when
the rules change places. -/
theorem validate_hidden_glob :
    let config : Config := { empty with
      main := some "a.mjs"
      rules := [⟨.esModule, ["*.mjs"], false⟩, ⟨.esModule, ["***"], false⟩] }
    config.validate = .ok () ∧ (¬ ∀ rule ∈ config.rules, rule.Readable) ∧
      { config with rules := config.rules.reverse }.validate =
        .error (.invalidRule ⟨.esModule, "***", ⟨2, .wildcards⟩⟩) := by
  intro config
  refine ⟨by decide +kernel, fun hreadable => ?_, by decide +kernel⟩
  obtain ⟨pattern, hpattern⟩ := hreadable ⟨.esModule, ["***"], false⟩ (by simp [config]) "***"
    List.mem_cons_self
  have herror : Pattern.parse "***" = .error ⟨2, .wildcards⟩ := by decide +kernel
  cases herror.symm.trans hpattern

/-! ## The files -/

theorem missingModule?_eq_none_iff {isFile : Path → Bool} {root : Path}
    {definitions : List ModuleDefinition} :
    missingModule? isFile root definitions = none ↔
      ∀ d ∈ definitions, d.contents = none → isFile (root.join d.path) := by
  induction definitions with
  | nil => simp [missingModule?]
  | cons d definitions ih =>
      rw [missingModule?, List.forall_mem_cons, ← ih]
      cases d.contents <;> cases isFile (root.join d.path) <;> simp

/-- The files are looked for when the rest of the configuration has passed. -/
theorem validateFiles_eq_ok_iff {isFile : Path → Bool} {root : Path} {config : Config} :
    config.validateFiles isFile root = .ok () ↔
      config.validate = .ok () ∧ (∀ main, config.main = some main → isFile (root.join main)) ∧
        ∀ d ∈ config.modules, d.contents = none → isFile (root.join d.path) := by
  have hthrow : ∀ e : ConfigError, (throw e : Except ConfigError Unit) = .error e := fun _ => rfl
  rw [← missingModule?_eq_none_iff, validateFiles]
  cases config.validate with
  | error e => simp [bind, Except.bind]
  | ok =>
      cases config.main with
      | none =>
          cases missingModule? isFile root config.modules <;>
            simp [hthrow, bind, Except.bind, pure, Except.pure]
      | some main =>
          cases hmain : isFile (root.join main) <;>
            cases missingModule? isFile root config.modules <;>
            simp [hthrow, hmain, bind, Except.bind, pure, Except.pure]

end Config

end ModuleDiscovery
