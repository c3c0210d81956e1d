import Mathlib.Data.List.Forall2
import Mathlib.Data.List.Infix
import ModuleDiscovery.Proofs.Config.Validation

/-!
# Which rule decides

A rule without `fallthrough` hides the later rules of its kind.  The rules that are not
hidden are the live ones; compiling keeps just those, in their order.  `compileFrom` finds
them by the kinds that have been closed so far, and `live` by all the rules in front of a
rule, so the two are compared for any set of closed kinds (`openIn`).

## Main results

* `compileFrom_eq_ok_iff`, `compileFrom_eq_error_iff`: live rules are compiled one for one,
  and the first glob of them that cannot be read is the error.
* `compile_precedence`: both for the rules of a user, and the kind that a path is given.
-/

namespace ModuleDiscovery

namespace ModuleRule

variable {kind : ContentKind} {globs : List String} {closed : List ContentKind}
  {rule first : ModuleRule} {rules rest : List ModuleRule} {patterns : List Pattern}
  {entry : CompiledRule} {compiled : List CompiledRule} {e : RuleError} {path : Path}

/-! ## Live rules -/

instance (before : List ModuleRule) (rule : ModuleRule) : Decidable (Hide before rule) :=
  inferInstanceAs (Decidable (∃ earlier ∈ before, _))

/-- The rules of a list, each behind the rules in front of it. -/
def withEarlier (rules : List ModuleRule) : List (List ModuleRule × ModuleRule) :=
  rules.inits.zip rules

/-- The rules of a list that no earlier one hides. -/
def live (rules : List ModuleRule) : List ModuleRule :=
  ((withEarlier rules).filter fun (before, rule) => ¬ Hide before rule).map Prod.snd

/-- The live rules when some kinds have been closed already. -/
def openIn (closed : List ContentKind) (rules : List ModuleRule) : List ModuleRule :=
  ((withEarlier rules).filter fun (before, rule) =>
    rule.kind ∉ closed ∧ ¬ Hide before rule).map Prod.snd

theorem openIn_empty (rules : List ModuleRule) : openIn [] rules = live rules := by
  simp [openIn, live]

theorem withEarlier_cons (first : ModuleRule) (rest : List ModuleRule) :
    withEarlier (first :: rest) =
      ([], first) :: (withEarlier rest).map (Prod.map (first :: ·) id) := by
  simp [withEarlier, List.zip_map_left]

/-- A rule of a closed kind is not live, and closes nothing that is not closed already. -/
theorem openIn_cons_of_mem (hclosed : first.kind ∈ closed) :
    openIn closed (first :: rest) = openIn closed rest := by
  have hsame : ∀ (before : List ModuleRule) (rule : ModuleRule),
      (rule.kind ∉ closed ∧ ¬ Hide (first :: before) rule) ↔
        (rule.kind ∉ closed ∧ ¬ Hide before rule) := by
    intro before rule
    rw [← not_or, ← not_or, closed_or_hide_cons_iff_of_mem hclosed]
  simp only [openIn, withEarlier_cons, List.filter_cons, List.filter_map, Function.comp_def,
    Prod.map, id, hsame]
  simp [hclosed]

/-- Any other rule is live, and may close its kind. -/
theorem openIn_cons_of_not_mem (hopen : first.kind ∉ closed) :
    openIn closed (first :: rest) =
      first :: openIn (if first.fallthrough then closed else first.kind :: closed) rest := by
  have hsame : ∀ (before : List ModuleRule) (rule : ModuleRule),
      (rule.kind ∉ closed ∧ ¬ Hide (first :: before) rule) ↔
        (rule.kind ∉ (if first.fallthrough then closed else first.kind :: closed) ∧
          ¬ Hide before rule) := by
    intro before rule
    rw [← not_or, ← not_or, closed_or_hide_cons_iff]
  simp only [openIn, withEarlier_cons, List.filter_cons, List.filter_map, Function.comp_def,
    Prod.map, id, hsame]
  simp [hopen, not_hide_nil]

/-! ## Compiled rules -/

/-- What a rule is compiled to: its kind, and each of its globs read. -/
def CompilesTo (rule : ModuleRule) (entry : CompiledRule) : Prop :=
  entry.kind = rule.kind ∧
    List.Forall₂ (fun glob pattern => Pattern.parse glob = .ok pattern) rule.globs entry.patterns

/-- What is wrong with a glob of a rule. -/
def globFault? (kind : ContentKind) (glob : String) : Option RuleError :=
  match Pattern.parse glob with
  | .error cause => some ⟨kind, glob, cause⟩
  | .ok _ => none

/-- What is wrong with the first glob of a rule that cannot be read. -/
def fault? (rule : ModuleRule) : Option RuleError :=
  rule.globs.findSome? (globFault? rule.kind)

theorem compileGlobs_eq_ok_iff :
    compileGlobs kind globs = .ok patterns ↔
      List.Forall₂ (fun glob pattern => Pattern.parse glob = .ok pattern) globs patterns := by
  induction globs generalizing patterns with
  | nil => rw [List.forall₂_nil_left_iff, compileGlobs, Except.ok.injEq, eq_comm]
  | cons glob globs ih =>
      rw [compileGlobs, List.forall₂_cons_left_iff]
      cases hglob : Pattern.parse glob with
      | error cause => simp
      | ok pattern =>
          simp only [← ih, Except.ok.injEq]
          cases compileGlobs kind globs <;> simp [Except.map, eq_comm]

theorem compileGlobs_eq_error_iff :
    compileGlobs kind globs = .error e ↔ globs.findSome? (globFault? kind) = some e := by
  induction globs with
  | nil => simp [compileGlobs]
  | cons glob globs ih =>
      rw [compileGlobs, List.findSome?_cons, globFault?]
      cases Pattern.parse glob with
      | error cause => simp
      | ok pattern =>
          rw [← ih]
          cases compileGlobs kind globs <;> simp [Except.map]

theorem fault?_eq_none_iff : rule.fault? = none ↔ rule.Readable := by
  rw [fault?, List.findSome?_eq_none_iff, Readable]
  refine forall₂_congr fun glob _ => ?_
  rw [globFault?]
  cases Pattern.parse glob <;> simp

theorem compileFrom_eq_ok_iff :
    compileFrom closed rules = .ok compiled ↔
      List.Forall₂ CompilesTo (openIn closed rules) compiled := by
  induction rules generalizing closed compiled with
  | nil =>
      have hnone : openIn closed [] = [] := rfl
      rw [hnone, List.forall₂_nil_left_iff, compileFrom, Except.ok.injEq, eq_comm]
  | cons first rest ih =>
      by_cases hclosed : first.kind ∈ closed
      · rw [compileFrom, if_pos hclosed, ih, openIn_cons_of_mem hclosed]
      · rw [compileFrom, if_neg hclosed, openIn_cons_of_not_mem hclosed,
          List.forall₂_cons_left_iff]
        constructor
        · intro hcompiled
          obtain ⟨patterns, hpatterns, hbehind⟩ := bind_eq_ok_iff.mp hcompiled
          obtain ⟨later, hlater, heq⟩ := bind_eq_ok_iff.mp hbehind
          exact ⟨⟨first.kind, patterns⟩, later, ⟨rfl, compileGlobs_eq_ok_iff.mp hpatterns⟩,
            ih.mp hlater, (Except.ok.inj heq).symm⟩
        · rintro ⟨⟨kind, patterns⟩, later, ⟨rfl, hpatterns⟩, hlater, rfl⟩
          exact bind_eq_ok_iff.mpr ⟨patterns, compileGlobs_eq_ok_iff.mpr hpatterns,
            bind_eq_ok_iff.mpr ⟨later, ih.mpr hlater, rfl⟩⟩

theorem compileFrom_eq_error_iff :
    compileFrom closed rules = .error e ↔ (openIn closed rules).findSome? fault? = some e := by
  induction rules generalizing closed with
  | nil => simp [compileFrom, openIn, withEarlier]
  | cons first rest ih =>
      by_cases hclosed : first.kind ∈ closed
      · rw [compileFrom, if_pos hclosed, ih, openIn_cons_of_mem hclosed]
      · rw [compileFrom, if_neg hclosed, openIn_cons_of_not_mem hclosed, List.findSome?_cons]
        cases hglobs : compileGlobs first.kind first.globs with
        | error found =>
            have hfault : first.fault? = some found := compileGlobs_eq_error_iff.mp hglobs
            simp [hfault, bind, Except.bind]
        | ok patterns =>
            have hfault : first.fault? = none :=
              fault?_eq_none_iff.mpr (compileGlobs_ok_iff.mp ⟨patterns, hglobs⟩)
            rw [hfault, ← ih]
            cases compileFrom (if first.fallthrough then closed else first.kind :: closed) rest <;>
              simp [bind, Except.bind, pure, Except.pure]

/-! ## The rule of a path -/

/-- Whether some glob of a rule can be read and matches a path. -/
def matchesPath (rule : ModuleRule) (path : Path) : Bool :=
  rule.globs.any fun glob =>
    match Pattern.parse glob with
    | .ok pattern => CompiledRule.patternMatches path.slashed.toList pattern
    | .error _ => false

theorem CompilesTo.matchesPath_eq (hentry : CompilesTo rule entry) (path : Path) :
    entry.matchesPath path = rule.matchesPath path := by
  obtain ⟨-, hpatterns⟩ := hentry
  rw [CompiledRule.matchesPath, matchesPath]
  generalize rule.globs = globs, entry.patterns = patterns at hpatterns ⊢
  induction hpatterns with
  | nil => rfl
  | cons hglob _ ih => simp only [List.any_cons, hglob, ih]

theorem find?_of_forall₂_compilesTo (hcompiled : List.Forall₂ CompilesTo rules compiled)
    (path : Path) :
    (CompiledRule.find? compiled path).map (·.kind) =
      (rules.find? (·.matchesPath path)).map (·.kind) := by
  induction hcompiled with
  | nil => rfl
  | cons hentry _ ih =>
      rw [CompiledRule.find?] at ih ⊢
      rw [List.find?_cons, List.find?_cons, hentry.matchesPath_eq]
      split
      · exact congrArg some hentry.1
      · exact ih

/-- The rules of a user and the default rules behind them are compiled to the live ones
among them, in their order.  This fails exactly if a live rule has a glob that cannot be
read, with the first such glob of the first such rule.  The kind of a path is that of the
first rule that is live and matches. -/
theorem compile_precedence (rules : List ModuleRule) :
    ((∃ e, compile rules = .error e) ↔ ∃ rule ∈ live (rules ++ defaults), ¬ rule.Readable) ∧
      (∀ e, compile rules = .error e ↔ (live (rules ++ defaults)).findSome? fault? = some e) ∧
      (∀ compiled, compile rules = .ok compiled ↔
        List.Forall₂ CompilesTo (live (rules ++ defaults)) compiled) ∧
      ∀ compiled path, compile rules = .ok compiled →
        (CompiledRule.find? compiled path).map (·.kind) =
          ((live (rules ++ defaults)).find? (·.matchesPath path)).map (·.kind) := by
  have hok : ∀ compiled, compile rules = .ok compiled ↔
      List.Forall₂ CompilesTo (live (rules ++ defaults)) compiled := by
    intro compiled
    rw [compile, compileFrom_eq_ok_iff, openIn_empty]
  have herror : ∀ e, compile rules = .error e ↔
      (live (rules ++ defaults)).findSome? fault? = some e := by
    intro e
    rw [compile, compileFrom_eq_error_iff, openIn_empty]
  refine ⟨?_, herror, hok, fun compiled path hcompiled =>
    find?_of_forall₂_compilesTo ((hok compiled).mp hcompiled) path⟩
  simp only [herror, ← fault?_eq_none_iff]
  rw [← Option.isSome_iff_exists, List.isSome_findSome?]
  simp [Option.isSome_iff_ne_none]

/-- A bad glob of a hidden rule is passed over, and of a live rule's globs the first bad one
is the error.  Without bad ones the first rule that matches decides, although a later rule
of another kind matches, too. -/
theorem compile_precedence_hidden :
    let data : ModuleRule := ⟨.data, ["*.bin"], false⟩
    let hidden : ModuleRule := ⟨.data, ["***"], true⟩
    compile [data, hidden, ⟨.text, ["*.txt", "[x", "***"], true⟩] =
        .error ⟨.text, "[x", ⟨0, .range⟩⟩ ∧
      ∃ compiled, compile [data, hidden, ⟨.text, ["*"], true⟩] = .ok compiled ∧
        (CompiledRule.find? compiled "/w/a.bin").map (·.kind) = some .data := by
  intro data hidden
  obtain ⟨-, herror, -, -⟩ :=
    compile_precedence [data, hidden, ⟨.text, ["*.txt", "[x", "***"], true⟩]
  obtain ⟨-, -, -, hfind⟩ := compile_precedence [data, hidden, ⟨.text, ["*"], true⟩]
  refine ⟨(herror _).mpr (by decide +kernel), _, rfl, ?_⟩
  rw [hfind _ "/w/a.bin" rfl]
  decide +kernel

end ModuleRule

end ModuleDiscovery
