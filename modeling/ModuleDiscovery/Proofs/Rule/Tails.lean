import Mathlib.Data.List.DropRight
import Mathlib.Data.List.Infix
import ModuleDiscovery.Proofs.Glob.Matching
import ModuleDiscovery.Proofs.Glob.Reading
import ModuleDiscovery.Proofs.Path.Shown
import ModuleDiscovery.Rule

/-!
# The ends of a path

A glob that does not start with a slash has to match the end of a path, cut at a slash.
Of an absolute path these ends are the texts of its last segments, one for each number of
segments (`segmentTails_slashed`).  Without recursive wildcards only one of them has the
number of slashes that the glob asks for.

## Main results

* `segmentTails_slashed`: the ends of a path.
* `matchesPath_iff_lastSegments`: the end that a glob without recursive wildcards looks at.
-/

namespace ModuleDiscovery

open Glob

/-- The last segments of a path, at most `count` of them, without the root. -/
def Path.lastSegments (count : ℕ) (p : Path) : List Segment :=
  p.segments.tail.rtake count

namespace CompiledRule

variable {text tail : List Char} {segments suffix : List Segment} {pattern : Pattern}
  {kind : ContentKind} {path : Path}

/-! ## Cutting at slashes -/

theorem mem_segmentTails_iff :
    tail ∈ segmentTails text ↔ tail ≠ [] ∧ ∃ front, text = front ++ '/' :: tail := by
  induction text with
  | nil => simp [segmentTails]
  | cons c rest ih =>
      have hlater : (∃ front, c :: rest = front ++ '/' :: tail) ↔
          (c = '/' ∧ tail = rest) ∨ ∃ front, rest = front ++ '/' :: tail := by
        constructor
        · rintro ⟨_ | ⟨d, front⟩, htext⟩ <;> obtain ⟨rfl, rfl⟩ := List.cons.inj htext
          · exact Or.inl ⟨rfl, rfl⟩
          · exact Or.inr ⟨front, rfl⟩
        · rintro (⟨rfl, rfl⟩ | ⟨front, rfl⟩)
          · exact ⟨[], rfl⟩
          · exact ⟨c :: front, rfl⟩
      rw [hlater, segmentTails, and_or_left, ← ih]
      split_ifs with hcut
      · obtain ⟨rfl, hrest⟩ := hcut
        rw [List.mem_cons, eq_self_iff_true, true_and]
        refine or_congr_left ⟨?_, And.right⟩
        rintro rfl
        exact ⟨hrest, rfl⟩
      · refine (or_iff_right ?_).symm
        rintro ⟨hne, rfl, rfl⟩
        exact hcut ⟨rfl, hne⟩

/-- No end is cut inside a part. -/
theorem segmentTails_append {part : List Char} (hpart : '/' ∉ part) (rest : List Char) :
    segmentTails (part ++ rest) = segmentTails rest := by
  induction part with
  | nil => rfl
  | cons c part ih =>
      rw [List.mem_cons, not_or] at hpart
      rw [List.cons_append, segmentTails, if_neg (by simp [Ne.symm hpart.1]), ih hpart.2]

/-- The ends of a text are the texts of the last segments. -/
theorem segmentTails_toChars (hinner : ∀ s ∈ segments, s.IsInner) :
    segmentTails ('/' :: Segment.toChars segments) =
      (segments.tails.filter (· ≠ [])).map Segment.toChars := by
  induction segments with
  | nil => rfl
  | cons segment rest ih =>
      have hsegment := hinner segment List.mem_cons_self
      have hslash : '/' ∉ segment.shown := Segment.slash_not_mem_shown hsegment
      have hlater : segmentTails (Segment.toChars (segment :: rest)) =
          (rest.tails.filter (· ≠ [])).map Segment.toChars := by
        cases rest with
        | nil =>
            have hpart := segmentTails_append hslash []
            rw [List.append_nil] at hpart
            rw [Segment.toChars, Segment.spell_singleton hsegment]
            exact hpart
        | cons next others =>
            rw [Segment.toChars, Segment.spell_cons_cons hinner, segmentTails_append hslash,
              ← Segment.toChars, ih (List.forall_mem_cons.mp hinner).2]
      rw [segmentTails, if_pos ⟨rfl, Segment.toChars_ne_nil (by simp) hinner⟩, hlater]
      simp

theorem isInner_of_mem_tail (habs : path.isAbsolute) : ∀ s ∈ path.segments.tail, s.IsInner := by
  obtain ⟨segments, hinner, hpath⟩ := Path.segments_of_isAbsolute habs
  rw [hpath]
  exact hinner

theorem toList_slashed_of_isAbsolute (habs : path.isAbsolute) :
    path.slashed.toList = '/' :: Segment.toChars path.segments.tail := by
  obtain ⟨segments, hinner, hpath⟩ := Path.segments_of_isAbsolute habs
  rw [Path.toList_slashed, hpath, List.tail_cons, Segment.toChars,
    Segment.spell_of_isInner hinner, Segment.spell]

/-- The ends of an absolute path are the texts of its last segments. -/
theorem segmentTails_slashed (habs : path.isAbsolute) :
    segmentTails path.slashed.toList =
      (path.segments.tail.tails.filter (· ≠ [])).map Segment.toChars := by
  rw [toList_slashed_of_isAbsolute habs, segmentTails_toChars (isInner_of_mem_tail habs)]

theorem mem_segmentTails_slashed_iff (habs : path.isAbsolute) :
    tail ∈ segmentTails path.slashed.toList ↔
      ∃ suffix, suffix <:+ path.segments.tail ∧ suffix ≠ [] ∧ Segment.toChars suffix = tail := by
  simp [segmentTails_slashed habs, and_assoc]

/-! ## Globs and ends -/

theorem matchesPath_singleton_of_slash (hanchored : pattern.text.toList.head? = some '/') :
    CompiledRule.matchesPath ⟨kind, [pattern]⟩ path ↔
      matchTokens pattern.tokens path.slashed.toList := by
  simp [matchesPath, patternMatches, hanchored, Pattern.matchesText_eq]

theorem matchesPath_singleton (hrelative : pattern.text.toList.head? ≠ some '/') :
    CompiledRule.matchesPath ⟨kind, [pattern]⟩ path ↔
      ∃ tail ∈ segmentTails path.slashed.toList, matchTokens pattern.tokens tail := by
  simp [matchesPath, patternMatches, hrelative, Pattern.matchesText_eq]

/-- The tokens of a glob that has been read. -/
theorem exists_read_of_parse {glob : String} (hparse : Pattern.parse glob = .ok pattern) :
    pattern.text = glob ∧ read glob.toList = .ok pattern.tokens := by
  rw [Pattern.parse] at hparse
  cases hread : read glob.toList with
  | error e => rw [hread] at hparse; cases hparse
  | ok tokens =>
      rw [hread] at hparse
      obtain rfl := Except.ok.inj hparse
      exact ⟨rfl, rfl⟩

/-- An end that matches has one segment more than the glob has slashes. -/
theorem eq_lastSegments_of_matchTokens {glob : String}
    (hparse : Pattern.parse glob = .ok pattern) (hflat : .anyDirectories ∉ pattern.tokens)
    (habs : path.isAbsolute) (htail : tail ∈ segmentTails path.slashed.toList)
    (hmatch : matchTokens pattern.tokens tail) :
    bareSlashes .outside glob.toList + 1 ≤ path.segments.tail.length ∧
      tail = Segment.toChars (path.lastSegments (bareSlashes .outside glob.toList + 1)) := by
  obtain ⟨suffix, hsuffix, hne, rfl⟩ := (mem_segmentTails_slashed_iff habs).mp htail
  have hinner : ∀ s ∈ suffix, s.IsInner := fun s hs =>
    isInner_of_mem_tail habs s (hsuffix.subset hs)
  have hlength : suffix.length = bareSlashes .outside glob.toList + 1 := by
    rw [← Segment.count_slash_toChars hne hinner, count_slash_of_matchTokens hflat hmatch,
      count_slash_of_read (exists_read_of_parse hparse).2 hflat]
  refine ⟨hlength ▸ hsuffix.length_le, congrArg Segment.toChars ?_⟩
  rw [Path.lastSegments, List.rtake, ← hlength]
  exact List.suffix_iff_eq_drop.mp hsuffix

/-- The text of the last segments is an end, when there are that many. -/
theorem toChars_lastSegments_mem {count : ℕ} (habs : path.isAbsolute)
    (hcount : count + 1 ≤ path.segments.tail.length) :
    Segment.toChars (path.lastSegments (count + 1)) ∈ segmentTails path.slashed.toList := by
  refine (mem_segmentTails_slashed_iff habs).mpr ⟨_, List.drop_suffix _ _, ?_, rfl⟩
  rw [ne_eq, List.drop_eq_nil_iff]
  omega

/-- A glob without a slash in front and without recursive wildcards looks at a fixed number
of last segments, one more than it has slashes outside of classes. -/
theorem matchesPath_iff_lastSegments {glob : String} (hparse : Pattern.parse glob = .ok pattern)
    (hrelative : glob.toList.head? ≠ some '/') (hflat : .anyDirectories ∉ pattern.tokens)
    (kind : ContentKind) (habs : path.isAbsolute) :
    let count := bareSlashes .outside glob.toList + 1
    let rule : CompiledRule := ⟨kind, [pattern]⟩
    (rule.matchesPath path ↔ count ≤ path.segments.tail.length ∧
        pattern.matchesText (Segment.toChars (path.lastSegments count))) ∧
      (∀ tail ∈ segmentTails path.slashed.toList, ∀ other ∈ segmentTails path.slashed.toList,
        pattern.matchesText tail → pattern.matchesText other → tail = other) ∧
      ∀ other : Path, other.isAbsolute → other.lastSegments count = path.lastSegments count →
        rule.matchesPath other = rule.matchesPath path := by
  intro count rule
  have hpattern : pattern.text.toList.head? ≠ some '/' := by
    rw [(exists_read_of_parse hparse).1]
    exact hrelative
  have hmatches : ∀ p : Path, p.isAbsolute → (rule.matchesPath p ↔
      count ≤ p.segments.tail.length ∧
        pattern.matchesText (Segment.toChars (p.lastSegments count))) := by
    intro p hp
    rw [matchesPath_singleton hpattern, Pattern.matchesText_eq]
    constructor
    · rintro ⟨tail, htail, hmatch⟩
      obtain ⟨hcount, rfl⟩ := eq_lastSegments_of_matchTokens hparse hflat hp htail hmatch
      exact ⟨hcount, hmatch⟩
    · rintro ⟨hcount, hmatch⟩
      exact ⟨_, toChars_lastSegments_mem hp hcount, hmatch⟩
  refine ⟨hmatches path habs, fun tail htail other hother hmatch hmatch' => ?_, ?_⟩
  · rw [Pattern.matchesText_eq] at hmatch hmatch'
    rw [(eq_lastSegments_of_matchTokens hparse hflat habs htail hmatch).2,
      (eq_lastSegments_of_matchTokens hparse hflat habs hother hmatch').2]
  · intro other hother hsame
    have hlength : ∀ p : Path, count ≤ p.segments.tail.length ↔
        count ≤ (p.lastSegments count).length := by
      intro p
      rw [Path.lastSegments, List.rtake, List.length_drop]
      omega
    rw [Bool.eq_iff_iff, hmatches other hother, hmatches path habs, hlength other, hlength path,
      hsame]

/-- A slash in a class does not count: the glob looks at two segments. -/
theorem matchesPath_iff_lastSegments_class :
    let pattern : Pattern := ⟨"x/[/-9]*",
      [.char 'x', .char '/', .within [.range '/' '9'], .anySequence]⟩
    let rule : CompiledRule := ⟨.data, [pattern]⟩
    Pattern.parse "x/[/-9]*" = .ok pattern ∧ rule.matchesPath "/w/x/1.bin" ∧
      rule.matchesPath "/w/x/y/1.bin" = false ∧
      rule.matchesPath "/x/1.bin" = rule.matchesPath "/w/x/1.bin" := by
  intro pattern rule
  have hparse : Pattern.parse "x/[/-9]*" = .ok pattern := by decide +kernel
  have hlooks : ∀ path : Path, path.isAbsolute → _ := fun _ habs =>
    matchesPath_iff_lastSegments hparse (by decide) (by decide) .data habs
  obtain ⟨hiff, -, hsame⟩ := hlooks "/w/x/1.bin" (by decide)
  obtain ⟨hiff', -, -⟩ := hlooks "/w/x/y/1.bin" (by decide)
  refine ⟨hparse, hiff.mpr (by decide +kernel), ?_,
    hsame "/x/1.bin" (by decide) (by decide +kernel)⟩
  rw [Bool.eq_false_iff, ne_eq, hiff']
  decide +kernel

end CompiledRule

end ModuleDiscovery
