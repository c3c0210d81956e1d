import ModuleDiscovery.Proofs.Rule.Tails

/-!
# Globs behind a recursive wildcard

A glob that does not start with a slash can be written behind `/**/` as well; it then has to
match a whole path.  Both ways of writing it match the same files.

The wildcard in front changes how the glob is read: recursive wildcards that follow it are
left out, whereas the first two of a pattern are both kept (`Anchors`).  It does not change
what is matched, since two of them stand for no more than one, and since tokens that match
nothing at all match the last segment, too.

## Main results

* `exists_read_anchored`: how a glob is read behind `/**/`.
* `matchesPath_anchored`: both ways of writing a glob match the same files.
-/

namespace ModuleDiscovery

namespace Glob

variable {previous place : Option Char} {last : Char} {token : Token}
  {done done' final tokens : List Token} {text behind rest : List Char}

/-! ## Reading behind a recursive wildcard -/

/-- What a reader has read in a glob, and what it has read in the same glob behind `/**/`.
The recursive wildcards at the front of the glob are the difference. -/
def Anchors (done done' : List Token) : Prop :=
  ∃ (read : List Token) (count : ℕ), done = read ++ List.replicate count .anyDirectories ∧
    done' = read ++ [.anyDirectories, .char '/'] ∧ read.getLast? ≠ some .anyDirectories

theorem Starts.of_place (hstarts : Starts previous text token last behind)
    (hplace : place = previous ∨ previous = none ∧ place = some '/') :
    Starts place text token last behind := by
  have hfront : previous = none ∨ previous = some '/' → place = none ∨ place = some '/' := by
    rcases hplace with rfl | ⟨-, rfl⟩
    · exact id
    · exact fun _ => Or.inr rfl
  cases hstarts with
  | anyChar => exact .anyChar _ _
  | anySequence hsingle => exact .anySequence _ hsingle
  | lastDirectories hprevious => exact .lastDirectories (hfront hprevious)
  | directories hprevious => exact .directories (hfront hprevious) _
  | ofClass hclass => exact .ofClass _ hclass
  | char _ hplain => exact .char _ _ hplain

theorem pushDirectories_cons_of_ne (hne : token ≠ .anyDirectories) (done : List Token) :
    pushDirectories (token :: done) = .anyDirectories :: token :: done := by
  unfold pushDirectories
  split
  · rename_i heq
    obtain ⟨rfl, -⟩ := List.cons.inj heq
    exact absurd rfl hne
  · rfl

theorem Anchors.pushDirectories (hdone : Anchors done done') :
    Anchors (pushDirectories done) (pushDirectories done') := by
  obtain ⟨read, count, rfl, rfl, hread⟩ := hdone
  match read, count with
  | [], 0 => exact ⟨[], 1, rfl, rfl, by simp⟩
  | [], 1 => exact ⟨[], 2, rfl, rfl, by simp⟩
  | [], count + 2 => exact ⟨[], count + 2, rfl, rfl, by simp⟩
  | first :: read, count =>
      by_cases hfirst : first = .anyDirectories
      · -- something else was read before it, so both readers leave this one out
        subst hfirst
        cases read with
        | nil => exact absurd rfl hread
        | cons second read => exact ⟨.anyDirectories :: second :: read, count, rfl, rfl, hread⟩
      · refine ⟨.anyDirectories :: first :: read, count, ?_, ?_, by simpa using hread⟩ <;>
          exact pushDirectories_cons_of_ne hfirst _

/-- One more token keeps the two readers together. -/
theorem Anchors.push (hdone : Anchors done done') (token : Token) :
    Anchors (push token done) (push token done') := by
  unfold Glob.push
  split_ifs with htoken
  · exact hdone.pushDirectories
  · obtain ⟨read, count, rfl, rfl, hread⟩ := hdone
    refine ⟨token :: read, count, rfl, rfl, ?_⟩
    cases read with
    | nil => simpa using htoken
    | cons first read => simpa using hread

theorem Reading.exists_anchored (hreading : Reading previous done text final)
    (hplace : place = previous ∨ previous = none ∧ place = some '/')
    (hdone : Anchors done done') :
    ∃ final', Reading place done' text final' ∧ Anchors final final' := by
  induction hreading generalizing place done' with
  | nil => exact ⟨done', .nil _ _, hdone⟩
  | cons hstarts _ ih =>
      obtain ⟨final', hbehind, hfinal⟩ := ih (Or.inl rfl) (hdone.push _)
      exact ⟨final', .cons (hstarts.of_place hplace) hbehind, hfinal⟩

/-! ## What it matches -/

theorem matchTokens_replicate (count : ℕ) (tokens : List Token) (text : List Char) :
    matchTokens (.anyDirectories :: (List.replicate count .anyDirectories ++ tokens)) text ↔
      matchTokens (.anyDirectories :: tokens) text := by
  induction count with
  | zero => rfl
  | succ count ih =>
      rw [List.replicate_succ, List.cons_append, matchTokens_anyDirectories_twice, ih]

/-- A glob that can be read can be read behind `/**/`, and then stands for what it stands for
behind a recursive wildcard. -/
theorem exists_read_anchored (hread : read text = .ok tokens) :
    ∃ tokens', read ('/' :: '*' :: '*' :: '/' :: text) = .ok tokens' ∧
      ∀ rest, matchTokens tokens' ('/' :: rest) ↔
        matchTokens (.anyDirectories :: tokens) rest := by
  have hstart : Anchors [] [.anyDirectories, .char '/'] := ⟨[], 0, rfl, rfl, by simp⟩
  obtain ⟨final, hfinal, read, count, htokens, rfl, -⟩ :=
    (read_eq_ok_iff.mp hread).exists_anchored (Or.inr ⟨rfl, rfl⟩) hstart
  have hreading : Reading none [] ('/' :: '*' :: '*' :: '/' :: text)
      (read ++ [.anyDirectories, .char '/']) :=
    .cons (.char none _ (by decide)) (.cons (.directories (Or.inr rfl) _) hfinal)
  refine ⟨_, read_eq_ok_iff.mpr (by rw [List.reverse_reverse]; exact hreading), fun rest => ?_⟩
  have htokens' : tokens = List.replicate count .anyDirectories ++ read.reverse := by
    rw [← List.reverse_reverse tokens, htokens]
    simp
  rw [htokens', matchTokens_replicate, List.reverse_append]
  exact iff_of_eq (congrArg (· = true) matchTokens_slash_cons)

/-- A pattern with some text has some token. -/
theorem ne_nil_of_read (hne : text ≠ []) (hread : read text = .ok tokens) : tokens ≠ [] := by
  rintro rfl
  have hreading := read_eq_ok_iff.mp hread
  cases hreading with
  | nil => exact hne rfl
  | @cons _ _ _ _ _ token _ hstarts hbehind =>
      have hpush : Glob.push token [] = [] := List.suffix_nil.mp hbehind.suffix
      unfold Glob.push at hpush
      split_ifs at hpush
      cases hpush

end Glob

namespace CompiledRule

open Glob

variable {pattern : Pattern} {path : Path}

/-- A path that ends in a segment has an end without a slash. -/
theorem exists_segmentTail (habs : path.isAbsolute) (hinside : path.segments.tail ≠ []) :
    ∃ tail ∈ segmentTails path.slashed.toList, '/' ∉ tail := by
  have hsuffix : [path.segments.tail.getLast hinside] <:+ path.segments.tail :=
    ⟨_, List.dropLast_append_getLast hinside⟩
  refine ⟨_, (mem_segmentTails_slashed_iff habs).mpr ⟨_, hsuffix, by simp, rfl⟩, ?_⟩
  have hinner := isInner_of_mem_tail habs _ (List.getLast_mem hinside)
  rw [Segment.toChars, Segment.spell_singleton hinner]
  exact Segment.slash_not_mem_shown hinner

/-- Some end of a path matches exactly if the path matches behind a recursive wildcard. -/
theorem exists_segmentTail_iff {tokens : List Token} (hne : tokens ≠ []) (habs : path.isAbsolute)
    (hinside : path.segments.tail ≠ []) :
    (∃ tail ∈ segmentTails path.slashed.toList, matchTokens tokens tail) ↔
      matchTokens (.anyDirectories :: tokens) (Segment.toChars path.segments.tail) := by
  have hbody := Segment.toChars_ne_nil hinside (isInner_of_mem_tail habs)
  obtain ⟨last, hlast, hslash⟩ := exists_segmentTail habs hinside
  -- tokens that match nothing at all match the last segment
  have hempty : matchTokens tokens [] → ∃ tail ∈ segmentTails path.slashed.toList,
      matchTokens tokens tail := fun hmatch =>
    ⟨last, hlast, matchTokens_of_matchTokens_nil hne hmatch hslash⟩
  rw [toList_slashed_of_isAbsolute habs] at hempty ⊢
  simp only [mem_segmentTails_iff] at hempty ⊢
  rw [matchTokens_anyDirectories_iff]
  constructor
  · rintro ⟨tail, ⟨-, front, htext⟩, hmatch⟩
    cases front with
    | nil =>
        obtain ⟨-, rfl⟩ := List.cons.inj htext
        exact Or.inl hmatch
    | cons c front =>
        obtain ⟨-, hrest⟩ := List.cons.inj htext
        exact Or.inr (Or.inr ⟨front, tail, hrest, hmatch⟩)
  · rintro (hmatch | hmatch | ⟨front, rest, htext, hmatch⟩)
    · exact ⟨_, ⟨hbody, [], rfl⟩, hmatch⟩
    · exact hempty hmatch
    · by_cases hrest : rest = []
      · exact hempty (hrest ▸ hmatch)
      · exact ⟨rest, ⟨hrest, '/' :: front, by rw [htext]; rfl⟩, hmatch⟩

/-- Behind a recursive wildcard a glob matches what it matches by itself. -/
theorem matchesPath_anchored {glob : String} (hparse : Pattern.parse glob = .ok pattern)
    (hne : glob ≠ "") (hrelative : glob.toList.head? ≠ some '/') (kind : ContentKind)
    (habs : path.isAbsolute) (hinside : path.segments.tail ≠ []) :
    ∃ anchored, Pattern.parse ("/**/" ++ glob) = .ok anchored ∧
      CompiledRule.matchesPath ⟨kind, [pattern]⟩ path =
        CompiledRule.matchesPath ⟨kind, [anchored]⟩ path := by
  obtain ⟨rfl, hread⟩ := exists_read_of_parse hparse
  obtain ⟨tokens, hanchored, hmatch⟩ := exists_read_anchored hread
  have htext : ("/**/" ++ pattern.text).toList =
      '/' :: '*' :: '*' :: '/' :: pattern.text.toList := by
    simp
  refine ⟨⟨"/**/" ++ pattern.text, tokens⟩, by rw [Pattern.parse, htext, hanchored]; rfl, ?_⟩
  have hsome : pattern.tokens ≠ [] := ne_nil_of_read (by simpa using hne) hread
  rw [Bool.eq_iff_iff, matchesPath_singleton hrelative,
    matchesPath_singleton_of_slash (by rw [htext]; rfl), toList_slashed_of_isAbsolute habs, hmatch,
    ← exists_segmentTail_iff hsome habs hinside, toList_slashed_of_isAbsolute habs]

/-- Of two recursive wildcards at the front of a glob both are kept, and behind `/**/` none. -/
theorem matchesPath_anchored_twice :
    let pattern : Pattern :=
      ⟨"**/**/a?", [.anyDirectories, .anyDirectories, .char 'a', .anyChar]⟩
    let anchored : Pattern :=
      ⟨"/**/**/**/a?", [.char '/', .anyDirectories, .char 'a', .anyChar]⟩
    Pattern.parse "**/**/a?" = .ok pattern ∧ Pattern.parse "/**/**/**/a?" = .ok anchored ∧
      CompiledRule.matchesPath ⟨.text, [anchored]⟩ "/w/x/ab" ∧
      CompiledRule.matchesPath ⟨.text, [pattern]⟩ "/w/x/ab" := by
  intro pattern anchored
  have hparse : Pattern.parse "**/**/a?" = .ok pattern := by decide +kernel
  have hanchored : Pattern.parse ("/**/" ++ "**/**/a?") = .ok anchored := by decide +kernel
  have habs : Path.isAbsolute "/w/x/ab" := by decide
  obtain ⟨found, hfound, hsame⟩ :=
    matchesPath_anchored hparse (by decide) (by decide) .text habs (by decide)
  obtain rfl := Except.ok.inj (hfound.symm.trans hanchored)
  refine ⟨hparse, hanchored, by decide +kernel, ?_⟩
  rw [hsame]
  decide +kernel

end CompiledRule

end ModuleDiscovery
