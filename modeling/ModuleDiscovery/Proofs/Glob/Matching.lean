import Mathlib.Data.List.Basic
import ModuleDiscovery.Glob

/-!
# What tokens match

A `*` matches a run of characters without a slash, and a recursive wildcard the text up to
some slash, nothing at all, or all that is left.  No other token but a slash matches a
slash, so without recursive wildcards a text has as many slashes as its pattern.

## Main results

* `matchTokens_anyDirectories_iff`: what a recursive wildcard stands for.
* `count_slash_of_matchTokens`: the slashes of a text.
-/

namespace ModuleDiscovery

namespace Glob

variable {accept : List Char → Bool} {token : Token} {tokens : List Token} {c : Char}
  {text rest : List Char}

/-! ## Wildcards -/

theorem skipSequence_iff :
    skipSequence accept text ↔ ∃ run rest, text = run ++ rest ∧ '/' ∉ run ∧ accept rest := by
  induction text with
  | nil => simp [skipSequence]
  | cons c text ih =>
      simp only [skipSequence, Bool.or_eq_true, Bool.and_eq_true, decide_eq_true_eq, ih]
      constructor
      · rintro (haccept | ⟨hc, run, rest, rfl, hrun, haccept⟩)
        · exact ⟨[], c :: text, rfl, List.not_mem_nil, haccept⟩
        · exact ⟨c :: run, rest, rfl, by simp [hrun, Ne.symm hc], haccept⟩
      · rintro ⟨run, rest, htext, hrun, haccept⟩
        cases run with
        | nil => exact Or.inl (htext ▸ haccept)
        | cons d run =>
            obtain ⟨rfl, rfl⟩ := List.cons.inj htext
            rw [List.mem_cons, not_or] at hrun
            exact Or.inr ⟨Ne.symm hrun.1, run, rest, rfl, hrun.2, haccept⟩

theorem skipDirectories_iff :
    skipDirectories accept text ↔
      accept [] ∨ ∃ front rest, text = front ++ '/' :: rest ∧ accept rest := by
  induction text with
  | nil => simp [skipDirectories]
  | cons c text ih =>
      simp only [skipDirectories, Bool.or_eq_true, Bool.and_eq_true, decide_eq_true_eq, ih]
      constructor
      · rintro (⟨rfl, haccept⟩ | hempty | ⟨front, rest, rfl, haccept⟩)
        · exact Or.inr ⟨[], text, rfl, haccept⟩
        · exact Or.inl hempty
        · exact Or.inr ⟨c :: front, rest, rfl, haccept⟩
      · rintro (hempty | ⟨front, rest, htext, haccept⟩)
        · exact Or.inr (Or.inl hempty)
        · cases front with
          | nil =>
              obtain ⟨rfl, rfl⟩ := List.cons.inj htext
              exact Or.inl ⟨rfl, haccept⟩
          | cons d front =>
              obtain ⟨rfl, rfl⟩ := List.cons.inj htext
              exact Or.inr (Or.inr ⟨front, rest, rfl, haccept⟩)

/-- A recursive wildcard stands for nothing, for directories with a slash behind them, or for
all that is left. -/
theorem matchTokens_anyDirectories_iff :
    matchTokens (.anyDirectories :: tokens) text ↔
      matchTokens tokens text ∨ matchTokens tokens [] ∨
        ∃ front rest, text = front ++ '/' :: rest ∧ matchTokens tokens rest := by
  rw [matchTokens, Bool.or_eq_true, skipDirectories_iff]

/-- Two recursive wildcards stand for no more than one. -/
theorem matchTokens_anyDirectories_twice :
    matchTokens (.anyDirectories :: .anyDirectories :: tokens) text ↔
      matchTokens (.anyDirectories :: tokens) text := by
  have hempty : matchTokens (.anyDirectories :: tokens) [] ↔ matchTokens tokens [] := by
    simp [matchTokens_anyDirectories_iff]
  rw [matchTokens_anyDirectories_iff, hempty]
  constructor
  · rintro (hmatch | hmatch | ⟨front, rest, rfl, hmatch⟩)
    · exact hmatch
    · exact matchTokens_anyDirectories_iff.mpr (Or.inr (Or.inl hmatch))
    · rw [matchTokens_anyDirectories_iff] at hmatch ⊢
      rcases hmatch with hmatch | hmatch | ⟨middle, rest, rfl, hmatch⟩
      · exact Or.inr (Or.inr ⟨front, rest, rfl, hmatch⟩)
      · exact Or.inr (Or.inl hmatch)
      · exact Or.inr (Or.inr ⟨front ++ '/' :: middle, rest, by simp, hmatch⟩)
  · exact Or.inl

theorem matchTokens_slash_cons :
    matchTokens (.char '/' :: tokens) ('/' :: rest) = matchTokens tokens rest := by
  simp [matchTokens, matchesChar]

/-- Tokens that match nothing at all are wildcards, so they match any run of characters. -/
theorem matchTokens_of_matchTokens_nil (hne : tokens ≠ []) (hempty : matchTokens tokens [])
    (htext : '/' ∉ text) : matchTokens tokens text := by
  cases tokens with
  | nil => exact absurd rfl hne
  | cons token tokens =>
      cases token with
      | anySequence =>
          rw [matchTokens, skipSequence_iff] at hempty ⊢
          obtain ⟨run, rest, hrun, -, haccept⟩ := hempty
          obtain ⟨rfl, rfl⟩ := List.append_eq_nil_iff.mp hrun.symm
          exact ⟨text, [], by simp, htext, haccept⟩
      | anyDirectories =>
          rw [matchTokens_anyDirectories_iff] at hempty ⊢
          simp at hempty
          exact Or.inr (Or.inl hempty)
      | _ => cases hempty

/-! ## Slashes -/

/-- Only a slash matches a slash. -/
theorem eq_slash_iff_of_matchesChar (hmatch : matchesChar token c) :
    c = '/' ↔ token = .char '/' := by
  cases token with
  | char d =>
      obtain rfl : c = d := by simpa [matchesChar] using hmatch
      simp
  | anyChar | within | except =>
      have hc : c ≠ '/' := by
        rintro rfl
        simp [matchesChar] at hmatch
      simp [hc]
  | anySequence | anyDirectories => cases hmatch

/-- A token that is no wildcard takes one character. -/
theorem exists_of_matchTokens (hsequence : token ≠ .anySequence)
    (hdirectories : token ≠ .anyDirectories) (hmatch : matchTokens (token :: tokens) text) :
    ∃ c rest, text = c :: rest ∧ matchesChar token c ∧ matchTokens tokens rest := by
  cases text with
  | nil => simp [matchTokens] at hmatch
  | cons c rest =>
      have hboth : matchesChar token c ∧ matchTokens tokens rest := by
        simpa [matchTokens, hsequence, hdirectories] using hmatch
      exact ⟨c, rest, rfl, hboth⟩

/-- Without recursive wildcards a text has the slashes of its pattern. -/
theorem count_slash_of_matchTokens (hflat : .anyDirectories ∉ tokens)
    (hmatch : matchTokens tokens text) : text.count '/' = tokens.count (.char '/') := by
  induction tokens generalizing text with
  | nil =>
      obtain rfl : text = [] := by simpa [matchTokens] using hmatch
      rfl
  | cons token tokens ih =>
      rw [List.mem_cons, not_or] at hflat
      by_cases hsequence : token = .anySequence
      · subst hsequence
        rw [matchTokens, skipSequence_iff] at hmatch
        obtain ⟨run, rest, rfl, hrun, hrest⟩ := hmatch
        rw [List.count_append, List.count_eq_zero.mpr hrun, ih hflat.2 hrest]
        simp
      · obtain ⟨c, rest, rfl, hc, hrest⟩ := exists_of_matchTokens hsequence (Ne.symm hflat.1) hmatch
        rw [List.count_cons, List.count_cons, ih hflat.2 hrest]
        simp [eq_slash_iff_of_matchesChar hc]

end Glob

end ModuleDiscovery
