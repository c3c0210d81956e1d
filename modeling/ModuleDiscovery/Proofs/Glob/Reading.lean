import Mathlib.Data.List.Basic
import Mathlib.Data.List.Infix
import ModuleDiscovery.Glob

/-!
# The grammar of patterns

`Glob.read` goes through a pattern with a bound on its rounds and a position for its
errors.  `Starts` says without either what one round reads, and `Reading` what all of them
do, so `read_eq_ok_iff` is all that is needed of the reader later.

## Main results

* `read_eq_ok_iff`: the patterns that can be read, and their tokens.
* `count_slash_of_read`: in a pattern without recursive wildcards, each slash outside of
  classes is a token.
-/

namespace ModuleDiscovery

namespace Glob

variable {steps position : ℕ} {previous : Option Char} {c last : Char} {token : Token}
  {done final tokens : List Token} {text rest behind inside : List Char}

/-! ## Classes -/

theorem splitClass_eq_some (hsplit : splitClass text = some (inside, rest)) :
    text = inside ++ ']' :: rest ∧ ']' ∉ inside := by
  fun_induction splitClass text generalizing inside with
  | case1 => cases hsplit
  | case2 =>
      obtain ⟨rfl, rfl⟩ := Prod.mk.inj (Option.some.inj hsplit)
      exact ⟨rfl, List.not_mem_nil⟩
  | case3 c text hc ih =>
      obtain ⟨⟨inside', rest'⟩, hinside, heq⟩ := Option.map_eq_some_iff.mp hsplit
      obtain ⟨rfl, rfl⟩ := Prod.mk.inj heq
      obtain ⟨rfl, hopen⟩ := ih hinside
      exact ⟨rfl, by simp [hopen, Ne.symm hc]⟩

/-- A class is a text behind a bracket, with `!` in front or without, whose first character
is not its end. -/
theorem readClass_eq_some (hclass : readClass rest = some (token, behind)) :
    ∃ first inside, ']' ∉ inside ∧
      (rest = '!' :: first :: inside ++ ']' :: behind ∧
          token = .except (classItems (first :: inside)) ∨
        first ≠ '!' ∧ rest = first :: inside ++ ']' :: behind ∧
          token = .within (classItems (first :: inside))) := by
  unfold readClass at hclass
  split at hclass
  · obtain ⟨⟨inside, behind'⟩, hsplit, heq⟩ := Option.map_eq_some_iff.mp hclass
    obtain ⟨rfl, rfl⟩ := Prod.mk.inj heq
    obtain ⟨rfl, hopen⟩ := splitClass_eq_some hsplit
    exact ⟨_, inside, hopen, Or.inl ⟨rfl, rfl⟩⟩
  · cases hclass
  · rename_i first text hnegated hempty
    obtain ⟨⟨inside, behind'⟩, hsplit, heq⟩ := Option.map_eq_some_iff.mp hclass
    obtain ⟨rfl, rfl⟩ := Prod.mk.inj heq
    obtain ⟨rfl, hopen⟩ := splitClass_eq_some hsplit
    refine ⟨first, inside, hopen, Or.inr ⟨?_, rfl, rfl⟩⟩
    rintro rfl
    cases inside with
    | nil => exact hnegated _ _ rfl rfl
    | cons c inside => exact hnegated _ _ rfl rfl
  · cases hclass

theorem length_lt_of_readClass (hclass : readClass rest = some (token, behind)) :
    behind.length < rest.length := by
  obtain ⟨first, inside, -, ⟨rfl, -⟩ | ⟨-, rfl, -⟩⟩ := readClass_eq_some hclass <;> simp <;> omega

/-! ## One round -/

/-- What stands at the front of a pattern: a token, the last character of it, and the text
behind it.  `previous` is the character in front. -/
inductive Starts : Option Char → List Char → Token → Char → List Char → Prop where
  | anyChar (previous : Option Char) (rest : List Char) :
      Starts previous ('?' :: rest) .anyChar '?' rest
  | anySequence (previous : Option Char) {rest : List Char} (hsingle : rest.head? ≠ some '*') :
      Starts previous ('*' :: rest) .anySequence '*' rest
  | lastDirectories {previous : Option Char} (hplace : previous = none ∨ previous = some '/') :
      Starts previous ['*', '*'] .anyDirectories '*' []
  | directories {previous : Option Char} (hplace : previous = none ∨ previous = some '/')
      (rest : List Char) : Starts previous ('*' :: '*' :: '/' :: rest) .anyDirectories '/' rest
  | ofClass (previous : Option Char) {rest behind : List Char} {token : Token}
      (hclass : readClass rest = some (token, behind)) :
      Starts previous ('[' :: rest) token ']' behind
  | char (previous : Option Char) {c : Char} (rest : List Char)
      (hplain : c ≠ '?' ∧ c ≠ '*' ∧ c ≠ '[') : Starts previous (c :: rest) (.char c) c rest

/-- Adds a token to those read so far. -/
def push (token : Token) (done : List Token) : List Token :=
  if token = .anyDirectories then pushDirectories done else token :: done

theorem Starts.length_lt (hstarts : Starts previous text token last behind) :
    behind.length < text.length := by
  cases hstarts with
  | ofClass hclass => exact (length_lt_of_readClass hclass).trans (Nat.lt_succ_self _)
  | _ => simp <;> omega

/-- A round of the reader. -/
theorem readFrom_of_starts (hstarts : Starts previous text token last behind)
    (steps position : ℕ) (done : List Token) :
    ∃ position', readFrom (steps + 1) position previous done text =
      readFrom steps position' (some last) (push token done) behind := by
  cases hstarts with
  | anyChar => exact ⟨_, rfl⟩
  | anySequence hsingle =>
      cases behind with
      | nil => exact ⟨_, rfl⟩
      | cons c rest =>
          have hc : c ≠ '*' := by simpa using hsingle
          exact ⟨position + 1, by simp [readFrom, hc, push]⟩
  | lastDirectories hplace => exact ⟨position + 2, by simp [readFrom, hplace, push]⟩
  | directories hplace => exact ⟨position + 3, by simp [readFrom, hplace, push]⟩
  | ofClass hclass =>
      have htoken : token ≠ .anyDirectories := by
        obtain ⟨first, inside, -, ⟨-, rfl⟩ | ⟨-, -, rfl⟩⟩ := readClass_eq_some hclass <;> simp
      exact ⟨_, by simp only [readFrom, hclass, push, htoken]; rfl⟩
  | char _ hplain =>
      obtain ⟨hquestion, hstar, hbracket⟩ := hplain
      exact ⟨position + 1, by simp [readFrom, hquestion, hstar, hbracket, push]⟩

/-- Two stars are a recursive wildcard, or the reader stops at them. -/
theorem exists_starts_of_readFrom_stars
    (hread : readFrom (steps + 1) position previous done ('*' :: '*' :: rest) = .ok tokens) :
    ∃ last behind, Starts previous ('*' :: '*' :: rest) .anyDirectories last behind := by
  by_cases hplace : previous = none ∨ previous = some '/'
  · cases rest with
    | nil => exact ⟨_, _, .lastDirectories hplace⟩
    | cons c rest =>
        by_cases hslash : c = '/'
        · subst hslash
          exact ⟨_, _, .directories hplace rest⟩
        · by_cases hstar : c = '*'
          · simp [readFrom, hstar] at hread
          · simp [readFrom, hstar, hslash, hplace] at hread
  · cases rest with
    | nil => simp [readFrom, hplace] at hread
    | cons c rest => by_cases hstar : c = '*' <;> simp [readFrom, hstar, hplace] at hread

/-- The reader only goes on where a token starts. -/
theorem exists_starts_of_readFrom
    (hread : readFrom (steps + 1) position previous done (c :: rest) = .ok tokens) :
    ∃ token last behind, Starts previous (c :: rest) token last behind := by
  by_cases hquestion : c = '?'
  · subst hquestion
    exact ⟨_, _, _, .anyChar _ _⟩
  by_cases hstar : c = '*'
  · subst hstar
    by_cases hsingle : rest.head? = some '*'
    · obtain ⟨more, rfl⟩ := List.head?_eq_some_iff.mp hsingle
      exact ⟨_, exists_starts_of_readFrom_stars hread⟩
    · exact ⟨_, _, _, .anySequence _ hsingle⟩
  by_cases hbracket : c = '['
  · subst hbracket
    cases hclass : readClass rest with
    | none => simp [readFrom, hclass] at hread
    | some found => exact ⟨_, _, _, .ofClass _ hclass⟩
  · exact ⟨_, _, _, .char _ _ ⟨hquestion, hstar, hbracket⟩⟩

/-! ## Whole patterns -/

/-- How a pattern is read from some place on.  The tokens read before and those read in the
end are both listed last first. -/
inductive Reading : Option Char → List Token → List Char → List Token → Prop where
  | nil (previous : Option Char) (done : List Token) : Reading previous done [] done
  | cons {previous : Option Char} {done final : List Token} {text behind : List Char}
      {token : Token} {last : Char} (hstarts : Starts previous text token last behind)
      (hbehind : Reading (some last) (push token done) behind final) :
      Reading previous done text final

theorem readFrom_eq_ok_iff (hsteps : text.length < steps) :
    readFrom steps position previous done text = .ok tokens ↔
      Reading previous done text tokens.reverse := by
  induction steps generalizing position previous done text with
  | zero => exact absurd hsteps (Nat.not_lt_zero _)
  | succ steps ih =>
      cases text with
      | nil =>
          rw [readFrom, Except.ok.injEq, List.reverse_eq_iff]
          constructor
          · rintro rfl
            exact .nil previous _
          · intro hreading
            cases hreading with
            | nil => rfl
            | cons hstarts => exact absurd hstarts.length_lt (Nat.not_lt_zero _)
      | cons c rest =>
          -- one round reads a token, and what is behind it takes fewer
          have hround : ∀ {token last behind}, Starts previous (c :: rest) token last behind →
              (readFrom (steps + 1) position previous done (c :: rest) = .ok tokens ↔
                Reading (some last) (push token done) behind tokens.reverse) := by
            intro token last behind hstarts
            obtain ⟨position', hread⟩ := readFrom_of_starts hstarts steps position done
            have hbehind : behind.length < steps := by
              have := hstarts.length_lt
              omega
            rw [hread, ih hbehind]
          constructor
          · intro hread
            obtain ⟨token, last, behind, hstarts⟩ := exists_starts_of_readFrom hread
            exact .cons hstarts ((hround hstarts).mp hread)
          · intro hreading
            cases hreading with
            | cons hstarts hbehind => exact (hround hstarts).mpr hbehind

/-- The patterns that can be read, and their tokens. -/
theorem read_eq_ok_iff : read text = .ok tokens ↔ Reading none [] text tokens.reverse :=
  readFrom_eq_ok_iff (Nat.lt_succ_self _)

/-! ## Slashes -/

/-- Where a reader stands: outside of classes, behind the bracket that opens one, in front of
the character that is never its end, or behind that. -/
inductive Place where
  | outside
  | opening
  | first
  | inside
  deriving DecidableEq, Repr

/-- The number of slashes in a pattern that are outside of classes. -/
def bareSlashes : Place → List Char → ℕ
  | _, [] => 0
  | .outside, c :: rest =>
    if c = '[' then bareSlashes .opening rest
    else if c = '/' then bareSlashes .outside rest + 1
    else bareSlashes .outside rest
  | .opening, c :: rest => bareSlashes (if c = '!' then .first else .inside) rest
  | .first, _ :: rest => bareSlashes .inside rest
  | .inside, c :: rest => bareSlashes (if c = ']' then .outside else .inside) rest

theorem bareSlashes_inside (hopen : ']' ∉ inside) (behind : List Char) :
    bareSlashes .inside (inside ++ ']' :: behind) = bareSlashes .outside behind := by
  induction inside with
  | nil => rfl
  | cons c inside ih =>
      rw [List.mem_cons, not_or] at hopen
      rw [List.cons_append, bareSlashes, if_neg (Ne.symm hopen.1), ih hopen.2]

theorem bareSlashes_opening (hclass : readClass rest = some (token, behind)) :
    bareSlashes .opening rest = bareSlashes .outside behind := by
  obtain ⟨first, inside, hopen, ⟨rfl, -⟩ | ⟨hfirst, rfl, -⟩⟩ := readClass_eq_some hclass
  · exact bareSlashes_inside hopen behind
  · rw [List.cons_append, bareSlashes, if_neg hfirst, bareSlashes_inside hopen]

/-- A token that is no recursive wildcard stands for one slash or for none. -/
theorem bareSlashes_of_starts (hstarts : Starts previous text token last behind)
    (hflat : token ≠ .anyDirectories) :
    bareSlashes .outside text = [token].count (.char '/') + bareSlashes .outside behind := by
  cases hstarts with
  | lastDirectories | directories => exact absurd rfl hflat
  | anyChar | anySequence => simp [bareSlashes]
  | ofClass hclass =>
      have htoken : token ≠ .char '/' := by
        obtain ⟨first, inside, -, ⟨-, rfl⟩ | ⟨-, -, rfl⟩⟩ := readClass_eq_some hclass <;> simp
      rw [bareSlashes, if_pos rfl, bareSlashes_opening hclass, List.count_singleton]
      simp [htoken]
  | char _ hplain =>
      by_cases hslash : last = '/'
      · simp [bareSlashes, hslash, Nat.add_comm]
      · simp [bareSlashes, hslash, hplain]

theorem pushDirectories_suffix (done : List Token) :
    done <:+ pushDirectories done ∧ .anyDirectories ∈ pushDirectories done := by
  unfold pushDirectories
  split <;> simp

/-- Tokens that have been read stay. -/
theorem Reading.suffix (hreading : Reading previous done text final) : done <:+ final := by
  induction hreading with
  | nil => exact List.suffix_rfl
  | cons _ _ ih =>
      refine List.IsSuffix.trans ?_ ih
      unfold push
      split
      · exact (pushDirectories_suffix _).1
      · exact List.suffix_cons _ _

theorem Reading.count_slash (hreading : Reading previous done text final)
    (hflat : .anyDirectories ∉ final) :
    final.count (.char '/') = done.count (.char '/') + bareSlashes .outside text := by
  induction hreading with
  | nil => rfl
  | cons hstarts hbehind ih =>
      rename_i token last
      have htoken : token ≠ .anyDirectories := by
        rintro rfl
        exact hflat (hbehind.suffix.subset (pushDirectories_suffix _).2)
      rw [ih hflat, push, if_neg htoken, bareSlashes_of_starts hstarts htoken, List.count_cons,
        List.count_singleton]
      omega

/-- Without recursive wildcards the slashes outside of classes are tokens. -/
theorem count_slash_of_read (hread : read text = .ok tokens) (hflat : .anyDirectories ∉ tokens) :
    tokens.count (.char '/') = bareSlashes .outside text := by
  have hcount := (read_eq_ok_iff.mp hread).count_slash (by simpa using hflat)
  simpa using hcount

end Glob

end ModuleDiscovery
