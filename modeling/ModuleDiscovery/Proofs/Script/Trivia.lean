import Mathlib.Data.List.Basic
import ModuleDiscovery.Script.Trivia

/-!
# Text that separates tokens

A reader that is not inside a comment of several lines passes over a text when it comes to
the end of it without a token and with no comment left open.  A comment on a line of its own
is such a text.  A line end inside it is not only the end of the comment: what follows is
read as JavaScript.

## Main results

* `passes_commentLine`: a comment on a line of its own is passed over.
* `not_passes_brokenLine`: it is not when a colon follows a line end in it.
-/

namespace ModuleDiscovery.Script

theorem isLineEnd_iff {c : Char} :
    isLineEnd c ↔ c = '\n' ∨ c = '\r' ∨ c = '\u2028' ∨ c = '\u2029' := by
  simp [isLineEnd, or_assoc]

namespace Trivia

variable {dialect : Dialect} {inside first : Option Comment} {comment : Comment} {newLine : Bool}
  {offset : ℕ} {c : Char} {line rest : List Char}

/-- Whether a reader passes over a text: it finds no token and no comment that never ends.
It may come to the text inside a comment that ends with its line. -/
def Passes (dialect : Dialect) (text : List Char) : Prop :=
  ∀ inside newLine first offset, (∀ open_ ∈ inside, open_.single) →
    (skip dialect inside newLine first offset text).rest = [] ∧
      (skip dialect inside newLine first offset text).unclosed = none

/-- A comment that ends with its line goes on up to a line end. -/
theorem skip_single (hsingle : comment.single) (c : Char) (rest : List Char) :
    skip dialect (some comment) newLine first offset (c :: rest) =
      if isLineEnd c then skip dialect none true first (offset + c.utf8Size) rest
      else skip dialect (some comment) newLine first (offset + c.utf8Size) rest := by
  obtain ⟨start, text, _⟩ := comment
  obtain rfl := hsingle
  -- the recursion is on the text, whose first characters are not known here
  delta skip
  rfl

theorem skip_lineEnd (hend : isLineEnd c) (hinside : ∀ open_ ∈ inside, open_.single)
    (rest : List Char) :
    skip dialect inside newLine first offset (c :: rest) =
      skip dialect none true first (offset + c.utf8Size) rest := by
  cases inside with
  | none => rcases isLineEnd_iff.mp hend with rfl | rfl | rfl | rfl <;> rfl
  | some open_ => rw [skip_single (hinside open_ rfl), if_pos hend]

theorem exists_skip_line (hsingle : comment.single) (hline : ∀ c ∈ line, isLineEnd c = false)
    (hend : isLineEnd c) (rest : List Char) (first : Option Comment) (offset : ℕ) :
    ∃ offset', skip dialect (some comment) newLine first offset (line ++ c :: rest) =
      skip dialect none true first offset' rest := by
  induction line generalizing offset with
  | nil => exact ⟨_, skip_lineEnd hend (by simpa using hsingle) rest⟩
  | cons d line ih =>
      rw [List.forall_mem_cons] at hline
      obtain ⟨offset', hskip⟩ := ih hline.2 (offset + d.utf8Size)
      refine ⟨offset', ?_⟩
      rw [List.cons_append, skip_single hsingle, if_neg (by simp [hline.1]), hskip]

/-- A reader goes on behind the first line end of a comment on a line of its own. -/
theorem exists_skip_commentLine (hinside : ∀ open_ ∈ inside, open_.single)
    (hline : ∀ c ∈ line, isLineEnd c = false) (hend : isLineEnd c) (rest : List Char) :
    ∃ first' offset', skip dialect inside newLine first offset
        ('\n' :: '/' :: '/' :: (line ++ c :: rest)) =
      skip dialect none true first' offset' rest := by
  have hslashes : ∀ first offset text, skip dialect none true first offset ('/' :: '/' :: text) =
      skip dialect (some ⟨offset, text, true⟩) true (first <|> some ⟨offset, text, true⟩)
        (offset + 2) text := fun _ _ _ => rfl
  rw [skip_lineEnd (by decide) hinside, hslashes]
  exact ⟨_, exists_skip_line rfl hline hend rest _ _⟩

theorem passes_commentLine (hline : ∀ c ∈ line, isLineEnd c = false) :
    Passes dialect ('\n' :: '/' :: '/' :: (line ++ ['\n'])) := by
  intro inside newLine first offset hinside
  obtain ⟨first', offset', hskip⟩ :=
    exists_skip_commentLine hinside hline (c := '\n') (by decide) []
  rw [hskip]
  exact ⟨rfl, rfl⟩

theorem not_passes_brokenLine (hline : ∀ c ∈ line, isLineEnd c = false) (hend : isLineEnd c)
    (rest : List Char) :
    ¬ Passes dialect ('\n' :: '/' :: '/' :: (line ++ c :: ':' :: rest)) := by
  intro hpasses
  obtain ⟨hrest, -⟩ := hpasses none false none 0 (by simp)
  have houtside : ∀ open_ ∈ (none : Option Comment), open_.single := by simp
  obtain ⟨first', offset', hskip⟩ :=
    exists_skip_commentLine houtside hline hend (':' :: rest)
  rw [hskip] at hrest
  cases hrest

end Trivia

end ModuleDiscovery.Script
