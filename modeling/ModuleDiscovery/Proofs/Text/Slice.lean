import Mathlib.Data.List.Basic
import Mathlib.Data.Nat.Notation
import Mathlib.Data.String.Basic
import ModuleDiscovery.Text.Slice

/-!
# Where a text can be cut

A text that is put together from pieces can be cut where they meet, and cutting gives the
pieces back (`Slice.between_eq_ok`).  It cannot be cut inside a character
(`Slice.between_of_inside`).
-/

namespace ModuleDiscovery

namespace Slice

variable {text front piece back : List Char} {beginning place : ℕ} {c : Char}

/-! ## Sizes -/

@[simp] theorem size_nil : size [] = 0 := rfl

@[simp] theorem size_cons (c : Char) (text : List Char) :
    size (c :: text) = c.utf8Size + size text := rfl

@[simp] theorem size_append (front back : List Char) :
    size (front ++ back) = size front + size back := by
  induction front with
  | nil => simp
  | cons c front ih => simp [ih, Nat.add_assoc]

theorem size_toList (text : String) : size text.toList = text.utf8ByteSize := by
  have hsize : ∀ text : List Char, size text = String.utf8Len text := by
    intro text
    induction text with
    | nil => rfl
    | cons c text ih => simp [ih, Nat.add_comm]
  rw [hsize, ← String.utf8ByteSize_ofList, String.ofList_toList]

/-! ## Places -/

theorem placed_append (place : ℕ) (front back : List Char) :
    placed place (front ++ back) = placed place front ++ placed (place + size front) back := by
  induction front generalizing place with
  | nil => rfl
  | cons c front ih => simp [placed, ih, Nat.add_assoc]

/-- A character lies between the ends of its text. -/
theorem le_of_mem_placed (hmem : (beginning, c) ∈ placed place text) :
    place ≤ beginning ∧ beginning + c.utf8Size ≤ place + size text := by
  induction text generalizing place with
  | nil => cases hmem
  | cons d text ih =>
      rw [placed, List.mem_cons, Prod.mk.injEq] at hmem
      rw [size_cons]
      rcases hmem with ⟨rfl, rfl⟩ | hmem
      · omega
      · have := ih hmem
        omega

theorem map_snd_placed (place : ℕ) (text : List Char) :
    (placed place text).map Prod.snd = text := by
  induction text generalizing place with
  | nil => rfl
  | cons c text ih => rw [placed, List.map_cons, ih]

/-- What holds of no place and character of a text chooses none. -/
theorem filter_placed_eq_nil {p : ℕ × Char → Bool} (place : ℕ) (text : List Char)
    (hnone : ∀ beginning c, place ≤ beginning → beginning + c.utf8Size ≤ place + size text →
      ¬ p (beginning, c)) : (placed place text).filter p = [] := by
  refine List.filter_eq_nil_iff.mpr ?_
  rintro ⟨beginning, c⟩ hmem
  obtain ⟨hlow, hhigh⟩ := le_of_mem_placed hmem
  exact hnone beginning c hlow hhigh

theorem filter_placed_eq_self {p : ℕ × Char → Bool} (place : ℕ) (text : List Char)
    (hall : ∀ beginning c, place ≤ beginning → beginning + c.utf8Size ≤ place + size text →
      p (beginning, c)) : (placed place text).filter p = placed place text := by
  refine List.filter_eq_self.mpr ?_
  rintro ⟨beginning, c⟩ hmem
  obtain ⟨hlow, hhigh⟩ := le_of_mem_placed hmem
  exact hall beginning c hlow hhigh

/-! ## Cuts -/

theorem across?_eq_none (front back : List Char) : across? (front ++ back) (size front) = none := by
  refine List.find?_eq_none.mpr ?_
  rintro ⟨beginning, c⟩ hmem
  rw [placed_append, List.mem_append] at hmem
  simp only [Bool.and_eq_true, decide_eq_true_eq]
  rcases hmem with hmem | hmem
  · have := le_of_mem_placed hmem
    omega
  · have := le_of_mem_placed hmem
    omega

theorem across?_eq_some (front back : List Char) (hlow : size front < place)
    (hhigh : place < size front + c.utf8Size) :
    across? (front ++ c :: back) place = some (size front, c) := by
  -- the characters in front end before the place
  rw [across?, placed_append, List.find?_append, List.find?_eq_none.mpr, Option.none_or, placed,
    Nat.zero_add]
  · exact List.find?_cons_of_pos (by simpa using ⟨hlow, hhigh⟩)
  · rintro ⟨beginning, d⟩ hmem
    have := le_of_mem_placed hmem
    simp only [Bool.and_eq_true, decide_eq_true_eq]
    omega

/-- A text is cut where its pieces meet. -/
theorem between_eq_ok (front piece back : List Char) :
    between (front ++ piece ++ back) (size front) (size (front ++ piece)) = .ok piece := by
  have hstart : across? (front ++ piece ++ back) (size front) = none := by
    rw [List.append_assoc]
    exact across?_eq_none ..
  have hstop : across? (front ++ piece ++ back) (size (front ++ piece)) = none :=
    across?_eq_none ..
  rw [between, hstart, hstop]
  simp only [placed_append, List.filter_append]
  -- of the three pieces exactly the characters of the one in the middle begin there
  rw [filter_placed_eq_nil 0 front, filter_placed_eq_self _ piece, filter_placed_eq_nil _ back,
    List.append_nil, List.nil_append, map_snd_placed]
  all_goals
    intro beginning c hlow hhigh
    have := c.utf8Size_pos
    simp only [size_append, Bool.and_eq_true, decide_eq_true_eq] at *
    omega

/-- No text is cut inside a character. -/
theorem between_of_inside (front back : List Char) (start : ℕ) (hlow : size front < place)
    (hhigh : place < size front + c.utf8Size) :
    ∃ e, between (front ++ c :: back) start place = .error e := by
  rw [between, across?_eq_some front back hlow hhigh]
  cases across? (front ++ c :: back) start with
  | none => exact ⟨_, rfl⟩
  | some across => exact ⟨_, rfl⟩

end Slice

end ModuleDiscovery
