import Mathlib.Data.Prod.Lex
import ModuleDiscovery.Proofs.SourceUrl.Marker
import ModuleDiscovery.Proofs.Text.Position

/-!
# Positions in stamped sources

A parser is given the stamped source, and the place it reports is one in the source that was
stamped: the stamp comes behind, so it moves no line and no character.

Every offset up to the end of a source is one where a character begins or the text ends
(`IsBoundary`), or lies inside a character (`IsInside`).  Both stay what they are when text is
put behind, and so does the text in front, which decides the position.

## Main results

* `LineIndex.position_exact`: what the position of an offset is, that positions come in the order
  of their offsets, and that a stamp moves none.
-/

namespace ModuleDiscovery

/-- A position as a pair, of which the line is compared first. -/
def Position.lineFirst (p : Position) : ℕ ×ₗ ℕ :=
  toLex (p.line, p.column)

namespace LineIndex

open SourceUrl (stamp isStamped marker stamp_of_isStamped stamp_of_not_isStamped)

variable {source : String} {offset : ℕ} {front front' : List Char}

/-! ## Boundaries -/

/-- Whether a character begins at an offset, or the text ends there. -/
def IsBoundary (source : String) (offset : ℕ) : Prop :=
  ∃ front, front <+: source.toList ∧ Slice.size front = offset

/-- Whether an offset lies inside a character. -/
def IsInside (source : String) (offset : ℕ) : Prop :=
  ∃ front c back, source.toList = front ++ c :: back ∧
    Slice.size front < offset ∧ offset < Slice.size front + c.utf8Size

theorem isBoundary_or_isInside (hoffset : offset ≤ source.utf8ByteSize) :
    IsBoundary source offset ∨ IsInside source offset := by
  rw [← Slice.size_toList] at hoffset
  unfold IsBoundary IsInside
  generalize source.toList = text at hoffset ⊢
  induction text using List.reverseRecOn with
  | nil => exact Or.inl ⟨[], List.prefix_rfl, (Nat.le_zero.mp hoffset).symm⟩
  | append_singleton text c ih =>
      rw [Slice.size_append, Slice.size_cons, Slice.size_nil] at hoffset
      rcases Nat.lt_trichotomy offset (Slice.size text + c.utf8Size) with hlt | heq | hgt
      · rcases Nat.lt_or_ge (Slice.size text) offset with hinside | hle
        · exact Or.inr ⟨text, c, [], rfl, hinside, hlt⟩
        · refine (ih hle).imp ?_ ?_
          · rintro ⟨front, hfront, hsize⟩
            exact ⟨front, hfront.trans (List.prefix_append text [c]), hsize⟩
          · rintro ⟨front, d, back, rfl, hinside⟩
            exact ⟨front, d, back ++ [c], by simp, hinside⟩
      · refine Or.inl ⟨text ++ [c], List.prefix_rfl, ?_⟩
        rw [heq, Slice.size_append, Slice.size_cons, Slice.size_nil, Nat.add_zero]
      · omega

/-! ## What a position is -/

/-- A position is exact: the line counts the line feeds in front of the offset or the end, and the
column the characters behind the last of them, unless the offset lies inside a character. -/
structure Exact (source : String) (offset : ℕ) (p : Position) : Prop where
  line : p.line =
    1 + ((Utf8.encode source).take (min offset source.utf8ByteSize)).count lineFeed
  column : ∀ front, front <+: source.toList →
    Slice.size front = min offset source.utf8ByteSize → p.column = 1 + (lastLine front).length
  inside : IsInside source offset → p.column = 1

theorem exact_position (hsize : source.utf8ByteSize < 2 ^ 32 - 1) (offset : UInt32) :
    Exact source offset.toNat ((ofSource source).position source offset) := by
  constructor
  · have hline : ((ofSource source).position source offset).line =
      (UInt32.ofNat ((ofSource source).line offset) + 1).toNat := rfl
    have hfeeds : feedsBefore source offset.toNat ≤ source.utf8ByteSize := by
      rw [← length_encode]
      exact List.count_le_length.trans (List.take_sublist ..).length_le
    rw [hline, line_ofSource (by omega), toNat_ofNat_add_one (by omega), ← feedsBefore_min,
      Nat.add_comm]
    rfl
  · intro front hfront hstop
    rw [position_of_isPrefix hsize hfront hstop]
    exact Nat.add_comm ..
  · rintro ⟨front, c, back, hsource, hlow, hhigh⟩
    rw [position_of_inside hsize hsource hlow hhigh]

/-! ## The order of positions -/

theorem lastLine_append (front : List Char) {more : List Char} (hmore : '\n' ∉ more) :
    lastLine (front ++ more) = lastLine front ++ more := by
  induction more using List.reverseRecOn with
  | nil => simp
  | append_singleton more c ih =>
      rw [List.mem_append, List.mem_singleton, not_or] at hmore
      rw [← List.append_assoc, lastLine_concat (Ne.symm hmore.2), ih hmore.1, List.append_assoc]

/-- More text in front is either another line or more characters on the same. -/
theorem lineFirst_lt_append (front : List Char) {more : List Char} (hmore : more ≠ []) :
    Position.lineFirst ⟨front.count '\n' + 1, (lastLine front).length + 1⟩ <
      Position.lineFirst
        ⟨(front ++ more).count '\n' + 1, (lastLine (front ++ more)).length + 1⟩ := by
  rw [Position.lineFirst, Position.lineFirst, Prod.Lex.toLex_lt_toLex, List.count_append]
  by_cases hfeed : '\n' ∈ more
  · have := List.count_pos_iff.mpr hfeed
    left
    dsimp only
    omega
  · right
    have := List.length_pos_iff.mpr hmore
    rw [List.count_eq_zero_of_not_mem hfeed, lastLine_append front hfeed, List.length_append]
    exact ⟨rfl, by dsimp only; omega⟩

theorem position_of_isBoundary (hsize : source.utf8ByteSize < 2 ^ 32 - 1) {offset : UInt32}
    (hfront : front <+: source.toList) (hoffset : Slice.size front = offset.toNat) :
    (ofSource source).position source offset =
      ⟨front.count '\n' + 1, (lastLine front).length + 1⟩ := by
  have hle : Slice.size front ≤ source.utf8ByteSize := by
    obtain ⟨back, hback⟩ := hfront
    rw [← Slice.size_toList, ← hback, Slice.size_append]
    exact Nat.le_add_right ..
  refine position_of_isPrefix hsize hfront ?_
  rw [Nat.min_eq_left (by omega), hoffset]

/-- Positions come in the order of their offsets. -/
theorem lineFirst_lt_of_lt (hsize : source.utf8ByteSize < 2 ^ 32 - 1) {offset offset' : UInt32}
    (hboundary : IsBoundary source offset.toNat) (hboundary' : IsBoundary source offset'.toNat)
    (hlt : offset < offset') :
    ((ofSource source).position source offset).lineFirst <
      ((ofSource source).position source offset').lineFirst := by
  obtain ⟨front, hfront, hoffset⟩ := hboundary
  obtain ⟨front', hfront', hoffset'⟩ := hboundary'
  rw [position_of_isBoundary hsize hfront hoffset, position_of_isBoundary hsize hfront' hoffset']
  rw [UInt32.lt_iff_toNat_lt, ← hoffset, ← hoffset'] at hlt
  rcases List.prefix_or_prefix_of_prefix hfront hfront' with ⟨more, rfl⟩ | ⟨more, rfl⟩
  · refine lineFirst_lt_append front ?_
    rintro rfl
    simp at hlt
  · rw [Slice.size_append] at hlt
    omega

/-! ## Stamps -/

theorem exists_toList_stamp (code locator : String) :
    ∃ more, (stamp code locator).toList = code.toList ++ more := by
  cases hmarker : isStamped code with
  | true => exact ⟨[], by rw [stamp_of_isStamped hmarker, List.append_nil]⟩
  | false =>
      rw [stamp_of_not_isStamped hmarker]
      exact ⟨("\n" ++ (marker ++ locator) ++ "\n").toList, by simp⟩

/-- What is put behind a source moves nothing in it. -/
theorem position_of_append {longer : String} {more : List Char}
    (hlonger : longer.toList = source.toList ++ more) (hsize : longer.utf8ByteSize < 2 ^ 32 - 1)
    {offset : UInt32} (hoffset : offset.toNat ≤ source.utf8ByteSize) :
    (ofSource longer).position longer offset = (ofSource source).position source offset := by
  have hle : source.utf8ByteSize ≤ longer.utf8ByteSize := by
    rw [← Slice.size_toList, ← Slice.size_toList, hlonger, Slice.size_append]
    exact Nat.le_add_right ..
  have hsource : source.utf8ByteSize < 2 ^ 32 - 1 := by omega
  rcases isBoundary_or_isInside hoffset with ⟨front, hfront, hfrontSize⟩ | hinside
  · have hprefix : front <+: longer.toList := by
      rw [hlonger]
      exact hfront.trans (List.prefix_append ..)
    rw [position_of_isBoundary hsize hprefix hfrontSize,
      position_of_isBoundary hsource hfront hfrontSize]
  · obtain ⟨front, c, back, htext, hlow, hhigh⟩ := hinside
    have htext' : longer.toList = front ++ c :: (back ++ more) := by simp [hlonger, htext]
    rw [position_of_inside hsize htext' hlow hhigh, position_of_inside hsource htext hlow hhigh]

/-- The position of every offset is exact, and its line is in the table.  Where characters begin
positions come in the order of the offsets, so a position belongs to one offset.  A stamp moves no
position of the source. -/
theorem position_exact (source : String) (hsize : source.utf8ByteSize < 2 ^ 32 - 1) :
    (∀ offset : UInt32,
      (ofSource source).line offset < (ofSource source).starts.size ∧
        Exact source offset.toNat ((ofSource source).position source offset)) ∧
    (∀ offset offset' : UInt32, IsBoundary source offset.toNat → IsBoundary source offset'.toNat →
      (offset < offset' →
        ((ofSource source).position source offset).lineFirst <
          ((ofSource source).position source offset').lineFirst) ∧
      ((ofSource source).position source offset = (ofSource source).position source offset' →
        offset = offset')) ∧
    (∀ (locator : String) (offset : UInt32), (stamp source locator).utf8ByteSize < 2 ^ 32 - 1 →
      offset.toNat ≤ source.utf8ByteSize →
        (ofSource (stamp source locator)).position (stamp source locator) offset =
          (ofSource source).position source offset) := by
  refine ⟨fun offset => ⟨(ofSource source).line_lt offset, exact_position hsize offset⟩, ?_, ?_⟩
  · intro offset offset' hboundary hboundary'
    refine ⟨lineFirst_lt_of_lt hsize hboundary hboundary', fun heq => ?_⟩
    -- of two different offsets one comes first, and its position then too
    by_contra hne
    have hne' : offset.toNat ≠ offset'.toNat := fun h => hne (UInt32.toNat_inj.mp h)
    rcases Nat.lt_or_gt_of_ne hne' with hlt | hlt
    · have hlex := lineFirst_lt_of_lt hsize hboundary hboundary' (UInt32.lt_iff_toNat_lt.mpr hlt)
      rw [heq] at hlex
      exact lt_irrefl _ hlex
    · have hlex := lineFirst_lt_of_lt hsize hboundary' hboundary (UInt32.lt_iff_toNat_lt.mpr hlt)
      rw [heq] at hlex
      exact lt_irrefl _ hlex
  · intro locator offset hstamped hoffset
    obtain ⟨more, hmore⟩ := exists_toList_stamp source locator
    exact position_of_append hmore hstamped hoffset

/-- The fourth byte lies inside the character on the second line, before the stamp and behind. -/
theorem position_exact_accent :
    let source := "a\né"
    source.utf8ByteSize < 2 ^ 32 - 1 ∧ (ofSource source).line 3 < (ofSource source).starts.size ∧
      Exact source 3 ⟨2, 1⟩ ∧
      (ofSource (stamp source "b")).position (stamp source "b") 3 = ⟨2, 1⟩ := by
  intro source
  have hsize : source.utf8ByteSize < 2 ^ 32 - 1 := by decide +kernel
  have hposition : (ofSource source).position source 3 = ⟨2, 1⟩ := by decide +kernel
  obtain ⟨hexact, -, hstamp⟩ := position_exact source hsize
  refine ⟨hsize, (hexact 3).1, hposition ▸ (hexact 3).2, ?_⟩
  rw [hstamp "b" 3 (by decide +kernel) (by decide +kernel), hposition]

end LineIndex

end ModuleDiscovery
