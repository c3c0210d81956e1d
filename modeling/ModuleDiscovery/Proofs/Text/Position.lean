import Mathlib.Data.List.DropRight
import ModuleDiscovery.Proofs.Text.Slice
import ModuleDiscovery.Proofs.Text.Utf8
import ModuleDiscovery.Text.Position

/-!
# Lines and columns are exact

The line of an offset is found by halving a table of line starts.  The start of a line comes
no later than an offset exactly when there are that many line feeds in front of the offset
(`LineIndex.starts_le_iff`), so halving ends at the number of these line feeds
(`LineIndex.line_ofSource`), and the start found there is the end of the last of them.

Where a character begins, the column is one more than the number of characters behind that
line feed (`LineIndex.position_of_isPrefix`); inside a character it is one
(`LineIndex.position_of_inside`).
-/

namespace ModuleDiscovery

/-! ## Halving -/

/-- When from some place on all come later, halving ends in front of that place. -/
theorem narrow_eq {later : ℕ → Bool} {base size last : ℕ} (hlow : base ≤ last)
    (hhigh : last < base + size)
    (hlater : ∀ place, base ≤ place → place < base + size → (later place ↔ last < place)) :
    narrow later base size = last := by
  fun_induction narrow later base size with
  | case1 base size hone => omega
  | case2 base size hmore half ih =>
      have hmiddle := hlater (base + half) (by omega) (by omega)
      cases hcase : later (base + half) with
      | true =>
          rw [hcase] at hmiddle
          have hlast : last < base + half := hmiddle.mp rfl
          simp only [hcase, dite_true, if_true] at ih ⊢
          exact ih hlow (by omega) fun place hplace hlt => hlater place hplace (by omega)
      | false =>
          rw [hcase] at hmiddle
          have hlast : base + half ≤ last := by simpa using hmiddle
          simp only [hcase, Bool.false_eq_true, dite_false, if_false] at ih ⊢
          exact ih hlast (by omega) fun place hplace hlt => hlater place (by omega) (by omega)

namespace LineIndex

/-! ## Line feeds among bytes -/

/-- The number of line feeds in front of an offset. -/
def feedsBefore (source : String) (offset : ℕ) : ℕ :=
  ((Utf8.encode source).take offset).count lineFeed

theorem count_flatMap_encodeChar (text : List Char) :
    (text.flatMap String.utf8EncodeChar).count lineFeed = text.count '\n' :=
  Utf8.count_flatMap_encodeChar (by decide) rfl text

theorem length_flatMap_encodeChar (text : List Char) :
    (text.flatMap String.utf8EncodeChar).length = Slice.size text := by
  induction text with
  | nil => rfl
  | cons c text ih => simp [ih, String.length_utf8EncodeChar]

theorem length_encode (source : String) : (Utf8.encode source).length = source.utf8ByteSize := by
  rw [Utf8.encode, length_flatMap_encodeChar, Slice.size_toList]

/-- In front of the end of a prefix lie the line feeds of the prefix. -/
theorem feedsBefore_of_isPrefix {source : String} {front : List Char}
    (hfront : front <+: source.toList) :
    feedsBefore source (Slice.size front) = front.count '\n' := by
  obtain ⟨back, hback⟩ := hfront
  rw [feedsBefore, Utf8.encode, ← hback, List.flatMap_append, ← length_flatMap_encodeChar,
    List.take_left, count_flatMap_encodeChar]

/-! ## The table -/

variable {source : String} {bytes : Bytes} {place line : ℕ} {start : UInt32}

theorem length_startsBehind (place : ℕ) (bytes : Bytes) :
    (startsBehind place bytes).length = bytes.count lineFeed := by
  induction bytes generalizing place with
  | nil => rfl
  | cons byte bytes ih =>
      rw [startsBehind]
      split_ifs with hfeed
      · rw [hfeed, List.count_cons_self, List.length_cons, ih]
      · rw [List.count_cons_of_ne hfeed, ih]

theorem toNat_ofNat_succ {place length : ℕ} (hsize : place + (length + 1) < 2 ^ 32) :
    (UInt32.ofNat (place + 1)).toNat = place + 1 :=
  UInt32.toNat_ofNat_of_lt' (show place + 1 < 2 ^ 32 by omega)

theorem lt_of_mem_startsBehind (hsize : place + bytes.length < 2 ^ 32)
    (hstart : start ∈ startsBehind place bytes) : place < start.toNat := by
  induction bytes generalizing place with
  | nil => cases hstart
  | cons byte bytes ih =>
      rw [List.length_cons] at hsize
      have hlater : start ∈ startsBehind (place + 1) bytes → place < start.toNat := fun hmem =>
        Nat.lt_of_succ_lt (ih (by omega) hmem)
      rw [startsBehind] at hstart
      split_ifs at hstart with hfeed
      · rcases List.mem_cons.mp hstart with rfl | hmem
        · rw [toNat_ofNat_succ hsize]
          exact Nat.lt_succ_self place
        · exact hlater hmem
      · exact hlater hstart

/-- A start comes no later than an offset when the line feed in front of it comes before. -/
theorem startsBehind_le_iff (hsize : place + bytes.length < 2 ^ 32)
    (hstart : (startsBehind place bytes)[line]? = some start) (k : ℕ) :
    start.toNat ≤ place + k ↔ line < (bytes.take k).count lineFeed := by
  induction bytes generalizing place line k with
  | nil => cases hstart
  | cons byte bytes ih =>
      cases k with
      | zero =>
          have := lt_of_mem_startsBehind hsize (List.mem_of_getElem? hstart)
          simpa using this
      | succ k =>
          rw [List.length_cons] at hsize
          rw [startsBehind] at hstart
          rw [List.take_succ_cons]
          split_ifs at hstart with hfeed
          · rw [hfeed, List.count_cons_self]
            cases line with
            | zero =>
                obtain rfl := Option.some.inj hstart
                rw [toNat_ofNat_succ hsize]
                omega
            | succ line =>
                have := ih (by omega) hstart k
                omega
          · rw [List.count_cons_of_ne hfeed]
            have := ih (by omega) hstart k
            omega

/-- The start of a line comes no later than an offset when the line feeds of all lines above it
come before the offset. -/
theorem starts_le_iff (hsize : source.utf8ByteSize < 2 ^ 32)
    (hstart : (ofSource source).starts[line]? = some start) (offset : ℕ) :
    start.toNat ≤ offset ↔ line ≤ feedsBefore source offset := by
  rw [ofSource, List.getElem?_toArray] at hstart
  cases line with
  | zero =>
      obtain rfl := Option.some.inj hstart
      simp
  | succ line =>
      have hbytes : 0 + (Utf8.encode source).length < 2 ^ 32 := by
        rwa [Nat.zero_add, length_encode]
      have hiff := startsBehind_le_iff hbytes hstart offset
      rwa [Nat.zero_add] at hiff

theorem size_starts (source : String) :
    (ofSource source).starts.size = (Utf8.encode source).count lineFeed + 1 := by
  simp [ofSource, length_startsBehind]

theorem feedsBefore_lt_size (source : String) (offset : ℕ) :
    feedsBefore source offset < (ofSource source).starts.size := by
  have hle := (List.take_sublist offset (Utf8.encode source)).count_le lineFeed
  rw [size_starts, feedsBefore]
  omega

/-- The line of an offset is the number of line feeds in front of it. -/
theorem line_ofSource (hsize : source.utf8ByteSize < 2 ^ 32) (offset : UInt32) :
    (ofSource source).line offset = feedsBefore source offset.toNat := by
  have hlast := feedsBefore_lt_size source offset.toNat
  have hplace : narrow (fun place => (ofSource source).starts[place]?.any (offset < ·)) 0
      (ofSource source).starts.size = feedsBefore source offset.toNat := by
    refine narrow_eq (Nat.zero_le _) (by omega) fun place _ hplace => ?_
    have hplace := Array.getElem?_eq_getElem (show place < (ofSource source).starts.size by omega)
    have hstart := starts_le_iff hsize hplace offset.toNat
    rw [hplace, Option.any_some, decide_eq_true_iff, UInt32.lt_iff_toNat_lt]
    omega
  have hfound := Array.getElem?_eq_getElem hlast
  have hstart := (starts_le_iff hsize hfound offset.toNat).mpr le_rfl
  rw [LineIndex.line, search, hplace, hfound]
  -- the start that is found is the offset itself or comes before it
  by_cases heq : (ofSource source).starts[feedsBefore source offset.toNat] = offset
  · simp [heq]
  · have hlt : (ofSource source).starts[feedsBefore source offset.toNat] < offset := by
      rw [UInt32.lt_iff_toNat_lt]
      exact lt_of_le_of_ne hstart fun h => heq (UInt32.toNat_inj.mp h)
    simp [heq, hlt]

/-! ## The last line of a text -/

/-- What stands behind the last line feed of a text, or all of it when there is none. -/
def lastLine (text : List Char) : List Char :=
  text.rtakeWhile (· ≠ '\n')

/-- Whether a text is empty or ends in a line feed. -/
def EndsLine (text : List Char) : Prop :=
  text = [] ∨ ∃ front, text = front ++ ['\n']

theorem lastLine_concat_feed (text : List Char) : lastLine (text ++ ['\n']) = [] := by
  simp [lastLine]

theorem lastLine_concat {c : Char} (hc : c ≠ '\n') (text : List Char) :
    lastLine (text ++ [c]) = lastLine text ++ [c] := by
  simp [lastLine, hc]

theorem exists_append_lastLine (text : List Char) :
    ∃ above, text = above ++ lastLine text ∧ EndsLine above ∧
      text.count '\n' = above.count '\n' := by
  induction text using List.reverseRecOn with
  | nil => exact ⟨[], rfl, Or.inl rfl, rfl⟩
  | append_singleton text c ih =>
      by_cases hc : c = '\n'
      · subst hc
        rw [lastLine_concat_feed]
        exact ⟨text ++ ['\n'], by simp, Or.inr ⟨text, rfl⟩, rfl⟩
      · obtain ⟨above, htext, hends, hcount⟩ := ih
        rw [lastLine_concat hc]
        refine ⟨above, ?_, hends, ?_⟩
        · rw [← List.append_assoc, ← htext]
        · rw [List.count_append, hcount, List.count_singleton, if_neg (by simpa using hc),
            Nat.add_zero]

theorem length_le_size (text : List Char) : text.length ≤ Slice.size text := by
  induction text with
  | nil => rfl
  | cons c text ih =>
      have := c.utf8Size_pos
      rw [List.length_cons, Slice.size_cons]
      omega

theorem length_le_utf8ByteSize {front : List Char} (hfront : front <+: source.toList) :
    front.length ≤ source.utf8ByteSize :=
  calc front.length ≤ source.toList.length := hfront.length_le
    _ ≤ Slice.size source.toList := length_le_size _
    _ = source.utf8ByteSize := Slice.size_toList source

/-! ## Positions -/

theorem feedsBefore_mono (source : String) {offset offset' : ℕ} (hle : offset ≤ offset') :
    feedsBefore source offset ≤ feedsBefore source offset' :=
  (List.take_prefix_take_left hle).sublist.count_le _

theorem feedsBefore_min (source : String) (offset : ℕ) :
    feedsBefore source (min offset source.utf8ByteSize) = feedsBefore source offset := by
  rw [feedsBefore, feedsBefore, ← length_encode, ← List.take_eq_take_min]

/-- A line starts behind the line feeds of all lines above it. -/
theorem toNat_start {above : List Char} (hsize : source.utf8ByteSize < 2 ^ 32)
    (habove : above <+: source.toList) (hends : EndsLine above)
    (hstart : (ofSource source).starts[above.count '\n']? = some start) :
    start.toNat = Slice.size above := by
  have hiff := starts_le_iff hsize hstart
  have hle : start.toNat ≤ Slice.size above := by
    rw [hiff, feedsBefore_of_isPrefix habove]
  rcases hends with rfl | ⟨front, rfl⟩
  · exact Nat.le_zero.mp hle
  · have hlt : ¬ start.toNat ≤ Slice.size front := by
      have hfront : front <+: source.toList := (List.prefix_append front ['\n']).trans habove
      rw [hiff, feedsBefore_of_isPrefix hfront, List.count_append]
      simp
    have hfeed : Slice.size (front ++ ['\n']) = Slice.size front + 1 := by
      rw [Slice.size_append]
      rfl
    omega

theorem toNat_ofNat_add_one {n : ℕ} (hn : n < 2 ^ 32 - 1) :
    (UInt32.ofNat n + 1).toNat = n + 1 := by
  rw [UInt32.toNat_add, UInt32.toNat_ofNat_of_lt' (show n < 2 ^ 32 by omega)]
  exact Nat.mod_eq_of_lt (show n + 1 < 2 ^ 32 by omega)

/-- A position is the number of line feeds in front of the offset, and what can be cut out of the
source behind the last of them. -/
theorem position_eq (hsize : source.utf8ByteSize < 2 ^ 32 - 1) {offset : UInt32}
    {above : List Char} (habove : above <+: source.toList) (hends : EndsLine above)
    (hcount : feedsBefore source offset.toNat = above.count '\n') :
    (ofSource source).position source offset =
      ⟨above.count '\n' + 1, (UInt32.ofNat (columnsBetween source (Slice.size above)
        (min offset.toNat source.utf8ByteSize)) + 1).toNat⟩ := by
  have hline := line_ofSource (show source.utf8ByteSize < 2 ^ 32 by omega) offset
  rw [hcount] at hline
  have hfound : (ofSource source).starts[(ofSource source).line offset]? =
      some ((ofSource source).start offset) :=
    Array.getElem?_eq_getElem ((ofSource source).line_lt offset)
  rw [hline] at hfound
  have hstart := toNat_start (by omega) habove hends hfound
  have hfeeds : above.count '\n' ≤ source.utf8ByteSize :=
    List.count_le_length.trans (length_le_utf8ByteSize habove)
  rw [position, hstart, hline, toNat_ofNat_add_one (by omega)]

/-- Where a character begins, or at the end, the column counts the characters of the last line in
front. -/
theorem position_of_isPrefix (hsize : source.utf8ByteSize < 2 ^ 32 - 1) {offset : UInt32}
    {front : List Char} (hfront : front <+: source.toList)
    (hstop : Slice.size front = min offset.toNat source.utf8ByteSize) :
    (ofSource source).position source offset =
      ⟨front.count '\n' + 1, (lastLine front).length + 1⟩ := by
  obtain ⟨above, happend, hends, hcount⟩ := exists_append_lastLine front
  have habove : above <+: front := ⟨lastLine front, happend.symm⟩
  have hfeeds : feedsBefore source offset.toNat = above.count '\n' := by
    rw [← feedsBefore_min, ← hstop, feedsBefore_of_isPrefix hfront, hcount]
  have hcolumns : columnsBetween source (Slice.size above) (Slice.size front) =
      (lastLine front).length := by
    obtain ⟨back, hback⟩ := hfront
    have hcut := Slice.between_eq_ok above (lastLine front) back
    rw [← happend] at hcut
    rw [columnsBetween, ← hback, hcut]
  have hlength : (lastLine front).length ≤ source.utf8ByteSize :=
    (List.rtakeWhile_suffix _ front).length_le.trans (length_le_utf8ByteSize hfront)
  rw [position_eq hsize (habove.trans hfront) hends hfeeds, ← hstop, hcolumns, hcount,
    toNat_ofNat_add_one (by omega)]

/-- A line feed has no inside, so none is passed between the two ends of a character. -/
theorem feedsBefore_of_inside {front back : List Char} {c : Char} {offset : ℕ}
    (hsource : source.toList = front ++ c :: back) (hlow : Slice.size front < offset)
    (hhigh : offset < Slice.size front + c.utf8Size) :
    feedsBefore source offset = front.count '\n' := by
  have hfront : front <+: source.toList := ⟨c :: back, hsource.symm⟩
  have hnext : front ++ [c] <+: source.toList := ⟨back, by simp [hsource]⟩
  have hc : c ≠ '\n' := by
    rintro rfl
    have hone : '\n'.utf8Size = 1 := rfl
    omega
  refine le_antisymm ?_ ?_
  · calc feedsBefore source offset
        ≤ feedsBefore source (Slice.size (front ++ [c])) := by
          refine feedsBefore_mono source ?_
          rw [Slice.size_append, Slice.size_cons]
          omega
      _ = front.count '\n' := by
          rw [feedsBefore_of_isPrefix hnext, List.count_append, List.count_singleton,
            if_neg (by simpa using hc), Nat.add_zero]
  · rw [← feedsBefore_of_isPrefix hfront]
    exact feedsBefore_mono source hlow.le

/-- Inside a character there is no column. -/
theorem position_of_inside (hsize : source.utf8ByteSize < 2 ^ 32 - 1) {offset : UInt32}
    {front back : List Char} {c : Char} (hsource : source.toList = front ++ c :: back)
    (hlow : Slice.size front < offset.toNat)
    (hhigh : offset.toNat < Slice.size front + c.utf8Size) :
    (ofSource source).position source offset = ⟨front.count '\n' + 1, 1⟩ := by
  have hfront : front <+: source.toList := ⟨c :: back, hsource.symm⟩
  have hlt : offset.toNat < source.utf8ByteSize := by
    rw [← Slice.size_toList, hsource, Slice.size_append, Slice.size_cons]
    omega
  have hfeeds := feedsBefore_of_inside hsource hlow hhigh
  obtain ⟨above, happend, hends, hcount⟩ := exists_append_lastLine front
  have habove : above <+: front := ⟨lastLine front, happend.symm⟩
  have hcolumns : columnsBetween source (Slice.size above) offset.toNat = 0 := by
    obtain ⟨e, hcut⟩ := Slice.between_of_inside front back (Slice.size above) hlow hhigh
    rw [columnsBetween, hsource, hcut]
  rw [position_eq hsize (habove.trans hfront) hends (hfeeds.trans hcount), Nat.min_eq_left hlt.le,
    hcolumns, hcount]
  rfl

end LineIndex

end ModuleDiscovery
