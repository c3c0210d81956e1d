import ModuleDiscovery.Proofs.Path.Shown
import ModuleDiscovery.Proofs.ScriptId
import ModuleDiscovery.SourceUrl

/-!
# Locators spell the path

The locator of a file has the segments of its path as they are, encoded one by one.  Nothing
in a path looks like a `..` once it is encoded, and a `..` looks like itself
(`encodeSegment_eq_dots_iff`).  So a path and its clean path have one locator exactly when
there is no `..` in the path (`locator_clean_iff`); slashes and single dots leave no trace.
-/

namespace ModuleDiscovery

namespace SourceUrl

variable {segment : List Char} {p : Path} {c : Char}

/-! ## Encoded segments -/

theorem slash_not_mem_encodeChar (c : Char) : '/' ∉ encodeChar c := by
  have hdigit : ∀ n < 16, '/' ≠ Hex.upperDigit n := by decide
  intro hslash
  unfold encodeChar at hslash
  split_ifs at hslash with hunreserved
  · obtain rfl := List.mem_singleton.mp hslash
    exact absurd hunreserved (by decide)
  · obtain ⟨byte, -, hbyte⟩ := List.mem_flatMap.mp hslash
    have hlt : byte.toNat < 256 := byte.toNat_lt
    simp only [escapeByte, List.mem_cons, List.not_mem_nil, or_false] at hbyte
    rcases hbyte with h | h | h
    · exact absurd h (by decide)
    · exact hdigit _ (by omega) h
    · exact hdigit _ (by omega) h

theorem slash_not_mem_encodeSegment (hsegment : '/' ∉ segment) : '/' ∉ encodeSegment segment := by
  unfold encodeSegment
  split_ifs
  · exact hsegment
  · intro hslash
    obtain ⟨c, -, hc⟩ := List.mem_flatMap.mp hslash
    exact slash_not_mem_encodeChar c hc

theorem utf8EncodeChar_ne_nil (c : Char) : String.utf8EncodeChar c ≠ [] := by
  simp only [String.utf8EncodeChar]
  split_ifs <;> simp

/-- What is not written as it is has a percent sign. -/
theorem encodeChar_eq_or_percent_mem (c : Char) : encodeChar c = [c] ∨ '%' ∈ encodeChar c := by
  unfold encodeChar
  split_ifs
  · exact Or.inl rfl
  · obtain ⟨byte, bytes, hbytes⟩ := List.exists_cons_of_ne_nil (utf8EncodeChar_ne_nil c)
    right
    simp [hbytes, escapeByte]

theorem encodeSegment_eq_self (hplain : '%' ∉ encodeSegment segment) :
    encodeSegment segment = segment := by
  unfold encodeSegment at hplain ⊢
  split_ifs at hplain ⊢
  · rfl
  · have hsingle : ∀ c ∈ segment, encodeChar c = [c] := fun c hc =>
      (encodeChar_eq_or_percent_mem c).resolve_right fun hpercent =>
        hplain (List.mem_flatMap.mpr ⟨c, hc, hpercent⟩)
    rw [List.flatMap_congr hsingle, List.flatMap_singleton']

/-- Nothing else looks like a `..`. -/
theorem encodeSegment_eq_dots_iff : encodeSegment segment = ['.', '.'] ↔ segment = ['.', '.'] := by
  constructor
  · intro hdots
    have hplain : '%' ∉ encodeSegment segment := by simp [hdots]
    rw [← encodeSegment_eq_self hplain, hdots]
  · rintro rfl
    decide

/-! ## Encoded paths -/

theorem splitOn_encodePath (p : Path) :
    (encodePath p).splitOn '/' = (p.slashed.toList.splitOn '/').map encodeSegment := by
  refine List.splitOn_intercalate '/' (fun part hpart => ?_) (by simp [List.splitOn_ne_nil])
  obtain ⟨segment, hsegment, rfl⟩ := List.mem_map.mp hpart
  exact slash_not_mem_encodeSegment (not_mem_of_mem_splitOn hsegment)

theorem dots_mem_splitOn_encodePath_iff :
    ['.', '.'] ∈ (encodePath p).splitOn '/' ↔ .up ∈ p.segments := by
  have hwell := p.wellFormed_segments
  have hdots : ∀ s ∈ p.segments, s.shown = ['.', '.'] ↔ s = .up := fun s hs =>
    (Segment.shown_eq_iff (by decide)).trans (hwell.toPart_eq_dots_iff hs)
  simp only [splitOn_encodePath, List.mem_map, encodeSegment_eq_dots_iff, exists_eq_right]
  rw [Path.toList_slashed, Segment.mem_splitOn_toChars hwell (by simp)]
  constructor
  · rintro ⟨segment, hsegment, hpart⟩
    rwa [← (hdots segment hsegment).mp hpart]
  · intro hup
    exact ⟨.up, hup, by decide⟩

theorem head?_encodePath (habs : p.isAbsolute) : (encodePath p).head? = some '/' := by
  obtain ⟨rest, -, hsegments⟩ := Path.segments_of_isAbsolute habs
  obtain ⟨part, parts, hsplit⟩ := List.exists_cons_of_ne_nil
    (List.splitOn_ne_nil '/' (['/'].intercalate (rest.map Segment.shown)))
  rw [encodePath, Path.toList_slashed, hsegments, Segment.toChars, Segment.spell,
    splitOn_cons_self, hsplit]
  rfl

/-! ## Locators -/

theorem locator_of_isAbsolute (habs : p.isAbsolute) :
    locator p = "file://" ++ String.ofList (encodePath p) := by
  simp [locator, Path.not_isScriptId_of_isAbsolute habs, head?_encodePath habs]

theorem locator_eq_iff {q : Path} (hp : p.isAbsolute) (hq : q.isAbsolute) :
    locator p = locator q ↔ encodePath p = encodePath q := by
  rw [locator_of_isAbsolute hp, locator_of_isAbsolute hq, ← String.toList_inj,
    String.toList_append, String.toList_append, List.append_right_inj, String.toList_ofList,
    String.toList_ofList]

/-- An absolute path is located where its clean path is exactly when it has no `..`. -/
theorem locator_clean_iff (habs : p.isAbsolute) :
    locator p.clean = locator p ↔ .up ∉ p.segments := by
  have hcanonical := Path.canonical_clean habs
  rw [locator_eq_iff hcanonical.absolute habs]
  constructor
  · intro hencoded hup
    rw [← dots_mem_splitOn_encodePath_iff, ← hencoded,
      dots_mem_splitOn_encodePath_iff] at hup
    obtain ⟨names, hnames, hsegments⟩ := hcanonical.segments
    have hname : Segment.up ∈ names := by simpa [hsegments] using hup
    exact hnames .up hname
  · intro hup
    have hslashed : p.clean.slashed = p.slashed := by
      rw [Path.slashed, Path.slashed, Path.segments_clean, Path.clean_segments_of_no_up habs hup]
    rw [encodePath, hslashed, encodePath]

end SourceUrl

end ModuleDiscovery
