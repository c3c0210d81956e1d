import ModuleDiscovery.Proofs.Path.Clean

/-!
# What shows a path

A path is shown segment by segment.  What shows a segment is like its spelling in all that
matters to a path: it is not empty, it has no slash in it, and only `..` is shown as `..`.
So the text that shows a path spells a path again, segment by segment
(`Segment.encode_toChars`).  It spells the path that it shows exactly if that is text.

## Main results

* `Segment.encode_toChars`: what shows segments, spelled.
* `Path.isText_iff`: a path is text exactly if its segments are.
* `Path.slashed_eq_iff`: paths that are text are shown alike only if they are the same.
-/

namespace ModuleDiscovery

/-! ## Slashes in texts -/

theorem slash_mem_flatMap_encodeChar_iff {text : List Char} :
    Segment.slash ∈ text.flatMap String.utf8EncodeChar ↔ '/' ∈ text := by
  have hascii : '/'.toNat = Segment.slash.toNat := rfl
  rw [← List.count_pos_iff, Utf8.count_flatMap_encodeChar (by decide) hascii, List.count_pos_iff]

theorem flatMap_encodeChar_intercalate (parts : List (List Char)) :
    (['/'].intercalate parts).flatMap String.utf8EncodeChar =
      [Segment.slash].intercalate (parts.map (·.flatMap String.utf8EncodeChar)) := by
  induction parts with
  | nil => rfl
  | cons part parts ih =>
      rcases eq_or_ne parts [] with rfl | hne
      · simp
      · have hslash : String.utf8EncodeChar '/' = [Segment.slash] := by decide
        rw [intercalate_cons hne, List.flatMap_append, List.flatMap_cons, ih, hslash,
          List.map_cons, intercalate_cons (by simpa using hne)]
        rfl

/-- The bytes of a text are split where the text is. -/
theorem splitOn_flatMap_encodeChar (text : List Char) :
    (text.flatMap String.utf8EncodeChar).splitOn Segment.slash =
      (text.splitOn '/').map (·.flatMap String.utf8EncodeChar) := by
  have hjoin : ['/'].intercalate (text.splitOn '/') = text := List.intercalate_splitOn '/'
  conv_lhs => rw [← hjoin, flatMap_encodeChar_intercalate]
  refine List.splitOn_intercalate _ (fun part hpart => ?_)
    (by simp [List.splitOn_ne_nil '/' text])
  obtain ⟨chars, hchars, rfl⟩ := List.mem_map.mp hpart
  rw [slash_mem_flatMap_encodeChar_iff]
  exact not_mem_of_mem_splitOn hchars

/-- Bytes are text exactly if what lies between their slashes is. -/
theorem isSome_decode?_iff (bytes : Bytes) : (Utf8.decode? bytes).isSome ↔
    ∀ part ∈ bytes.splitOn Segment.slash, (Utf8.decode? part).isSome := by
  simp only [← Utf8.encode_decodeLossy_iff]
  constructor
  · intro hbytes part hpart
    rw [← hbytes, Utf8.encode, splitOn_flatMap_encodeChar] at hpart
    obtain ⟨chars, -, rfl⟩ := List.mem_map.mp hpart
    have hchars : chars.flatMap String.utf8EncodeChar = Utf8.encode (String.ofList chars) := by
      rw [Utf8.encode, String.toList_ofList]
    rw [hchars, Utf8.decodeLossy_encode]
  · intro hparts
    have hjoin : [Segment.slash].intercalate (bytes.splitOn Segment.slash) = bytes :=
      List.intercalate_splitOn Segment.slash
    have htext : bytes = Utf8.encode (String.ofList (['/'].intercalate
        ((bytes.splitOn Segment.slash).map fun part => (Utf8.decodeLossy part).toList))) := by
      have hmap : ((bytes.splitOn Segment.slash).map fun part =>
          (Utf8.decodeLossy part).toList).map (·.flatMap String.utf8EncodeChar) =
            bytes.splitOn Segment.slash := by
        rw [List.map_map]
        refine (List.map_congr_left fun part hpart => ?_).trans (List.map_id' _)
        simpa only [Function.comp_apply, Utf8.encode] using hparts part hpart
      rw [Utf8.encode, String.toList_ofList, flatMap_encodeChar_intercalate, hmap, hjoin]
    rw [htext, Utf8.decodeLossy_encode]

namespace Segment

/-! ## Single segments -/

/-- Whether a segment is text. -/
def isText (segment : Segment) : Bool :=
  (Utf8.decode? segment.toPart).isSome

/-- The segment that is spelled the way the given one is shown. -/
def legible : Segment → Segment
  | name bytes => name (Utf8.encode (Utf8.decodeLossy bytes))
  | segment => segment

variable {segment : Segment} {segments : List Segment}

@[simp] theorem toPart_legible (segment : Segment) :
    segment.legible.toPart = segment.shown.flatMap String.utf8EncodeChar := by
  cases segment with
  | name bytes => rw [legible, toPart, Utf8.encode, shown, toPart]
  | root | here | up => decide

theorem shown_legible (segment : Segment) : segment.legible.shown = segment.shown := by
  have hpart : segment.legible.toPart = Utf8.encode (Utf8.decodeLossy segment.toPart) :=
    toPart_legible segment
  rw [shown, hpart, Utf8.decodeLossy_encode, shown]

/-- A segment is spelled the way it is shown exactly if it is text. -/
theorem legible_eq_self_iff : segment.legible = segment ↔ segment.isText := by
  cases segment with
  | name bytes => rw [legible, name.injEq, Utf8.encode_decodeLossy_iff]; rfl
  | root | here | up => decide

/-- A segment that shows nothing malformed is text. -/
theorem isText_of_not_mem (hmarks : '\uFFFD' ∉ segment.shown) : segment.isText :=
  Utf8.encode_decodeLossy_iff.mp (Utf8.encode_decodeLossy_of_not_mem hmarks)

theorem slash_not_mem_shown (hinner : segment.IsInner) : '/' ∉ segment.shown := by
  intro hmem
  have hwithin : String.utf8EncodeChar '/' <:+: segment.toPart :=
    Utf8.infix_of_mem_decodeLossy (by decide) hmem
  have hslash : slash ∈ String.utf8EncodeChar '/' := by decide
  exact slash_not_mem_toPart hinner (hwithin.subset hslash)

/-- Only the segment that a text without U+FFFD spells is shown as that text. -/
theorem shown_eq_iff {text : List Char} (hmarks : '\uFFFD' ∉ text) :
    segment.shown = text ↔ segment.toPart = text.flatMap String.utf8EncodeChar := by
  have hchars : (String.ofList text).toList = text := String.toList_ofList
  rw [shown, ← hchars, String.toList_inj, Utf8.decodeLossy_eq_iff (by rwa [hchars]), Utf8.encode,
    eq_comm]

theorem shown_ne_nil (hinner : segment.IsInner) : segment.shown ≠ [] := by
  rw [ne_eq, shown_eq_iff (by simp)]
  exact toPart_ne_nil hinner

theorem isName_legible (hname : segment.IsName) : segment.legible.IsName := by
  obtain ⟨bytes, rfl⟩ := hname.exists_eq
  have hpart : Utf8.encode (Utf8.decodeLossy bytes) = (name bytes).legible.toPart := by
    rw [legible, toPart]
  -- what is refused to names is text, so only its own bytes are shown as it
  have hkept : ∀ (text : List Char) (part : Bytes), '\uFFFD' ∉ text →
      text.flatMap String.utf8EncodeChar = part → bytes ≠ part →
      Utf8.encode (Utf8.decodeLossy bytes) ≠ part := by
    rintro text part hmarks rfl hne
    rw [hpart, ne_eq, ← shown_eq_iff hmarks, shown_legible, shown_eq_iff hmarks]
    exact hne
  have hslash : slash ∉ Utf8.encode (Utf8.decodeLossy bytes) := by
    rw [hpart, toPart_legible, slash_mem_flatMap_encodeChar_iff]
    exact slash_not_mem_shown hname.isInner
  have hempty := hkept [] [] (by simp) rfl hname.1
  have hhere := hkept ['.'] [dot] (by decide) (by decide) hname.2.1
  have hup := hkept ['.', '.'] [dot, dot] (by decide) (by decide) hname.2.2.1
  exact ⟨hempty, hhere, hup, hslash⟩

theorem isInner_legible (hinner : segment.IsInner) : segment.legible.IsInner := by
  rcases hinner with rfl | hname
  · exact Or.inl rfl
  · exact (isName_legible hname).isInner

/-! ## Segments one after the other -/

/-- What shows segments spells the segments that are spelled the way they are shown. -/
theorem encode_toChars (segments : List Segment) :
    Utf8.encode (String.ofList (toChars segments)) = toBytes (segments.map legible) := by
  have hjoin : ∀ segments : List Segment,
      (['/'].intercalate (segments.map shown)).flatMap String.utf8EncodeChar =
        [slash].intercalate ((segments.map legible).map toPart) := by
    intro segments
    rw [flatMap_encodeChar_intercalate, List.map_map, List.map_map]
    refine congrArg _ (List.map_congr_left fun s _ => ?_)
    rw [Function.comp_apply, Function.comp_apply, toPart_legible]
  rw [Utf8.encode, String.toList_ofList, toChars, toBytes]
  cases segments with
  | nil => rfl
  | cons segment rest =>
      cases segment with
      | root =>
          have hslash : String.utf8EncodeChar '/' = [slash] := by decide
          rw [spell, List.flatMap_cons, hslash, hjoin]
          rfl
      | here | up | name => exact hjoin _

theorem shown_subset_toChars (hsegment : segment ∈ segments) :
    segment.shown ⊆ toChars segments := by
  cases segments with
  | nil => cases hsegment
  | cons first rest =>
      cases first with
      | root =>
          rcases List.mem_cons.mp hsegment with rfl | hsegment
          · exact List.nil_subset _
          · have hrest : segment.shown ⊆ ['/'].intercalate (rest.map shown) :=
              subset_intercalate (List.mem_map_of_mem hsegment)
            exact List.Subset.trans hrest (List.subset_cons_self _ _)
      | here | up | name => exact subset_intercalate (List.mem_map_of_mem hsegment)

theorem toChars_ne_nil (hne : segments ≠ []) (hinner : ∀ s ∈ segments, s.IsInner) :
    toChars segments ≠ [] := by
  match segments with
  | [] => exact absurd rfl hne
  | [segment] =>
      have hsegment := hinner segment List.mem_cons_self
      rw [toChars, spell_singleton hsegment]
      exact shown_ne_nil hsegment
  | segment :: next :: rest =>
      rw [toChars, spell_cons_cons hinner]
      simp

/-- There is a slash between each two segments. -/
theorem count_slash_toChars (hne : segments ≠ []) (hinner : ∀ s ∈ segments, s.IsInner) :
    (toChars segments).count '/' + 1 = segments.length := by
  induction segments with
  | nil => exact absurd rfl hne
  | cons segment rest ih =>
      have hsegment := hinner segment List.mem_cons_self
      have hslash : segment.shown.count '/' = 0 :=
        List.count_eq_zero.mpr (slash_not_mem_shown hsegment)
      cases rest with
      | nil => rw [toChars, spell_singleton hsegment, hslash]; rfl
      | cons next others =>
          have hrest := ih (by simp) (List.forall_mem_cons.mp hinner).2
          rw [toChars, spell_cons_cons hinner, List.count_append, hslash, List.count_cons_self]
          rw [toChars] at hrest
          simpa using hrest

/-- What stands between slashes shows the segments, a leading slash apart. -/
theorem mem_splitOn_toChars (hwell : WellFormed segments) {part : List Char} (hpart : part ≠ []) :
    part ∈ (toChars segments).splitOn '/' ↔ ∃ s ∈ segments, s.shown = part := by
  have hjoin : ∀ segments : List Segment, (∀ s ∈ segments, '/' ∉ s.shown) →
      (part ∈ (['/'].intercalate (segments.map shown)).splitOn '/' ↔
        ∃ s ∈ segments, s.shown = part) := by
    intro segments hslash
    rcases eq_or_ne segments [] with rfl | hne
    · simp [List.splitOn_nil, hpart]
    · rw [splitOn_intercalate_map hne hslash, List.mem_map]
  cases segments with
  | nil => exact hjoin [] (by simp)
  | cons segment rest =>
      have hrest : ∀ s ∈ rest, '/' ∉ s.shown := fun s hs => slash_not_mem_shown (hwell.2 s hs)
      cases segment with
      | root =>
          have hroot : root.shown ≠ part := hpart.symm
          rw [toChars, spell, splitOn_cons_self, List.mem_cons, hjoin rest hrest]
          simp [hpart, hroot]
      | here => exact hjoin _ (List.forall_mem_cons.mpr ⟨by decide, hrest⟩)
      | up | name =>
          refine hjoin _ (List.forall_mem_cons.mpr ⟨slash_not_mem_shown ?_, hrest⟩)
          simpa using hwell.1

/-- What holds of the spelling of every segment holds of whatever lies between two slashes. -/
theorem forall_mem_ofBytes_iff {P : Bytes → Prop} (hempty : P []) (hdot : P [dot])
    {bytes : Bytes} :
    (∀ s ∈ ofBytes bytes, P s.toPart) ↔ ∀ part ∈ bytes.splitOn slash, P part := by
  have hone : ∀ part, (∀ s, ofPart? part = some s → P s.toPart) ↔ P part := by
    intro part
    rw [ofPart?]
    split_ifs with hnone hup
    · rcases hnone with rfl | rfl <;> simp [hempty, hdot]
    · simp [hup, toPart]
    · simp [toPart]
  obtain ⟨part, parts, hsplit⟩ := List.exists_cons_of_ne_nil (List.splitOn_ne_nil slash bytes)
  have hrest : (∀ s ∈ parts.filterMap ofPart?, P s.toPart) ↔ ∀ part ∈ parts, P part := by
    simp only [List.mem_filterMap]
    constructor
    · intro h part hpart
      exact (hone part).mp fun s hs => h s ⟨part, hpart, hs⟩
    · rintro h s ⟨part, hpart, hs⟩
      exact (hone part).mpr (h part hpart) s hs
  simp only [ofBytes, hsplit, List.mem_append, List.forall_mem_cons, or_imp, forall_and, hrest]
  refine and_congr_left fun _ => ?_
  split_ifs with hpart hparts hpart <;> simp_all [toPart]

end Segment

namespace Path

variable {p q : Path}

/-! ## Whole paths -/

theorem toList_slashed (p : Path) : p.slashed.toList = Segment.toChars p.segments :=
  String.toList_ofList

/-- A path that is text is spelled the way it is shown. -/
theorem ofText_text (htext : p.isText) : ofText p.text = p := by
  rw [ofText, text, Utf8.encode_decodeLossy_iff.mpr htext]

@[simp] theorem isText_ofText (text : String) : (ofText text).isText := by
  rw [isText, text?, ofText, Utf8.decode?_encode]
  rfl

@[simp] theorem text_ofText (text : String) : (ofText text).text = text :=
  Utf8.decodeLossy_encode text

theorem text_of_isAbsolute (habs : p.isAbsolute) : ∃ rest, p.text.toList = '/' :: rest := by
  obtain ⟨rest, hbytes⟩ := bytes_of_isAbsolute habs
  have hslash : Segment.slash :: rest = String.utf8EncodeChar '/' ++ rest := by
    rw [show String.utf8EncodeChar '/' = [Segment.slash] by decide, List.singleton_append]
  rw [text, Utf8.decodeLossy, hbytes, hslash, Utf8.scan_encodeChar, String.toList_ofList]
  exact ⟨_, rfl⟩

/-- The text that shows a path spells the path that is spelled the way it is shown. -/
theorem ofText_slashed (p : Path) :
    ofText p.slashed = ofSegments (p.segments.map Segment.legible) := by
  rw [ofText, slashed, Segment.encode_toChars, ofSegments]

/-- A path is text exactly if its segments are. -/
theorem isText_iff : p.isText ↔ ∀ s ∈ p.segments, s.isText := by
  have hparts : (∀ s ∈ p.segments, s.isText) ↔
      ∀ part ∈ p.bytes.splitOn Segment.slash, (Utf8.decode? part).isSome :=
    Segment.forall_mem_ofBytes_iff (P := fun part => (Utf8.decode? part).isSome) rfl rfl
  rw [isText, text?, isSome_decode?_iff, hparts]

/-- Paths that are text are shown alike only if they are the same. -/
theorem slashed_eq_iff (hp : p.isText) (hq : q.isText) : p.slashed = q.slashed ↔ p.Same q := by
  have hkept : ∀ {r : Path}, r.isText → ofText r.slashed = ofSegments r.segments := by
    intro r hr
    rw [ofText_slashed, List.map_congr_left fun s hs =>
      Segment.legible_eq_self_iff.mpr (isText_iff.mp hr s hs), List.map_id']
  constructor
  · intro hslashed
    have hsegments : ofSegments p.segments = ofSegments q.segments := by
      rw [← hkept hp, ← hkept hq, hslashed]
    rw [Same, ← segments_ofSegments p.wellFormed_segments, hsegments,
      segments_ofSegments q.wellFormed_segments]
  · intro hsame
    rw [slashed, slashed, show p.segments = q.segments from hsame]

end Path

end ModuleDiscovery
