import Mathlib.Data.List.Basic
import ModuleDiscovery.Path.Basic
import ModuleDiscovery.Proofs.Text.Utf8

/-!
# Segments and their spelling

The segments of any bytes are well formed: a `/` or a `.` stands in front at most,
and behind it there are only `..` and names that can be spelled between two
slashes.  `ofBytes_toBytes` says that well-formed segments survive being written
down and read again, and `Path.segments_join` says what `Path.join` does to them.

The bytes behind a slash are easier than whole paths, because no segment of theirs
depends on its place; `Segment.inner` reads those.
-/

namespace ModuleDiscovery

/-! ## Splitting at separators -/

section Splitting

variable {α : Type} [DecidableEq α] {separator : α}

theorem splitOn_cons_self (rest : List α) :
    (separator :: rest).splitOn separator = [] :: rest.splitOn separator := by
  rw [List.splitOn_cons_eq_if_modifyHead, if_pos (beq_self_eq_true separator)]

theorem splitOn_cons_of_ne {a : α} (ha : a ≠ separator) (rest : List α) :
    (a :: rest).splitOn separator = (rest.splitOn separator).modifyHead (a :: ·) := by
  rw [List.splitOn_cons_eq_if_modifyHead, if_neg (by simpa using ha)]

theorem not_mem_of_mem_splitOn {list part : List α} (hpart : part ∈ list.splitOn separator) :
    separator ∉ part := by
  induction list generalizing part with
  | nil => simp_all [List.splitOn_nil]
  | cons a list ih =>
      by_cases ha : a = separator
      · rw [ha, splitOn_cons_self, List.mem_cons] at hpart
        rcases hpart with rfl | hpart
        · simp
        · exact ih hpart
      · rw [splitOn_cons_of_ne ha] at hpart
        obtain ⟨first, others, hsplit⟩ :=
          List.exists_cons_of_ne_nil (List.splitOn_ne_nil separator list)
        rw [hsplit, List.modifyHead_cons, List.mem_cons] at hpart
        rcases hpart with rfl | hpart
        · have hfirst : separator ∉ first := ih (by simp [hsplit])
          simp [hfirst, Ne.symm ha]
        · exact ih (by simp [hsplit, hpart])

omit [DecidableEq α] in
theorem intercalate_cons {parts : List (List α)} (hne : parts ≠ []) (part : List α) :
    [separator].intercalate (part :: parts) =
      part ++ separator :: [separator].intercalate parts := by
  rw [List.intercalate_cons_of_ne_nil hne, List.append_assoc, List.singleton_append]

omit [DecidableEq α] in
theorem exists_intercalate_cons (part : List α) (parts : List (List α)) :
    ∃ rest, [separator].intercalate (part :: parts) = part ++ rest := by
  rcases eq_or_ne parts [] with rfl | hne
  · exact ⟨[], by simp⟩
  · exact ⟨_, intercalate_cons hne part⟩

omit [DecidableEq α] in
theorem mem_intercalate {a : α} {parts : List (List α)}
    (ha : a ∈ [separator].intercalate parts) : a = separator ∨ ∃ part ∈ parts, a ∈ part := by
  induction parts with
  | nil => cases ha
  | cons part parts ih =>
      rcases eq_or_ne parts [] with rfl | hne
      · rw [List.intercalate_singleton] at ha
        exact Or.inr ⟨part, by simp, ha⟩
      · rw [intercalate_cons hne, List.mem_append, List.mem_cons] at ha
        rcases ha with hpart | hseparator | hrest
        · exact Or.inr ⟨part, by simp, hpart⟩
        · exact Or.inl hseparator
        · rcases ih hrest with hseparator | ⟨other, hother, ha⟩
          · exact Or.inl hseparator
          · exact Or.inr ⟨other, List.mem_cons_of_mem _ hother, ha⟩

omit [DecidableEq α] in
theorem subset_intercalate {part : List α} {parts : List (List α)} (hpart : part ∈ parts) :
    part ⊆ [separator].intercalate parts := by
  intro a ha
  induction parts with
  | nil => cases hpart
  | cons first parts ih =>
      rcases eq_or_ne parts [] with rfl | hne
      · rw [List.intercalate_singleton, ← List.mem_singleton.mp hpart]
        exact ha
      · rw [intercalate_cons hne, List.mem_append, List.mem_cons]
        rcases List.mem_cons.mp hpart with rfl | hpart
        · exact Or.inl ha
        · exact Or.inr (Or.inr (ih hpart))

end Splitting

namespace Segment

/-! ## Well-formed segments -/

/-- Whether a segment is a name that can be spelled. -/
def IsName : Segment → Prop
  | name bytes =>
    bytes ≠ [] ∧ bytes ≠ [dot] ∧ bytes ≠ [dot, dot] ∧ slash ∉ bytes
  | _ => False

instance : DecidablePred IsName
  | name bytes => inferInstanceAs (Decidable (bytes ≠ [] ∧ _))
  | root | here | up => inferInstanceAs (Decidable False)

/-- Whether a segment can stand behind a slash. -/
def IsInner (segment : Segment) : Prop :=
  segment = up ∨ segment.IsName

/-- Whether there is a path with these segments. -/
def WellFormed : List Segment → Prop
  | [] => True
  | segment :: rest =>
    (segment = root ∨ segment = here ∨ segment.IsInner) ∧ ∀ s ∈ rest, s.IsInner

theorem IsName.exists_eq {segment : Segment} (hname : segment.IsName) :
    ∃ bytes, segment = name bytes := by
  cases segment with
  | name bytes => exact ⟨bytes, rfl⟩
  | root | here | up => exact hname.elim

theorem IsName.isInner {segment : Segment} (hname : segment.IsName) : segment.IsInner :=
  Or.inr hname

theorem IsInner.ne_here {segment : Segment} (hinner : segment.IsInner) : segment ≠ here := by
  rintro rfl
  simp [IsInner, IsName] at hinner

theorem IsInner.ne_root {segment : Segment} (hinner : segment.IsInner) : segment ≠ root := by
  rintro rfl
  simp [IsInner, IsName] at hinner

theorem wellFormed_of_isInner {segments : List Segment} (hinner : ∀ s ∈ segments, s.IsInner) :
    WellFormed segments := by
  cases segments with
  | nil => trivial
  | cons segment rest =>
      rw [List.forall_mem_cons] at hinner
      exact ⟨Or.inr (Or.inr hinner.1), hinner.2⟩

theorem isInner_of_ofPart? {part : Bytes} {segment : Segment} (hslash : slash ∉ part)
    (hpart : ofPart? part = some segment) : segment.IsInner := by
  unfold ofPart? at hpart
  split_ifs at hpart with hempty hup
  · exact Or.inl (Option.some.inj hpart).symm
  · rw [← Option.some.inj hpart]
    rw [not_or] at hempty
    exact Or.inr ⟨hempty.1, hempty.2, hup, hslash⟩

theorem ofPart?_toPart {segment : Segment} (hinner : segment.IsInner) :
    ofPart? segment.toPart = some segment := by
  rcases hinner with rfl | hname
  · rfl
  · obtain ⟨bytes, rfl⟩ := hname.exists_eq
    obtain ⟨hempty, hdot, hdots, -⟩ := hname
    have hpart : (name bytes).toPart = bytes := rfl
    rw [hpart, ofPart?, if_neg (not_or.mpr ⟨hempty, hdot⟩), if_neg hdots]

theorem slash_not_mem_toPart {segment : Segment} (hinner : segment.IsInner) :
    slash ∉ segment.toPart := by
  rcases hinner with rfl | hname
  · decide
  · obtain ⟨bytes, rfl⟩ := hname.exists_eq
    exact hname.2.2.2

theorem toPart_ne_nil {segment : Segment} (hinner : segment.IsInner) : segment.toPart ≠ [] := by
  rcases hinner with rfl | hname
  · simp [toPart]
  · obtain ⟨bytes, rfl⟩ := hname.exists_eq
    exact hname.1

/-- Only a name is spelled like a name. -/
theorem toPart_eq_iff {segment : Segment} {bytes : Bytes} (hname : (name bytes).IsName) :
    segment.toPart = bytes ↔ segment = name bytes := by
  obtain ⟨hempty, hdot, hdots, -⟩ := hname
  cases segment with
  | name other => simp [toPart]
  | root => simpa [toPart] using hempty.symm
  | here => simpa [toPart] using hdot.symm
  | up => simpa [toPart] using hdots.symm

theorem WellFormed.isName {segments : List Segment} (hwell : WellFormed segments) {bytes : Bytes}
    (hmem : name bytes ∈ segments) : (name bytes).IsName := by
  cases segments with
  | nil => cases hmem
  | cons segment rest =>
      obtain ⟨hfirst, hrest⟩ := hwell
      rcases List.mem_cons.mp hmem with rfl | hmem
      · simpa [IsInner] using hfirst
      · exact (hrest _ hmem).resolve_left (by simp)

/-- Only a `..` is spelled like one. -/
theorem WellFormed.toPart_eq_dots_iff {segments : List Segment} (hwell : WellFormed segments)
    {segment : Segment} (hmem : segment ∈ segments) :
    segment.toPart = [dot, dot] ↔ segment = up := by
  cases segment with
  | name bytes => simpa [toPart] using (hwell.isName hmem).2.2.1
  | root | here | up => simp [toPart]

/-! ## Segments one after the other -/

section Spelling

variable {α : Type} {separator : α} {spelling : Segment → List α} {segments : List Segment}

theorem spell_of_isInner (hinner : ∀ s ∈ segments, s.IsInner) :
    spell separator spelling segments = [separator].intercalate (segments.map spelling) := by
  cases segments with
  | nil => rfl
  | cons segment rest =>
      cases segment with
      | root => exact absurd rfl (hinner root (by simp)).ne_root
      | here | up | name => rfl

theorem spell_singleton {segment : Segment} (hinner : segment.IsInner) :
    spell separator spelling [segment] = spelling segment := by
  rw [spell_of_isInner (by simpa using hinner), List.map_singleton, List.intercalate_singleton]

theorem spell_cons_cons {segment next : Segment} {rest : List Segment}
    (hinner : ∀ s ∈ segment :: next :: rest, s.IsInner) :
    spell separator spelling (segment :: next :: rest) =
      spelling segment ++ separator :: spell separator spelling (next :: rest) := by
  rw [spell_of_isInner hinner, spell_of_isInner (List.forall_mem_cons.mp hinner).2, List.map_cons,
    intercalate_cons (by simp)]

/-- Separators stand between segments only. -/
theorem splitOn_intercalate_map [DecidableEq α] (hne : segments ≠ [])
    (hparts : ∀ s ∈ segments, separator ∉ spelling s) :
    ([separator].intercalate (segments.map spelling)).splitOn separator =
      segments.map spelling := by
  refine List.splitOn_intercalate separator (fun part hpart => ?_) (by simpa using hne)
  obtain ⟨segment, hsegment, rfl⟩ := List.mem_map.mp hpart
  exact hparts segment hsegment

end Spelling

/-! ## Bytes behind a slash -/

/-- The segments of bytes behind a slash. -/
def inner (bytes : Bytes) : List Segment :=
  (bytes.splitOn slash).filterMap ofPart?

@[simp] theorem inner_nil : inner [] = [] := rfl

theorem isInner_of_mem_inner {bytes : Bytes} {segment : Segment}
    (hsegment : segment ∈ inner bytes) : segment.IsInner := by
  obtain ⟨part, hpart, hsome⟩ := List.mem_filterMap.mp hsegment
  exact isInner_of_ofPart? (not_mem_of_mem_splitOn hpart) hsome

theorem filterMap_ofPart?_map_toPart {segments : List Segment}
    (hinner : ∀ s ∈ segments, s.IsInner) :
    (segments.map toPart).filterMap ofPart? = segments := by
  induction segments with
  | nil => rfl
  | cons segment rest ih =>
      rw [List.map_cons, List.filterMap_cons, ofPart?_toPart (hinner segment (by simp)),
        ih fun s hs => hinner s (List.mem_cons_of_mem _ hs)]

theorem inner_intercalate {segments : List Segment} (hinner : ∀ s ∈ segments, s.IsInner) :
    inner ([slash].intercalate (segments.map toPart)) = segments := by
  cases segments with
  | nil => rfl
  | cons segment rest =>
      rw [inner, splitOn_intercalate_map (by simp) fun s hs => slash_not_mem_toPart (hinner s hs),
        filterMap_ofPart?_map_toPart hinner]

theorem inner_toBytes {segments : List Segment} (hinner : ∀ s ∈ segments, s.IsInner) :
    inner (toBytes segments) = segments := by
  rw [toBytes, spell_of_isInner hinner, inner_intercalate hinner]

/-! ## Whole paths -/

theorem ofBytes_slash_cons (bytes : Bytes) : ofBytes (slash :: bytes) = root :: inner bytes := by
  simp [ofBytes, splitOn_cons_self, inner, List.splitOn_ne_nil]

theorem ofBytes_append_slash {bytes : Bytes} (hne : bytes ≠ []) (rest : Bytes) :
    ofBytes (bytes ++ slash :: rest) = ofBytes bytes ++ inner rest := by
  obtain ⟨part, parts, hparts⟩ := List.exists_cons_of_ne_nil (List.splitOn_ne_nil slash bytes)
  have hsplit : (bytes ++ slash :: rest).splitOn slash = part :: (parts ++ rest.splitOn slash) := by
    rw [List.splitOn_append_cons_self, hparts, List.cons_append]
  -- a first part that is empty is a leading slash, for the bytes as for their continuation
  have hparts_ne : part = [] → parts ≠ [] := by
    rintro rfl rfl
    have hjoin : [slash].intercalate (bytes.splitOn slash) = bytes :=
      List.intercalate_splitOn slash
    rw [hparts, List.intercalate_singleton] at hjoin
    exact hne hjoin.symm
  simp only [ofBytes, hsplit, hparts, List.filterMap_append, inner, List.append_assoc]
  by_cases hpart : part = []
  · simp [hpart, hparts_ne hpart]
  · simp [hpart]

/-- Bytes without a slash in front are read like those behind one, but for a leading dot. -/
theorem ofBytes_of_head_ne_slash {bytes : Bytes} (hslash : bytes.head? ≠ some slash) :
    ofBytes bytes = inner bytes ∨ ofBytes bytes = here :: inner bytes := by
  obtain ⟨part, parts, hsplit⟩ := List.exists_cons_of_ne_nil (List.splitOn_ne_nil slash bytes)
  simp only [ofBytes, inner, hsplit, List.filterMap_cons]
  by_cases hpart : part = []
  · -- behind an empty first part there would be the slash
    have hparts : parts = [] := by
      by_contra hparts
      have hjoin : [slash].intercalate (bytes.splitOn slash) = bytes :=
        List.intercalate_splitOn slash
      rw [hsplit, hpart, intercalate_cons hparts] at hjoin
      exact hslash (by rw [← hjoin]; rfl)
    simp [hpart, hparts, ofPart?]
  · by_cases hdot : part = [dot]
    · simp [hdot, ofPart?]
    · left
      cases ofPart? part <;> simp [hpart, hdot]

theorem wellFormed_ofBytes (bytes : Bytes) : WellFormed (ofBytes bytes) := by
  have hinner : ∀ parts ⊆ bytes.splitOn slash, ∀ s ∈ parts.filterMap ofPart?, s.IsInner := by
    intro parts hsubset s hs
    obtain ⟨part, hpart, hsome⟩ := List.mem_filterMap.mp hs
    exact isInner_of_ofPart? (not_mem_of_mem_splitOn (hsubset hpart)) hsome
  obtain ⟨part, parts, hsplit⟩ := List.exists_cons_of_ne_nil (List.splitOn_ne_nil slash bytes)
  have hrest := hinner parts (by simp [hsplit])
  simp only [ofBytes, hsplit]
  split_ifs with hpart hparts hdot
  · simp [hparts, WellFormed]
  · exact ⟨Or.inl rfl, hrest⟩
  · exact ⟨Or.inr (Or.inl rfl), hrest⟩
  · cases hfirst : ofPart? part with
    | none => simp [ofPart?, hpart, hdot] at hfirst; split_ifs at hfirst
    | some segment =>
        have hmem : part ∈ bytes.splitOn slash := by
          rw [hsplit]
          exact List.mem_cons_self
        exact ⟨Or.inr (Or.inr (isInner_of_ofPart? (not_mem_of_mem_splitOn hmem) hfirst)), hrest⟩

theorem ofBytes_toBytes {segments : List Segment} (hwell : WellFormed segments) :
    ofBytes (toBytes segments) = segments := by
  cases segments with
  | nil => rfl
  | cons segment rest =>
      obtain ⟨hfirst, hrest⟩ := hwell
      rcases hfirst with rfl | rfl | hinner
      · rw [toBytes, spell, ofBytes_slash_cons, inner_intercalate hrest]
      · have hsplit : ([slash].intercalate ((here :: rest).map toPart)).splitOn slash =
            (here :: rest).map toPart := by
          refine splitOn_intercalate_map (by simp) fun s hs => ?_
          rcases List.mem_cons.mp hs with rfl | hs
          · decide
          · exact slash_not_mem_toPart (hrest s hs)
        have hdot : (here :: rest).map toPart = [dot] :: rest.map toPart := rfl
        rw [toBytes, spell, ofBytes, hsplit, hdot]
        · simp [filterMap_ofPart?_map_toPart hrest]
        · simp
      · have hall : ∀ s ∈ segment :: rest, s.IsInner := List.forall_mem_cons.mpr ⟨hinner, hrest⟩
        have hsplit : ([slash].intercalate ((segment :: rest).map toPart)).splitOn slash =
            (segment :: rest).map toPart :=
          splitOn_intercalate_map (by simp) fun s hs => slash_not_mem_toPart (hall s hs)
        have hsome := ofPart?_toPart hinner
        have hpart : segment.toPart ≠ [] ∧ segment.toPart ≠ [dot] := by
          constructor <;> intro heq <;> simp [heq, ofPart?] at hsome
        rw [toBytes, spell_of_isInner hall, ofBytes, hsplit]
        simp [hpart, hsome, filterMap_ofPart?_map_toPart hrest]

end Segment

end ModuleDiscovery
