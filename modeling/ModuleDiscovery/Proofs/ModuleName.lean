import ModuleDiscovery.ModuleName
import ModuleDiscovery.Proofs.ScriptId

/-!
# Module names lead back to their files

The name of a module is the way from the root to its file, so that joining it to
the root and cleaning must give the file back.  `Path.clean_join_moduleName` says
so for every root: below an absolute root the name climbs out of the segments that
the file does not share and descends into the others, and a relative root, which
shares nothing with an absolute file, leaves the whole path as the name.

A name alone does not say whether it belongs to a file or to an inline script: under
an absolute root, the names that read as script identifiers are those of the inline
scripts and of the files in the root that are spelled like one
(`Path.isSome_parse?_moduleName_iff`).
-/

namespace ModuleDiscovery

namespace Segment

/-! ## The shared front of two paths -/

theorem take_commonLength (base target : List Segment) :
    base.take (commonLength base target) = target.take (commonLength base target) := by
  induction base generalizing target with
  | nil => simp [commonLength]
  | cons a base ih =>
      cases target with
      | nil => simp [commonLength]
      | cons b target =>
          simp only [commonLength]
          split_ifs with hab
          · simp [hab, ih target]
          · simp

/-- The way between two absolute directories: up from what only the first has, then
down. -/
theorem relative_rooted (base : List Segment) {target : List Segment}
    (htarget : ∀ s ∈ target, s.IsName) :
    relative (root :: base) (root :: target) =
      List.replicate (base.length - commonLength base target) up ++
        target.drop (commonLength base target) := by
  have hdrop : ∀ s ∈ target.drop (commonLength base target), s.IsName :=
    fun s hs => htarget s (List.mem_of_mem_drop hs)
  have hhead : (target.drop (commonLength base target)).head? ≠ some root := fun hroot =>
    (hdrop root (List.mem_of_mem_head? (by simp [hroot]))).isInner.ne_root rfl
  have hfilter : (target.drop (commonLength base target)).filter (· ≠ here) =
      target.drop (commonLength base target) :=
    List.filter_eq_self.mpr fun s hs => by simpa using (hdrop s hs).isInner.ne_here
  simp only [relative, commonLength, if_true, List.drop_succ_cons, List.length_cons,
    Nat.add_right_cancel_iff, Nat.add_sub_add_right]
  split_ifs with hlength
  · simp [hlength]
  · rw [hfilter]

theorem isInner_of_mem_relative (base : List Segment) {target : List Segment}
    (htarget : ∀ s ∈ target, s.IsName) :
    ∀ s ∈ relative (root :: base) (root :: target), s.IsInner := by
  rw [relative_rooted base htarget]
  intro s hs
  rcases List.mem_append.mp hs with hs | hs
  · exact Or.inl (List.eq_of_mem_replicate hs)
  · exact (htarget s (List.mem_of_mem_drop hs)).isInner

theorem commonLength_append (base rest : List Segment) :
    commonLength base (base ++ rest) = base.length := by
  induction base with
  | nil => rfl
  | cons a base ih => simp [commonLength, ih]

/-- The way goes through whatever is not shared. -/
theorem mem_relative_of_mem_drop {base target : List Segment} {segment : Segment}
    (hmem : segment ∈ target.drop (commonLength base target)) :
    segment = here ∨ segment ∈ relative base target := by
  rw [relative]
  split_ifs
  · exact Or.inr hmem
  · exact Or.inr hmem
  · by_cases hhere : segment = here
    · exact Or.inl hhere
    · exact Or.inr (List.mem_append_right _ (List.mem_filter.mpr ⟨hmem, by simpa using hhere⟩))

/-- A path in an absolute directory, seen from it. -/
theorem relative_append {base rest : List Segment} (hbase : ∀ s ∈ base, s.IsName)
    (hrest : ∀ s ∈ rest, s.IsName) : relative (root :: base) (root :: (base ++ rest)) = rest := by
  have htarget : ∀ s ∈ base ++ rest, s.IsName := by
    intro s hs
    rcases List.mem_append.mp hs with h | h
    exacts [hbase s h, hrest s h]
  rw [relative_rooted base htarget, commonLength_append]
  simp

/-- A relative path seen from an absolute directory climbs out of it first. -/
theorem exists_relative_eq_up_cons (base : List Segment) {target : List Segment}
    (hhead : target.head? ≠ some root) : ∃ rest, relative (root :: base) target = up :: rest := by
  have hcommon : commonLength (root :: base) target = 0 := by
    cases target with
    | nil => rfl
    | cons b target =>
        have hroot : root ≠ b := fun h => hhead (by simp [h])
        simp [commonLength, hroot]
  refine ⟨List.replicate base.length up ++ target.filter (· ≠ here), ?_⟩
  simp [relative, hcommon, hhead, List.replicate_succ]

/-- A relative directory shares nothing with an absolute path. -/
theorem commonLength_of_head_ne_root {base : List Segment} (hhead : base.head? ≠ some root)
    (target : List Segment) : commonLength base (root :: target) = 0 := by
  cases base with
  | nil => rfl
  | cons segment rest =>
      have hsegment : segment ≠ root := by simpa using hhead
      simp [commonLength, hsegment]

theorem relative_of_head_ne_root {base : List Segment} (hhead : base.head? ≠ some root)
    (target : List Segment) : relative base (root :: target) = root :: target := by
  simp [relative, commonLength_of_head_ne_root hhead]

/-- A way that climbs from `base` and goes down again, resolved behind `base`. -/
theorem clean_append_way {base down : List Segment} (hbase : ∀ s ∈ base, s.IsName)
    (hdown : ∀ s ∈ down, s.IsName) (shared : ℕ) :
    clean (root :: base ++ (List.replicate (base.length - shared) up ++ down)) =
      root :: (base.take shared ++ down) := by
  have hroot : resolve [] root = [root] := rfl
  have hup : (List.replicate (base.length - shared) up).foldl resolve (base.reverse ++ [root]) =
      (base.take shared).reverse ++ [root] := by
    have hsplit : base.reverse ++ [root] =
        (base.drop shared).reverse ++ ((base.take shared).reverse ++ [root]) := by
      rw [← List.append_assoc, ← List.reverse_append, List.take_append_drop]
    have hlength : base.length - shared = (base.drop shared).reverse.length := by simp
    rw [hsplit, hlength, foldl_resolve_ups fun s hs => hbase s (by
      rw [List.mem_reverse] at hs
      exact List.mem_of_mem_drop hs)]
  rw [clean, List.cons_append, List.foldl_cons, hroot, List.foldl_append,
    foldl_resolve_names hbase, List.foldl_append, hup, foldl_resolve_names hdown]
  simp

/-- The way from `base` to `target`, each segment the way it is shown, leads to what the two
share and what shows the rest. -/
theorem clean_append_relative {base target : List Segment} (hbase : ∀ s ∈ base, s.IsName)
    (htarget : ∀ s ∈ target, s.IsName) :
    clean (root :: base ++ (relative (root :: base) (root :: target)).map legible) =
      (root :: target).take (commonLength (root :: base) (root :: target)) ++
        ((root :: target).drop (commonLength (root :: base) (root :: target))).map legible := by
  have hdown : ∀ s ∈ (target.drop (commonLength base target)).map legible, s.IsName :=
    List.forall_mem_map.mpr fun s hs => isName_legible (htarget s (List.mem_of_mem_drop hs))
  have hup : up.legible = up := rfl
  rw [relative_rooted base htarget, List.map_append, List.map_replicate, hup,
    clean_append_way hbase hdown, take_commonLength, commonLength, if_pos rfl]
  rfl

end Segment

namespace Path

/-! ## Names of files -/

theorem moduleName_of_isAbsolute (base : Path) {p : Path} (habs : p.isAbsolute) :
    moduleName base p = String.ofList
      (Segment.toChars (Segment.relative base.clean.segments p.clean.segments)) := by
  simp [moduleName, not_isScriptId_of_isAbsolute habs]

theorem moduleName_clean (base p : Path) : moduleName base.clean p = moduleName base p := by
  rw [moduleName, clean_clean, moduleName]

/-- A name looks at the clean path alone. -/
theorem moduleName_clean_file (base : Path) {p : Path} (habs : p.isAbsolute) :
    moduleName base p.clean = moduleName base p := by
  rw [moduleName_of_isAbsolute base habs, moduleName_of_isAbsolute base
    (canonical_clean habs).absolute, clean_clean]

/-- A name spells the way to the file, each segment the way it is shown. -/
theorem ofText_moduleName (base : Path) {p : Path} (habs : p.isAbsolute) :
    ofText (moduleName base p) = ofSegments
      ((Segment.relative base.clean.segments p.clean.segments).map Segment.legible) := by
  rw [moduleName_of_isAbsolute base habs, ofText, Segment.encode_toChars, ofSegments]

theorem head_eq_root_iff_of_resolved {segments : List Segment}
    (hresolved : Segment.Resolved segments) :
    segments.head? = some .root ↔
      ∃ names, (∀ s ∈ names, s.IsName) ∧ segments = .root :: names := by
  constructor
  · intro hhead
    cases hresolved with
    | @rooted names hnames => exact ⟨names, hnames, rfl⟩
    | @relative ups names hnames hne =>
        have hmem := List.mem_of_mem_head? (Option.mem_def.mpr hhead)
        rcases List.mem_append.mp hmem with h | h
        · exact absurd (List.eq_of_mem_replicate h) (by simp)
        · exact absurd rfl (hnames _ h).isInner.ne_root
    | here => simp at hhead
  · rintro ⟨names, -, rfl⟩
    rfl

/-! ## Where a name leads -/

/-- How many leading segments a path shares with another. -/
def sharedWith (p base : Path) : ℕ :=
  Segment.commonLength base.clean.segments p.clean.segments

/-- Whether the way from `base` to `p` is text. -/
def isTextFrom (p base : Path) : Bool :=
  (p.clean.segments.drop (p.sharedWith base)).all Segment.isText

/-- The path with what it shares with `base`, and from there on what shows it. -/
def shownFrom (p base : Path) : Path :=
  ofSegments (p.clean.segments.take (p.sharedWith base) ++
    (p.clean.segments.drop (p.sharedWith base)).map Segment.legible)

variable {p base : Path}

theorem sharedWith_clean (p base : Path) : p.sharedWith base.clean = p.sharedWith base := by
  rw [sharedWith, clean_clean, sharedWith]

theorem isTextFrom_clean (p base : Path) : p.isTextFrom base.clean = p.isTextFrom base := by
  rw [isTextFrom, sharedWith_clean, isTextFrom]

theorem shownFrom_clean (p base : Path) : p.shownFrom base.clean = p.shownFrom base := by
  rw [shownFrom, sharedWith_clean, shownFrom]

theorem segments_shownFrom (habs : p.isAbsolute) (base : Path) :
    (∃ names, (∀ s ∈ names, s.IsName) ∧ (p.shownFrom base).segments = .root :: names) ∧
      (p.shownFrom base).segments = p.clean.segments.take (p.sharedWith base) ++
        (p.clean.segments.drop (p.sharedWith base)).map Segment.legible := by
  obtain ⟨target, htarget, hsegments⟩ := (canonical_clean habs).segments
  obtain ⟨names, hnames, hshown⟩ : ∃ names, (∀ s ∈ names, s.IsName) ∧
      p.clean.segments.take (p.sharedWith base) ++
        (p.clean.segments.drop (p.sharedWith base)).map Segment.legible = .root :: names := by
    -- the root is shown as it is, whether it is shared or not
    have hname : ∀ n, ∀ s ∈ target.take n ++ (target.drop n).map Segment.legible, s.IsName :=
      fun n => List.forall_mem_append.mpr ⟨fun s hs => htarget s (List.mem_of_mem_take hs),
        List.forall_mem_map.mpr fun s hs =>
          Segment.isName_legible (htarget s (List.mem_of_mem_drop hs))⟩
    rw [hsegments]
    cases p.sharedWith base with
    | zero => exact ⟨_, hname 0, rfl⟩
    | succ n => exact ⟨_, hname n, rfl⟩
  have hread : (p.shownFrom base).segments = .root :: names := by
    rw [shownFrom, hshown, segments_ofSegments (Segment.Resolved.rooted hnames).wellFormed]
  exact ⟨⟨names, hnames, hread⟩, hread.trans hshown.symm⟩

theorem canonical_shownFrom (habs : p.isAbsolute) (base : Path) :
    (p.shownFrom base).Canonical := by
  obtain ⟨⟨names, hnames, hread⟩, hsegments⟩ := segments_shownFrom habs base
  have hshown : p.shownFrom base = ofSegments (.root :: names) := by
    rw [shownFrom, ← hsegments, hread]
  refine ⟨hshown ▸ isAbsolute_ofSegments_root names, ?_⟩
  rw [clean, hread, Segment.clean_eq_of_resolved (Segment.Resolved.rooted hnames), hshown]

/-- Only text is shown as it is. -/
theorem shownFrom_eq_iff (habs : p.isAbsolute) (base : Path) :
    p.shownFrom base = p.clean ↔ p.isTextFrom base := by
  have hsegments : p.shownFrom base = p.clean ↔
      (p.shownFrom base).segments = p.clean.segments :=
    ⟨congrArg segments, eq_of_same (canonical_shownFrom habs base).clean_eq p.clean_clean⟩
  have hsplit := List.take_append_drop (p.sharedWith base) p.clean.segments
  rw [hsegments, (segments_shownFrom habs base).2]
  conv_lhs => rhs; rw [← hsplit, ← List.map_id (List.drop _ _)]
  rw [List.append_cancel_left_eq, List.map_inj_left, isTextFrom, List.all_eq_true]
  exact forall₂_congr fun s _ => Segment.legible_eq_self_iff

/-- The name of a file, seen from the root, leads to what is shown of the file. -/
theorem clean_join_moduleName (base : Path) (habs : p.isAbsolute) :
    (base.clean.join (moduleName base p)).clean = p.shownFrom base := by
  obtain ⟨target, htarget, hsegments⟩ := (canonical_clean habs).segments
  have hresolved := base.resolved_segments_clean
  refine eq_of_same (clean_clean _) (canonical_shownFrom habs base).clean_eq ?_
  rw [Same, (segments_shownFrom habs base).2, ofText_moduleName base habs, hsegments, sharedWith,
    hsegments]
  by_cases hhead : base.clean.segments.head? = some .root
  · obtain ⟨names, hnames, hbase⟩ := (head_eq_root_iff_of_resolved hresolved).mp hhead
    have hinner : ∀ s ∈ (Segment.relative (.root :: names) (.root :: target)).map
        Segment.legible, s.IsInner :=
      List.forall_mem_map.mpr fun s hs =>
        Segment.isInner_legible (Segment.isInner_of_mem_relative names htarget s hs)
    have hnonempty : base.clean.bytes ≠ [] := by
      intro hempty
      rw [segments, hempty] at hbase
      cases hbase
    rw [hbase, segments_clean, segments_join_ofSegments hnonempty hinner, hbase,
      Segment.clean_append_relative hnames htarget]
  · -- the name of the file is the whole path
    have hroot : Segment.root.legible = .root := rfl
    have hresolved := Segment.Resolved.rooted (List.forall_mem_map.mpr fun s hs =>
      Segment.isName_legible (htarget s hs))
    rw [Segment.relative_of_head_ne_root hhead, Segment.commonLength_of_head_ne_root hhead,
      List.map_cons, hroot, join_of_isAbsolute _ (isAbsolute_ofSegments_root _),
      segments_clean, segments_ofSegments hresolved.wellFormed,
      Segment.clean_eq_of_resolved hresolved]
    rfl

/-- Only text is shown as it is, for a list of files. -/
theorem map_shownFrom_eq_iff {files : List Path} (hfiles : ∀ p ∈ files, p.Canonical)
    (base : Path) :
    files.map (·.shownFrom base) = files ↔ ∀ p ∈ files, p.isTextFrom base := by
  conv_lhs => rhs; rw [← List.map_id files]
  rw [List.map_inj_left]
  refine forall₂_congr fun p hp => ?_
  rw [← shownFrom_eq_iff (hfiles p hp).absolute, (hfiles p hp).clean_eq, id_eq]

/-- The name of a file leads back to the file exactly if the way to it is text. -/
theorem clean_join_moduleName_eq_iff (base : Path) (hp : p.Canonical) :
    (base.clean.join (moduleName base p)).clean = p ↔ p.isTextFrom base := by
  rw [clean_join_moduleName base hp.absolute, ← shownFrom_eq_iff hp.absolute, hp.clean_eq]

/-! ## Names that read as script identifiers -/

/-- A file in the root directory that is spelled like a script identifier. -/
def PosesAsScript (p base : Path) : Prop :=
  ∃ id : Path, id.isScriptId ∧ p = (base.clean.join id).clean

theorem moduleName_of_isScriptId (base : Path) (hscript : p.isScriptId) :
    moduleName base p = p.text :=
  if_pos hscript

theorem isAbsolute_of_head_eq_root (hclean : p.clean = p)
    (hhead : p.segments.head? = some .root) : p.isAbsolute := by
  obtain ⟨names, -, hsegments⟩ :=
    (head_eq_root_iff_of_resolved (hclean ▸ p.resolved_segments_clean)).mp hhead
  rw [← ofSegments_segments hclean, hsegments]
  exact isAbsolute_ofSegments_root names

theorem not_isScriptId_moduleName_of_relative (hbase : base.isAbsolute)
    (hclean : p.clean = p) (habs : p.isAbsolute = false) (hscript : p.isScriptId = false) :
    (ScriptId.parse? (moduleName base p)).isSome = false := by
  obtain ⟨names, -, hsegments⟩ := (canonical_clean hbase).segments
  have hhead : p.segments.head? ≠ some .root := by
    intro hroot
    rw [isAbsolute_of_head_eq_root hclean hroot] at habs
    cases habs
  obtain ⟨rest, hrelative⟩ := Segment.exists_relative_eq_up_cons names hhead
  have hname : moduleName base p = String.ofList (Segment.toChars (.up :: rest)) := by
    simp [moduleName, hscript, hclean, hsegments, hrelative]
  -- the name climbs first, and an identifier does not start with a dot
  by_contra hparse
  rw [Bool.not_eq_false] at hparse
  obtain ⟨⟨others, htext⟩, -⟩ := ScriptId.eq_opening_append_of_parse? hparse
  have hdot : (Segment.toChars (.up :: rest)).head? = some '.' := by
    cases rest <;> rfl
  rw [← String.toList_ofList (l := Segment.toChars _), ← hname, htext] at hdot
  cases hdot

/-- A file that poses as an inline script goes by that script's name. -/
theorem moduleName_of_poses {id : Path} (hbase : base.isAbsolute) (hscript : id.isScriptId) :
    moduleName base (base.clean.join id).clean = id.text := by
  have hroot : base.clean.Canonical := canonical_clean hbase
  have hfile := isAbsolute_join hroot.absolute id
  obtain ⟨names, hnames, hsegments⟩ := hroot.segments
  have hname : ∀ s ∈ [Segment.name id.bytes], s.IsName := by
    simpa using isName_of_isScriptId hscript
  have htarget : (base.clean.join id).clean.segments =
      .root :: (names ++ [Segment.name id.bytes]) := by
    rw [segments_clean, segments_join (bytes_ne_nil_of_isAbsolute hroot.absolute)
      (not_isAbsolute_of_isScriptId hscript), hsegments, inner_of_isScriptId hscript]
    exact Segment.clean_eq_of_resolved
      (Segment.Resolved.rooted (List.forall_mem_append.mpr ⟨hnames, hname⟩))
  have hchars : Segment.toChars [.name id.bytes] = id.text.toList :=
    Segment.spell_singleton (isName_of_isScriptId hscript).isInner
  rw [← moduleName_clean_file base (isAbsolute_clean hfile), clean_clean,
    moduleName_of_isAbsolute base (isAbsolute_clean hfile), clean_clean, hsegments, htarget,
    Segment.relative_append hnames hname, hchars, String.ofList_toList]

/-- A name that shows nothing malformed shows the way to the file. -/
theorem isTextFrom_of_not_mem (habs : p.isAbsolute)
    (hmarks : '\uFFFD' ∉ (moduleName base p).toList) : p.isTextFrom base := by
  rw [moduleName_of_isAbsolute base habs, String.toList_ofList] at hmarks
  refine List.all_eq_true.mpr fun s hs => Segment.isText_of_not_mem fun hmark => ?_
  rcases Segment.mem_relative_of_mem_drop hs with rfl | hway
  · exact absurd hmark (by decide)
  · exact hmarks (Segment.shown_subset_toChars hway hmark)

/-- The modules whose names read as script identifiers. -/
theorem isSome_parse?_moduleName_iff (hbase : base.isAbsolute) (hclean : p.clean = p) :
    (ScriptId.parse? (moduleName base p)).isSome ↔ p.isScriptId ∨ p.PosesAsScript base := by
  constructor
  · intro hname
    by_cases hscript : p.isScriptId
    · exact Or.inl hscript
    · cases habs : p.isAbsolute with
      | true =>
          -- the name is an identifier, which is text, so it leads back to the file
          have htext := isTextFrom_of_not_mem habs
            (ScriptId.eq_opening_append_of_parse? hname).2.2
          exact Or.inr ⟨moduleName base p, isScriptId_ofText _ ▸ hname,
            ((clean_join_moduleName_eq_iff base ⟨habs, hclean⟩).mpr htext).symm⟩
      | false =>
          rw [not_isScriptId_moduleName_of_relative hbase hclean habs (by simpa using hscript)]
            at hname
          cases hname
  · rintro (hscript | ⟨id, hscript, rfl⟩)
    · rw [moduleName_of_isScriptId base hscript]
      exact isSome_parse?_text_iff.mpr hscript
    · rw [moduleName_of_poses hbase hscript]
      exact isSome_parse?_text_iff.mpr hscript

end Path

end ModuleDiscovery
