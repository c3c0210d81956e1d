import ModuleDiscovery.Path.Clean
import ModuleDiscovery.Proofs.Path.Segments

/-!
# Clean paths

`Segment.clean` runs over the segments with a stack.  On a stack that ends in the
root every `..` finds a name to take back or vanishes; on any other stack the `..`
that find none gather at the bottom.  So the result is `Resolved`, and a resolved
list is left as it is (`Segment.clean_eq_of_resolved`), which makes cleaning
idempotent (`Path.clean_clean`) and lets clean paths be told apart by their
segments (`Path.eq_of_same`).

A stack that is read from its bottom does to another stack what the segments behind it
do (`Segment.foldl_resolve_clean`).  So it does not matter whether the two parts of a
join are cleaned before they are joined (`Path.clean_join_clean`,
`Path.clean_join_clean_right`), or which of two joins comes first
(`Path.clean_join_join`).

An absolute clean path is called canonical.  `Path.Canonical.join_parent_clean`
says that what is seen from the directory of a canonical file is canonical again.
-/

namespace ModuleDiscovery

namespace Segment

/-- Segments in which nothing is left to resolve. -/
inductive Resolved : List Segment → Prop
  | rooted {names : List Segment} (hnames : ∀ s ∈ names, s.IsName) : Resolved (root :: names)
  | relative (ups : ℕ) {names : List Segment} (hnames : ∀ s ∈ names, s.IsName)
      (hne : List.replicate ups up ++ names ≠ []) : Resolved (List.replicate ups up ++ names)
  | here : Resolved [here]

/-! ## The stack of names -/

theorem foldl_resolve_names {names : List Segment} (hnames : ∀ s ∈ names, s.IsName)
    (done : List Segment) : names.foldl resolve done = names.reverse ++ done := by
  induction names generalizing done with
  | nil => rfl
  | cons segment rest ih =>
      rw [List.forall_mem_cons] at hnames
      obtain ⟨text, rfl⟩ := hnames.1.exists_eq
      have hpush : resolve done (name text) = name text :: done := rfl
      rw [List.foldl_cons, hpush, ih hnames.2]
      simp

/-- As many `..` as there are names on top of a stack take all of them back. -/
theorem foldl_resolve_ups {names : List Segment} (hnames : ∀ s ∈ names, s.IsName)
    (done : List Segment) :
    (List.replicate names.length up).foldl resolve (names ++ done) = done := by
  induction names with
  | nil => rfl
  | cons segment rest ih =>
      rw [List.forall_mem_cons] at hnames
      obtain ⟨text, rfl⟩ := hnames.1.exists_eq
      have htake : resolve (name text :: rest ++ done) up = rest ++ done := rfl
      rw [List.length_cons, List.replicate_succ, List.foldl_cons, htake]
      exact ih hnames.2

theorem foldl_resolve_replicate_up (ups : ℕ) :
    ∀ below : ℕ, (List.replicate ups up).foldl resolve (List.replicate below up) =
      List.replicate (ups + below) up := by
  induction ups with
  | zero => intro below; simp
  | succ ups ih =>
      intro below
      have hup : resolve (List.replicate below up) up = List.replicate (below + 1) up := by
        cases below <;> rfl
      rw [List.replicate_succ, List.foldl_cons, hup, ih, Nat.add_right_comm, Nat.add_assoc]

/-- A stack of names on top of `bottom`. -/
def NamesOn (bottom done : List Segment) : Prop :=
  ∃ names, (∀ s ∈ names, s.IsName) ∧ done = names ++ bottom

theorem NamesOn.push {bottom done : List Segment} {segment : Segment}
    (hdone : NamesOn bottom done) (hname : segment.IsName) :
    NamesOn bottom (resolve done segment) := by
  obtain ⟨names, hnames, rfl⟩ := hdone
  obtain ⟨text, rfl⟩ := hname.exists_eq
  exact ⟨name text :: names, List.forall_mem_cons.mpr ⟨hname, hnames⟩, rfl⟩

/-- A `..` either takes a name back or meets the bottom. -/
theorem NamesOn.up {bottom done : List Segment} (hdone : NamesOn bottom done) :
    NamesOn bottom (resolve done up) ∨ resolve done up = resolve bottom up := by
  obtain ⟨names, hnames, rfl⟩ := hdone
  cases names with
  | nil => exact Or.inr rfl
  | cons first rest =>
      rw [List.forall_mem_cons] at hnames
      obtain ⟨text, rfl⟩ := hnames.1.exists_eq
      exact Or.inl ⟨rest, hnames.2, rfl⟩

theorem namesOn_self (bottom : List Segment) : NamesOn bottom bottom :=
  ⟨[], by simp, rfl⟩

theorem foldl_resolve_rooted {segments done : List Segment} (hinner : ∀ s ∈ segments, s.IsInner)
    (hdone : NamesOn [root] done) : NamesOn [root] (segments.foldl resolve done) := by
  induction segments generalizing done with
  | nil => exact hdone
  | cons segment rest ih =>
      rw [List.forall_mem_cons] at hinner
      refine ih hinner.2 ?_
      rcases hinner.1 with rfl | hname
      · rcases hdone.up with h | h
        · exact h
        · rw [h]
          exact namesOn_self [root]
      · exact hdone.push hname

theorem foldl_resolve_relative {segments done : List Segment} {ups : ℕ}
    (hinner : ∀ s ∈ segments, s.IsInner) (hdone : NamesOn (List.replicate ups up) done) :
    ∃ more, NamesOn (List.replicate more up) (segments.foldl resolve done) := by
  induction segments generalizing done ups with
  | nil => exact ⟨ups, hdone⟩
  | cons segment rest ih =>
      rw [List.forall_mem_cons] at hinner
      rcases hinner.1 with rfl | hname
      · rcases hdone.up with h | h
        · exact ih hinner.2 h
        · have hbottom : resolve (List.replicate ups up) up = List.replicate (ups + 1) up := by
            cases ups <;> rfl
          have hmore : NamesOn (List.replicate (ups + 1) up) (resolve done up) := by
            rw [h, hbottom]
            exact namesOn_self _
          exact ih hinner.2 hmore
      · exact ih hinner.2 (hdone.push hname)

/-! ## What a stack does to another -/

/-- Read from its bottom, a stack with one more segment does to another stack what it did
before, and then what the segment does. -/
theorem foldl_reverse_resolve (stack done : List Segment) (segment : Segment) :
    (resolve stack segment).reverse.foldl resolve done =
      resolve (stack.reverse.foldl resolve done) segment := by
  cases segment with
  | here => rfl
  | root | name => simp [resolve]
  | up =>
      cases stack with
      | nil => rfl
      | cons top stack =>
          rw [List.reverse_cons, List.foldl_concat]
          cases top with
          | name => rfl
          | root | here | up => simp [resolve]

theorem foldl_reverse_foldl (segments stack done : List Segment) :
    (segments.foldl resolve stack).reverse.foldl resolve done =
      segments.foldl resolve (stack.reverse.foldl resolve done) := by
  induction segments generalizing stack with
  | nil => rfl
  | cons segment rest ih => rw [List.foldl_cons, List.foldl_cons, ih, foldl_reverse_resolve]

/-- On top of any stack, resolved segments do what they did before. -/
theorem foldl_resolve_clean (segments done : List Segment) :
    (clean segments).foldl resolve done = segments.foldl resolve done := by
  have hstack : (segments.foldl resolve []).reverse.foldl resolve done =
      segments.foldl resolve done := foldl_reverse_foldl segments [] done
  rw [← hstack, clean]
  split
  · next hempty => rw [hempty]; rfl
  · rfl

theorem foldl_resolve_inner {bytes : Bytes} (hslash : bytes.head? ≠ some slash)
    (done : List Segment) :
    (inner bytes).foldl resolve done = (ofBytes bytes).foldl resolve done := by
  rcases ofBytes_of_head_ne_slash hslash with hbytes | hbytes <;> rw [hbytes]
  rfl

theorem mem_of_mem_foldl_resolve {segments done : List Segment} {segment : Segment}
    (hmem : segment ∈ segments.foldl resolve done) : segment ∈ done ∨ segment ∈ segments := by
  have hresolve : ∀ (done : List Segment) (next : Segment),
      segment ∈ resolve done next → segment ∈ done ∨ segment = next := by
    intro done next hmem
    unfold resolve at hmem
    split at hmem
    · exact Or.inl hmem
    · split at hmem
      · exact Or.inl hmem
      · exact Or.inl (List.mem_cons_of_mem _ hmem)
      · exact (List.mem_cons.mp hmem).symm
    · exact (List.mem_cons.mp hmem).symm
  induction segments generalizing done with
  | nil => exact Or.inl hmem
  | cons next rest ih =>
      rw [List.mem_cons, ← or_assoc]
      exact (ih hmem).imp_left (hresolve done next)

theorem root_not_mem_clean {segments : List Segment} (hroot : root ∉ segments) :
    root ∉ clean segments := by
  intro hmem
  unfold clean at hmem
  split at hmem
  · simp at hmem
  · exact hroot ((mem_of_mem_foldl_resolve (List.mem_reverse.mp hmem)).resolve_left (by simp))

/-! ## The resolved segments -/

theorem clean_root_cons {segments : List Segment} (hinner : ∀ s ∈ segments, s.IsInner) :
    ∃ names, (∀ s ∈ names, s.IsName) ∧ clean (root :: segments) = root :: names := by
  obtain ⟨names, hnames, hfold⟩ := foldl_resolve_rooted hinner (namesOn_self [root])
  have hroot : resolve [] root = [root] := rfl
  refine ⟨names.reverse, by simpa using hnames, ?_⟩
  rw [clean, List.foldl_cons, hroot, hfold]
  simp

theorem resolved_of_namesOn_ups {done : List Segment} {ups : ℕ}
    (hdone : NamesOn (List.replicate ups up) done) :
    Resolved (match done.reverse with
      | [] => [here]
      | resolved => resolved) := by
  obtain ⟨names, hnames, rfl⟩ := hdone
  rw [List.reverse_append, List.reverse_replicate]
  split
  · exact Resolved.here
  · next hne => exact Resolved.relative ups (by simpa using hnames) hne

theorem resolved_clean {segments : List Segment} (hwell : WellFormed segments) :
    Resolved (clean segments) := by
  cases segments with
  | nil => exact Resolved.here
  | cons segment rest =>
      obtain ⟨hfirst, hrest⟩ := hwell
      rcases hfirst with rfl | rfl | hinner
      · obtain ⟨names, hnames, hclean⟩ := clean_root_cons hrest
        rw [hclean]
        exact Resolved.rooted hnames
      · obtain ⟨ups, hdone⟩ := foldl_resolve_relative hrest (namesOn_self (List.replicate 0 up))
        exact resolved_of_namesOn_ups hdone
      · have hall : ∀ s ∈ segment :: rest, s.IsInner := List.forall_mem_cons.mpr ⟨hinner, hrest⟩
        obtain ⟨ups, hdone⟩ := foldl_resolve_relative hall (namesOn_self (List.replicate 0 up))
        exact resolved_of_namesOn_ups hdone

theorem Resolved.ne_nil {segments : List Segment} (hresolved : Resolved segments) :
    segments ≠ [] := by
  cases hresolved with
  | rooted => simp
  | relative ups hnames hne => exact hne
  | here => simp

theorem Resolved.wellFormed {segments : List Segment} (hresolved : Resolved segments) :
    WellFormed segments := by
  cases hresolved with
  | rooted hnames => exact ⟨Or.inl rfl, fun s hs => (hnames s hs).isInner⟩
  | @relative ups names hnames hne =>
      refine wellFormed_of_isInner fun s hs => ?_
      rcases List.mem_append.mp hs with hs | hs
      · exact Or.inl (List.eq_of_mem_replicate hs)
      · exact (hnames s hs).isInner
  | here => exact ⟨Or.inr (Or.inl rfl), by simp⟩

theorem clean_eq_of_resolved {segments : List Segment} (hresolved : Resolved segments) :
    clean segments = segments := by
  have hfold : (segments.foldl resolve []).reverse = segments ∨ segments = [here] := by
    cases hresolved with
    | rooted hnames =>
        have hroot : resolve [] root = [root] := rfl
        left
        rw [List.foldl_cons, hroot, foldl_resolve_names hnames]
        simp
    | relative ups hnames hne =>
        have hups := foldl_resolve_replicate_up ups 0
        left
        rw [List.foldl_append, ← List.replicate_zero (a := up), hups, foldl_resolve_names hnames]
        simp
    | here => exact Or.inr rfl
  rcases hfold with hfold | rfl
  · rw [clean, hfold]
    cases segments with
    | nil => exact absurd rfl hresolved.ne_nil
    | cons segment rest => rfl
  · rfl

end Segment

namespace Path

/-! ## Segments of written paths -/

theorem segments_ofSegments {segments : List Segment} (hwell : Segment.WellFormed segments) :
    (ofSegments segments).segments = segments := by
  rw [Path.segments, ofSegments, Segment.ofBytes_toBytes hwell]

theorem wellFormed_segments (p : Path) : Segment.WellFormed p.segments :=
  Segment.wellFormed_ofBytes _

theorem segments_clean (p : Path) : p.clean.segments = Segment.clean p.segments :=
  segments_ofSegments (Segment.resolved_clean p.wellFormed_segments).wellFormed

theorem resolved_segments_clean (p : Path) : Segment.Resolved p.clean.segments := by
  rw [segments_clean]
  exact Segment.resolved_clean p.wellFormed_segments

@[simp] theorem clean_clean (p : Path) : p.clean.clean = p.clean := by
  rw [clean, segments_clean,
    Segment.clean_eq_of_resolved (Segment.resolved_clean p.wellFormed_segments)]
  rfl

theorem Same.clean_eq {p q : Path} (hsame : p.Same q) : p.clean = q.clean := by
  rw [clean, clean, show p.segments = q.segments from hsame]

/-- Clean paths with the same segments are the same. -/
theorem eq_of_same {p q : Path} (hp : p.clean = p) (hq : q.clean = q) (hsame : p.Same q) :
    p = q := by
  rw [← hp, ← hq, hsame.clean_eq]

theorem ofSegments_segments {p : Path} (hp : p.clean = p) : ofSegments p.segments = p := by
  conv_lhs => rw [← hp, segments_clean]
  exact hp

/-! ## Absolute paths -/

theorem bytes_of_isAbsolute {p : Path} (habs : p.isAbsolute) :
    ∃ rest, p.bytes = Segment.slash :: rest := by
  rw [isAbsolute, decide_eq_true_eq] at habs
  exact List.head?_eq_some_iff.mp habs

theorem bytes_ne_nil_of_isAbsolute {p : Path} (habs : p.isAbsolute) : p.bytes ≠ [] := by
  obtain ⟨rest, hbytes⟩ := bytes_of_isAbsolute habs
  simp [hbytes]

theorem segments_of_isAbsolute {p : Path} (habs : p.isAbsolute) :
    ∃ rest, (∀ s ∈ rest, s.IsInner) ∧ p.segments = .root :: rest := by
  obtain ⟨rest, hbytes⟩ := bytes_of_isAbsolute habs
  refine ⟨Segment.inner rest, fun s hs => Segment.isInner_of_mem_inner hs, ?_⟩
  rw [segments, hbytes, Segment.ofBytes_slash_cons]

theorem isAbsolute_ofSegments_root (rest : List Segment) :
    (ofSegments (.root :: rest)).isAbsolute = true := by
  simp [isAbsolute, ofSegments, Segment.toBytes, Segment.spell]

theorem isAbsolute_clean {p : Path} (habs : p.isAbsolute) : p.clean.isAbsolute = true := by
  obtain ⟨rest, hrest, hsegments⟩ := segments_of_isAbsolute habs
  obtain ⟨names, -, hclean⟩ := Segment.clean_root_cons hrest
  rw [clean, hsegments, hclean]
  exact isAbsolute_ofSegments_root names

theorem root_not_mem_segments {p : Path} (habs : p.isAbsolute = false) : .root ∉ p.segments := by
  have hslash : p.bytes.head? ≠ some Segment.slash := of_decide_eq_false habs
  have hinner : .root ∉ Segment.inner p.bytes := fun hmem =>
    (Segment.isInner_of_mem_inner hmem).ne_root rfl
  rcases Segment.ofBytes_of_head_ne_slash hslash with hbytes | hbytes <;>
    simp [segments, hbytes, hinner]

theorem not_isAbsolute_ofSegments {segments : List Segment} (hwell : Segment.WellFormed segments)
    (hroot : .root ∉ segments) : (ofSegments segments).isAbsolute = false := by
  by_contra habs
  rw [Bool.not_eq_false] at habs
  obtain ⟨rest, -, hsegments⟩ := segments_of_isAbsolute habs
  rw [segments_ofSegments hwell] at hsegments
  exact hroot (by simp [hsegments])

theorem not_isAbsolute_of_isInner {segments : List Segment}
    (hinner : ∀ s ∈ segments, s.IsInner) : (ofSegments segments).isAbsolute = false :=
  not_isAbsolute_ofSegments (Segment.wellFormed_of_isInner hinner) fun hroot =>
    (hinner .root hroot).ne_root rfl

theorem isAbsolute_clean_eq (p : Path) : p.clean.isAbsolute = p.isAbsolute := by
  cases habs : p.isAbsolute with
  | true => exact isAbsolute_clean habs
  | false =>
      exact not_isAbsolute_ofSegments (Segment.resolved_clean p.wellFormed_segments).wellFormed
        (Segment.root_not_mem_clean (root_not_mem_segments habs))

/-- An absolute path is seen as itself from everywhere. -/
theorem join_of_isAbsolute (p : Path) {q : Path} (hq : q.isAbsolute) : p.join q = q :=
  if_pos hq

theorem isAbsolute_join {p : Path} (habs : p.isAbsolute) (q : Path) :
    (p.join q).isAbsolute = true := by
  obtain ⟨rest, hbytes⟩ := bytes_of_isAbsolute habs
  unfold join
  split_ifs with hq
  · exact hq
  · obtain ⟨last, hlast⟩ : ∃ last, p.bytes.getLast? = some last := by
      rw [hbytes]
      exact ⟨_, List.getLast?_eq_some_getLast (by simp)⟩
    simp only [hlast]
    split_ifs <;> simp [isAbsolute, hbytes]

/-- What a relative path adds to the segments of a path. -/
theorem segments_join {p q : Path} (hp : p.bytes ≠ []) (hq : q.isAbsolute = false) :
    (p.join q).segments = p.segments ++ Segment.inner q.bytes := by
  have hlast : p.bytes.getLast? = some (p.bytes.getLast hp) := List.getLast?_eq_some_getLast hp
  simp only [join, hq, Bool.false_eq_true, if_false, hlast]
  split_ifs with hslash
  · -- the slash that separates the two is the last byte of `p`
    have hinit : p.bytes = p.bytes.dropLast ++ [Segment.slash] := by
      conv_lhs => rw [← List.dropLast_concat_getLast hp, hslash]
    have hbytes : p.bytes ++ q.bytes = p.bytes.dropLast ++ Segment.slash :: q.bytes := by
      rw [List.append_cons, ← hinit]
    simp only [segments, hbytes]
    rw [hinit, List.dropLast_concat]
    by_cases hempty : p.bytes.dropLast = []
    · rw [hempty]
      simp [Segment.ofBytes_slash_cons]
    · rw [Segment.ofBytes_append_slash hempty, Segment.ofBytes_append_slash hempty]
      simp
  · exact Segment.ofBytes_append_slash hp _

theorem segments_join_ofSegments {p : Path} (hp : p.bytes ≠ []) {segments : List Segment}
    (hinner : ∀ s ∈ segments, s.IsInner) :
    (p.join (ofSegments segments)).segments = p.segments ++ segments := by
  rw [segments_join hp (not_isAbsolute_of_isInner hinner), ofSegments,
    Segment.inner_toBytes hinner]

/-- Without a `..` there is nothing to resolve. -/
theorem clean_segments_of_no_up {p : Path} (habs : p.isAbsolute) (hup : .up ∉ p.segments) :
    Segment.clean p.segments = p.segments := by
  obtain ⟨rest, hrest, hsegments⟩ := segments_of_isAbsolute habs
  rw [hsegments] at hup ⊢
  refine Segment.clean_eq_of_resolved (Segment.Resolved.rooted fun s hs => ?_)
  exact (hrest s hs).resolve_left fun h => hup (h ▸ List.mem_cons_of_mem _ hs)

/-! ## Cleaning what is seen from a path -/

theorem not_isAbsolute_join {p q : Path} (hp : p.isAbsolute = false) (hq : q.isAbsolute = false) :
    (p.join q).isAbsolute = false := by
  have hslash : p.bytes.head? ≠ some Segment.slash := of_decide_eq_false hp
  cases hbytes : p.bytes with
  | nil => simp [join, hq, hbytes]
  | cons first rest =>
      have hjoin : ∃ behind, (p.join q).bytes = first :: behind := by
        obtain ⟨last, hlast⟩ : ∃ last, p.bytes.getLast? = some last := by
          rw [hbytes]
          exact ⟨_, List.getLast?_eq_some_getLast (by simp)⟩
        simp only [join, hq, hlast, Bool.false_eq_true, if_false]
        split_ifs <;> simp [hbytes]
      obtain ⟨behind, hjoin⟩ := hjoin
      simpa [isAbsolute, hjoin, hbytes] using hslash

/-- A path that is seen from another is resolved on top of the other. -/
theorem foldl_segments_join (p : Path) {q : Path} (hq : q.isAbsolute = false)
    (done : List Segment) :
    (p.join q).segments.foldl Segment.resolve done =
      q.segments.foldl Segment.resolve (p.segments.foldl Segment.resolve done) := by
  by_cases hp : p.bytes = []
  · have hjoin : p.join q = q := by simp [join, hq, hp]
    have hsegments : p.segments = [] := by rw [segments, hp]; rfl
    rw [hjoin, hsegments, List.foldl_nil]
  · rw [segments_join hp hq, List.foldl_append, Segment.foldl_resolve_inner (of_decide_eq_false hq)]
    rfl

theorem clean_eq_of_foldl {p q : Path}
    (hfold : p.segments.foldl Segment.resolve [] = q.segments.foldl Segment.resolve []) :
    p.clean = q.clean := by
  rw [clean, clean, Segment.clean, Segment.clean, hfold]

/-- What is seen from a path, cleaned, does not depend on how the path is spelled. -/
theorem clean_join_clean (p q : Path) : (p.clean.join q).clean = (p.join q).clean := by
  cases hq : q.isAbsolute with
  | true => rw [join_of_isAbsolute _ hq, join_of_isAbsolute _ hq]
  | false =>
      refine clean_eq_of_foldl ?_
      rw [foldl_segments_join _ hq, foldl_segments_join _ hq, segments_clean,
        Segment.foldl_resolve_clean]

/-- Nor does it depend on how that which is seen is spelled. -/
theorem clean_join_clean_right (p q : Path) : (p.join q.clean).clean = (p.join q).clean := by
  cases hq : q.isAbsolute with
  | true =>
      rw [join_of_isAbsolute _ hq, join_of_isAbsolute _ (isAbsolute_clean hq), clean_clean]
  | false =>
      have hclean : q.clean.isAbsolute = false := (isAbsolute_clean_eq q).trans hq
      refine clean_eq_of_foldl ?_
      rw [foldl_segments_join _ hq, foldl_segments_join _ hclean, segments_clean,
        Segment.foldl_resolve_clean]

/-- A path may be seen from another step by step. -/
theorem clean_join_join (p q r : Path) :
    ((p.join q).join r).clean = (p.join (q.join r)).clean := by
  cases hr : r.isAbsolute with
  | true => rw [join_of_isAbsolute _ hr, join_of_isAbsolute _ hr, join_of_isAbsolute _ hr]
  | false =>
      cases hq : q.isAbsolute with
      | true => rw [join_of_isAbsolute _ hq, join_of_isAbsolute _ (isAbsolute_join hq r)]
      | false =>
          refine clean_eq_of_foldl ?_
          rw [foldl_segments_join _ hr, foldl_segments_join _ hq,
            foldl_segments_join _ (not_isAbsolute_join hq hr), foldl_segments_join _ hr]

/-! ## Canonical paths -/

/-- Whether a path is absolute and clean. -/
structure Canonical (p : Path) : Prop where
  absolute : p.isAbsolute
  clean_eq : p.clean = p

theorem canonical_clean {p : Path} (habs : p.isAbsolute) : p.clean.Canonical :=
  ⟨isAbsolute_clean habs, p.clean_clean⟩

theorem Canonical.segments {p : Path} (hp : p.Canonical) :
    ∃ names, (∀ s ∈ names, s.IsName) ∧ p.segments = .root :: names := by
  obtain ⟨rest, hrest, hsegments⟩ := segments_of_isAbsolute hp.absolute
  obtain ⟨names, hnames, hclean⟩ := Segment.clean_root_cons hrest
  refine ⟨names, hnames, ?_⟩
  rw [← hp.clean_eq, segments_clean, hsegments, hclean]

/-- An absolute path other than the root lies in an absolute directory. -/
theorem exists_parent {p : Path} (habs : p.isAbsolute) (hroot : p.segments ≠ [.root]) :
    ∃ directory, p.parent = some directory ∧ directory.isAbsolute := by
  obtain ⟨rest, hinner, hsegments⟩ := segments_of_isAbsolute habs
  have hne : rest ≠ [] := by
    rintro rfl
    exact hroot hsegments
  obtain ⟨front, last, rfl⟩ : ∃ front last, rest = front ++ [last] :=
    ⟨rest.dropLast, rest.getLast hne, (List.dropLast_concat_getLast hne).symm⟩
  refine ⟨ofSegments (.root :: front), ?_, isAbsolute_ofSegments_root front⟩
  have hlast : last ≠ .root := (hinner last (by simp)).ne_root
  have hsplit : p.segments = (.root :: front) ++ [last] := by simp [hsegments]
  rw [Path.parent, hsplit, List.getLast?_concat, List.dropLast_concat]
  cases last with
  | root => exact absurd rfl hlast
  | here | up | name => rfl

/-- A canonical path other than the root lies in an absolute directory. -/
theorem Canonical.parent {p : Path} (hp : p.Canonical) (hroot : p ≠ "/") :
    ∃ directory, p.parent = some directory ∧ directory.isAbsolute := by
  refine exists_parent hp.absolute fun hsegments => hroot ?_
  rw [← ofSegments_segments hp.clean_eq, hsegments]
  rfl

/-- What is seen from the directory of a canonical file is a canonical path. -/
theorem Canonical.join_parent_clean {p : Path} (hp : p.Canonical) (hroot : p ≠ "/")
    (q : Path) : ((p.parent.getD "").join q).clean.Canonical := by
  obtain ⟨directory, hparent, habs⟩ := hp.parent hroot
  rw [hparent, Option.getD_some]
  exact canonical_clean (isAbsolute_join habs q)

end Path

end ModuleDiscovery
