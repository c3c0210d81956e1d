import Mathlib.Data.List.Basic
import ModuleDiscovery.Proofs.ModuleName

/-!
# Module names are shortest ways

The name of a file climbs from the root to the last directory that the two have in common,
and descends from there.  `Path.moduleName_shortest` says that of every absolute root and
every spelling of the file, and that no relative path with fewer segments leads there.

## Strategy

Directories form a tree.  `Segment.distance` counts the edges between two of them, up to the
directory they share and down again.  Resolving one segment moves along one edge at most
(`distance_le_resolve`), so a relative path has as many segments as there are edges between
its ends, or more (`distance_le_length`).  The name has exactly as many.
-/

namespace ModuleDiscovery

namespace Segment

variable {base target names : List Segment} {segment : Segment}

/-! ## The longest shared front -/

theorem commonLength_le_left (base target : List Segment) :
    commonLength base target ≤ base.length := by
  induction base generalizing target with
  | nil => simp [commonLength]
  | cons a base ih =>
      cases target with
      | nil => simp [commonLength]
      | cons b target =>
          have hrest := ih target
          simp only [commonLength, List.length_cons]
          split_ifs <;> omega

theorem commonLength_le_right (base target : List Segment) :
    commonLength base target ≤ target.length := by
  have hfront := congrArg List.length (take_commonLength base target)
  have hle := commonLength_le_left base target
  simp only [List.length_take] at hfront
  omega

/-- The fronts that two lists share are those that are no longer than `commonLength`. -/
theorem le_commonLength_iff {n : ℕ} :
    n ≤ commonLength base target ↔
      n ≤ base.length ∧ n ≤ target.length ∧ base.take n = target.take n := by
  constructor
  · intro hn
    refine ⟨Nat.le_trans hn (commonLength_le_left base target),
      Nat.le_trans hn (commonLength_le_right base target), ?_⟩
    -- both are fronts of the longest shared one
    have hfront := congrArg (List.take n) (take_commonLength base target)
    rwa [List.take_take, List.take_take, Nat.min_eq_left hn] at hfront
  · rintro ⟨hbase, htarget, htake⟩
    induction n generalizing base target with
    | zero => exact Nat.zero_le _
    | succ n ih =>
        cases base with
        | nil => simp at hbase
        | cons a base =>
            cases target with
            | nil => simp at htarget
            | cons b target =>
                simp only [List.length_cons, Nat.add_le_add_iff_right] at hbase htarget
                simp only [List.take_succ_cons, List.cons.injEq] at htake
                rw [commonLength, if_pos htake.1]
                exact Nat.succ_le_succ (ih hbase htarget htake.2)

theorem prefix_iff_commonLength_eq :
    base <+: target ↔ commonLength base target = base.length := by
  constructor
  · rintro ⟨rest, rfl⟩
    exact commonLength_append base rest
  · intro hall
    have hfront := take_commonLength base target
    rw [hall, List.take_length] at hfront
    rw [hfront]
    exact List.take_prefix _ _

/-- One more segment makes the shared front at most one longer. -/
theorem commonLength_concat (base target : List Segment) (segment : Segment) :
    commonLength base target ≤ commonLength (base ++ [segment]) target ∧
      commonLength (base ++ [segment]) target ≤ commonLength base target + 1 := by
  induction base generalizing target with
  | nil =>
      cases target with
      | nil => simp [commonLength]
      | cons b target =>
          simp only [commonLength, List.nil_append]
          split_ifs <;> omega
  | cons a base ih =>
      cases target with
      | nil => simp [commonLength]
      | cons b target =>
          have hrest := ih target
          simp only [commonLength, List.cons_append]
          split_ifs <;> omega

/-! ## The distance of two directories -/

/-- The number of steps from `base` up to the directory it shares with `target` and down to
`target`. -/
def distance (base target : List Segment) : ℕ :=
  (base.length - commonLength base target) + (target.length - commonLength base target)

theorem distance_self (base : List Segment) : distance base base = 0 := by
  have hself := commonLength_append base []
  rw [List.append_nil] at hself
  rw [distance, hself]
  omega

theorem distance_concat (base target : List Segment) (segment : Segment) :
    distance base target ≤ distance (base ++ [segment]) target + 1 ∧
      distance (base ++ [segment]) target ≤ distance base target + 1 := by
  have hconcat := commonLength_concat base target segment
  have hbase := commonLength_le_left base target
  have htarget := commonLength_le_right (base ++ [segment]) target
  unfold distance
  rw [List.length_append, List.length_singleton]
  omega

/-- A segment moves along one edge at most. -/
theorem distance_le_resolve {done : List Segment} (hdone : NamesOn [root] done)
    (hsegment : segment.IsInner) (target : List Segment) :
    distance done.reverse target ≤ distance (resolve done segment).reverse target + 1 := by
  obtain ⟨names, hnames, rfl⟩ := hdone
  rcases hsegment with rfl | hname
  · cases names with
    | nil =>
        -- at the root a `..` leads nowhere
        have hstay : resolve ([] ++ [root]) up = [root] := rfl
        rw [hstay]
        exact Nat.le_succ _
    | cons first rest =>
        obtain ⟨text, rfl⟩ := (hnames first List.mem_cons_self).exists_eq
        have htake : resolve (name text :: rest ++ [root]) up = rest ++ [root] := rfl
        rw [htake, List.cons_append, List.reverse_cons]
        exact (distance_concat _ target _).2
  · obtain ⟨text, rfl⟩ := hname.exists_eq
    have hpush : resolve (names ++ [root]) (name text) = name text :: (names ++ [root]) := rfl
    rw [hpush, List.reverse_cons]
    exact (distance_concat _ target _).1

theorem distance_le_foldl {segments done : List Segment} (hinner : ∀ s ∈ segments, s.IsInner)
    (hdone : NamesOn [root] done) (target : List Segment) :
    distance done.reverse target ≤
      distance (segments.foldl resolve done).reverse target + segments.length := by
  induction segments generalizing done with
  | nil => exact Nat.le_refl _
  | cons segment rest ih =>
      rw [List.forall_mem_cons] at hinner
      have hone : ∀ s ∈ [segment], s.IsInner := by simpa using hinner.1
      have hnext : NamesOn [root] (resolve done segment) := foldl_resolve_rooted hone hdone
      have hstep := distance_le_resolve hdone hinner.1 target
      have hrest := ih hinner.2 hnext
      rw [List.foldl_cons, List.length_cons]
      omega

/-- A relative path is at least as long as its ends are apart. -/
theorem distance_le_length (hnames : ∀ s ∈ names, s.IsName) {way : List Segment}
    (hway : ∀ s ∈ way, s.IsInner) (hclean : clean (root :: names ++ way) = target) :
    distance (root :: names) target ≤ way.length := by
  have hstart : NamesOn [root] (names.reverse ++ [root]) :=
    ⟨names.reverse, by simpa using hnames, rfl⟩
  have hends : ((way.foldl resolve (names.reverse ++ [root])).reverse) = target := by
    have hroot : resolve [] root = [root] := rfl
    obtain ⟨last, -, hlast⟩ := foldl_resolve_rooted hway hstart
    rw [← hclean, clean, List.cons_append, List.foldl_cons, hroot, List.foldl_append,
      foldl_resolve_names hnames, hlast, List.reverse_append]
    rfl
  have hle := distance_le_foldl hway hstart target
  rwa [hends, distance_self, Nat.zero_add, List.reverse_append, List.reverse_reverse] at hle

theorem relative_eq (base : List Segment) (htarget : ∀ s ∈ target, s.IsName) :
    relative (root :: base) (root :: target) =
      List.replicate ((root :: base).length - commonLength (root :: base) (root :: target)) up ++
        (root :: target).drop (commonLength (root :: base) (root :: target)) := by
  rw [relative_rooted base htarget, commonLength, if_pos rfl]
  simp

/-- The way climbs exactly when it has to leave the directory that it starts from. -/
theorem head?_relative_eq_up_iff (base : List Segment) (htarget : ∀ s ∈ target, s.IsName) :
    (relative (root :: base) (root :: target)).head? = some up ↔
      ¬ (root :: base) <+: (root :: target) := by
  have hunder : (root :: base) <+: (root :: target) ↔ commonLength base target = base.length := by
    rw [List.cons_prefix_cons, prefix_iff_commonLength_eq]
    exact and_iff_right rfl
  have hle := commonLength_le_left base target
  rw [relative_rooted base htarget, hunder]
  constructor
  · intro hhead hall
    rw [hall, Nat.sub_self, List.replicate_zero, List.nil_append] at hhead
    have hup : up ∈ target := List.mem_of_mem_drop (List.mem_of_mem_head? hhead)
    exact htarget up hup
  · intro hshort
    obtain ⟨more, hmore⟩ : ∃ more, base.length - commonLength base target = more + 1 :=
      ⟨base.length - commonLength base target - 1, by omega⟩
    rw [hmore, List.replicate_succ]
    rfl

/-- A name takes a way that is as long as its ends are apart. -/
theorem length_relative (base : List Segment) (htarget : ∀ s ∈ target, s.IsName) :
    (relative (root :: base) (root :: target)).length =
      distance (root :: base) (root :: target) := by
  rw [relative_eq base htarget, distance]
  simp

theorem length_inner_le (bytes : Bytes) : (inner bytes).length ≤ (ofBytes bytes).length := by
  obtain ⟨part, parts, hsplit⟩ := List.exists_cons_of_ne_nil (List.splitOn_ne_nil slash bytes)
  simp only [inner, ofBytes, hsplit, List.filterMap_cons, List.length_append]
  -- the front of a path has a segment wherever it would have one behind a slash
  by_cases hpart : part = [] ∨ part = [dot]
  · simp [ofPart?, hpart]
  · rw [not_or] at hpart
    rw [if_neg hpart.1, if_neg hpart.2]
    cases ofPart? part <;> simp [Nat.add_comm]

theorem head?_map_legible_eq_up_iff (segments : List Segment) :
    (segments.map legible).head? = some up ↔ segments.head? = some up := by
  cases segments with
  | nil => rfl
  | cons segment rest => cases segment <;> simp [legible]

end Segment

namespace Path

variable {root p q : Path}

theorem segments_moduleName (hroot : root.isAbsolute) (hp : p.isAbsolute) :
    (ofText (moduleName root p)).segments =
      (Segment.relative root.clean.segments p.clean.segments).map Segment.legible := by
  obtain ⟨names, -, hbase⟩ := (canonical_clean hroot).segments
  obtain ⟨files, hfiles, htarget⟩ := (canonical_clean hp).segments
  rw [ofText_moduleName root hp, hbase, htarget]
  exact segments_ofSegments (Segment.wellFormed_of_isInner (List.forall_mem_map.mpr fun s hs =>
    Segment.isInner_legible (Segment.isInner_of_mem_relative names hfiles s hs)))

/-- A name has as many segments as there are steps from the root to the file. -/
theorem length_segments_moduleName (hroot : root.isAbsolute) (hp : p.isAbsolute) :
    (ofText (moduleName root p)).segments.length =
      Segment.distance root.clean.segments p.clean.segments := by
  obtain ⟨names, -, hbase⟩ := (canonical_clean hroot).segments
  obtain ⟨files, hfiles, htarget⟩ := (canonical_clean hp).segments
  rw [segments_moduleName hroot hp, List.length_map, hbase, htarget,
    Segment.length_relative names hfiles]

/-- A name goes up from what the file does not share with the root, and down to the file. -/
theorem toList_moduleName (hroot : root.isAbsolute) (hp : p.isAbsolute) :
    (moduleName root p).toList = ['/'].intercalate
      (List.replicate (root.clean.segments.length - p.sharedWith root) ['.', '.'] ++
        (p.clean.segments.drop (p.sharedWith root)).map Segment.shown) := by
  obtain ⟨names, -, hbase⟩ := (canonical_clean hroot).segments
  obtain ⟨files, hfiles, htarget⟩ := (canonical_clean hp).segments
  have hup : Segment.up.shown = ['.', '.'] := by decide
  have hinner := Segment.isInner_of_mem_relative names hfiles
  rw [moduleName_of_isAbsolute root hp, String.toList_ofList, Segment.toChars, sharedWith, hbase,
    htarget, Segment.spell_of_isInner hinner, Segment.relative_eq names hfiles, List.map_append,
    List.map_replicate, hup]

/-- Files that lie equally deep and have one name share as much with the root. -/
theorem sharedWith_eq_of_moduleName_eq (hroot : root.isAbsolute) (hp : p.isAbsolute)
    (hq : q.isAbsolute) (hdepth : p.clean.segments.length = q.clean.segments.length)
    (hname : moduleName root p = moduleName root q) : p.sharedWith root = q.sharedWith root := by
  have hsteps : Segment.distance root.clean.segments p.clean.segments =
      Segment.distance root.clean.segments q.clean.segments := by
    rw [← length_segments_moduleName hroot hp, hname, length_segments_moduleName hroot hq]
  have hbase := Segment.commonLength_le_left root.clean.segments
  have htarget := Segment.commonLength_le_right root.clean.segments
  have hp := And.intro (hbase p.clean.segments) (htarget p.clean.segments)
  have hq := And.intro (hbase q.clean.segments) (htarget q.clean.segments)
  unfold Segment.distance at hsteps
  unfold sharedWith
  omega

/-- What is shown of a file goes by the name of the file exactly if it shares as much with the
root. -/
theorem moduleName_shownFrom_eq_iff (hroot : root.isAbsolute) (hp : p.isAbsolute) :
    moduleName root (p.shownFrom root) = moduleName root p ↔
      (p.shownFrom root).sharedWith root = p.sharedWith root := by
  have hcanonical := canonical_shownFrom hp root
  have hshown : (p.shownFrom root).clean.segments = p.clean.segments.take (p.sharedWith root) ++
      (p.clean.segments.drop (p.sharedWith root)).map Segment.legible := by
    rw [hcanonical.clean_eq, (segments_shownFrom hp root).2]
  have htake : (p.clean.segments.take (p.sharedWith root)).length = p.sharedWith root :=
    List.length_take_of_le (Segment.commonLength_le_right _ _)
  constructor
  · intro hname
    refine sharedWith_eq_of_moduleName_eq hroot hcanonical.absolute hp ?_ hname
    calc (p.shownFrom root).clean.segments.length
        = (p.clean.segments.take (p.sharedWith root) ++
            p.clean.segments.drop (p.sharedWith root)).length := by
          rw [hshown, List.length_append, List.length_map, List.length_append]
      _ = p.clean.segments.length := by rw [List.take_append_drop]
  · intro hshared
    have hdown : ((p.shownFrom root).clean.segments.drop (p.sharedWith root)).map Segment.shown =
        (p.clean.segments.drop (p.sharedWith root)).map Segment.shown := by
      rw [hshown, List.drop_left' htake, List.map_map]
      exact List.map_congr_left fun s _ => Segment.shown_legible s
    rw [← String.toList_inj, toList_moduleName hroot hcanonical.absolute,
      toList_moduleName hroot hp, hshared, hdown]

/-- A relative path from the root to the file is no shorter than the name. -/
theorem length_segments_moduleName_le (hroot : root.isAbsolute) (hp : p.isAbsolute)
    (hq : q.isAbsolute = false) (hleads : (root.clean.join q).clean = p.clean) :
    (ofText (moduleName root p)).segments.length ≤ q.segments.length := by
  have hcanonical := canonical_clean hroot
  obtain ⟨names, hnames, hbase⟩ := hcanonical.segments
  obtain ⟨files, hfiles, htarget⟩ := (canonical_clean hp).segments
  have hclean : Segment.clean (.root :: names ++ Segment.inner q.bytes) = .root :: files := by
    rw [← htarget, ← hleads, segments_clean,
      segments_join (bytes_ne_nil_of_isAbsolute hcanonical.absolute) hq, hbase]
  have hapart := Segment.distance_le_length hnames
    (fun s hs => Segment.isInner_of_mem_inner hs) hclean
  have hdots := Segment.length_inner_le q.bytes
  rw [length_segments_moduleName hroot hp, hbase, htarget]
  exact Nat.le_trans hapart hdots

/-- Under an absolute root, an absolute path is named by the way from the one to the other:
as many `..` as the root has segments behind the longest front that the two share once they
are clean, then what shows the segments of the path behind that front.  So the name starts
with a `..` exactly when the path is not under the root.  From the root it leads to what the
two share and what shows the rest, which is the path exactly if the rest is text, and no
relative path with fewer segments leads to the path. -/
theorem moduleName_shortest (root p : Path) (hroot : root.isAbsolute) (hp : p.isAbsolute) :
    let base := root.clean.segments
    let target := p.clean.segments
    let shared := Segment.commonLength base target
    let name : Path := ofText (moduleName root p)
    (∀ n, n ≤ shared ↔ n ≤ base.length ∧ n ≤ target.length ∧ base.take n = target.take n) ∧
      (moduleName root p).toList = ['/'].intercalate
        (List.replicate (base.length - shared) ['.', '.'] ++
          (target.drop shared).map Segment.shown) ∧
      (name.segments.head? = some .up ↔ ¬ base <+: target) ∧
      (root.clean.join name).clean =
        ofSegments (target.take shared ++ (target.drop shared).map Segment.legible) ∧
      ((root.clean.join name).clean = p.clean ↔ ∀ s ∈ target.drop shared, s.isText) ∧
      ∀ q : Path, q.isAbsolute = false → (root.clean.join q).clean = p.clean →
        name.segments.length ≤ q.segments.length := by
  intro base target shared name
  obtain ⟨names, -, hbase⟩ := (canonical_clean hroot).segments
  obtain ⟨files, hfiles, htarget⟩ := (canonical_clean hp).segments
  have hsegments : name.segments = (Segment.relative base target).map Segment.legible :=
    segments_moduleName hroot hp
  have hleads : (root.clean.join name).clean = p.shownFrom root := clean_join_moduleName root hp
  refine ⟨fun n => Segment.le_commonLength_iff, toList_moduleName hroot hp, ?_, hleads, ?_, ?_⟩
  · rw [hsegments, Segment.head?_map_legible_eq_up_iff]
    simp only [base, target, hbase, htarget]
    exact Segment.head?_relative_eq_up_iff names hfiles
  · rw [hleads, shownFrom_eq_iff hp, isTextFrom, List.all_eq_true]
    rfl
  · intro q hq hleads
    exact length_segments_moduleName_le hroot hp hq hleads

/-- The root and the file are spelled in roundabout ways, and the file is outside. -/
theorem moduleName_shortest_outside :
    moduleName "/w//src/." "/w/x/../lib/util.js/" = "../lib/util.js" ∧
      ((Path.clean "/w//src/.").join (moduleName "/w//src/." "/w/x/../lib/util.js/")).clean =
        "/w/lib/util.js" ∧
      ∀ q : Path, q.isAbsolute = false →
        ((Path.clean "/w//src/.").join q).clean = "/w/lib/util.js" → 3 ≤ q.segments.length := by
  have hname : moduleName "/w//src/." "/w/x/../lib/util.js/" = "../lib/util.js" := by
    decide +kernel
  have hfile : Path.clean "/w/x/../lib/util.js/" = "/w/lib/util.js" := by decide +kernel
  obtain ⟨-, -, -, -, hleads, hshortest⟩ :=
    moduleName_shortest "/w//src/." "/w/x/../lib/util.js/" (by decide) (by decide)
  rw [hname, hfile] at hshortest
  rw [hfile] at hleads
  exact ⟨hname, hleads.mpr (by decide +kernel), hshortest⟩

/-- A file whose name is not text goes by the name of another file. -/
theorem moduleName_of_malformed :
    let p : Path := ⟨Utf8.encode "/w/" ++ 0xFF :: Utf8.encode ".mjs"⟩
    p.isAbsolute ∧ moduleName "/w" p = "\uFFFD.mjs" ∧
      ((Path.clean "/w").join (moduleName "/w" p)).clean = "/w/\uFFFD.mjs" ∧
      ((Path.clean "/w").join (moduleName "/w" p)).clean ≠ p.clean := by
  decide +kernel

end Path

end ModuleDiscovery
