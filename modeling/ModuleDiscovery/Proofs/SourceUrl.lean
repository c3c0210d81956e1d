import Mathlib.Data.List.Basic
import ModuleDiscovery.Proofs.Path.Shown
import ModuleDiscovery.Proofs.ScriptId
import ModuleDiscovery.Proofs.Script.Trivia
import ModuleDiscovery.Script.Source
import ModuleDiscovery.SourceUrl
import ModuleDiscovery.Specifier

/-!
# Stamps

A stamp should be a comment, so that a source means the same with it and without.  Between
`file://` and the end of the line stands a path, encoded segment by segment.  Encoding leaves
no line end, but a segment of one byte and a colon is not encoded, and that byte can be a
line end (`Path.BreaksLine`).  The comment then ends in the middle of the path.

## Main results

* `stamp_isComment_iff`: what a stamp adds to a source, and which paths keep it one comment.
* `stamp_breaks`: a source that can be parsed, and cannot with its stamp.
-/

namespace ModuleDiscovery

open Script (isLineEnd)

/-- Whether a segment of a path is a line end and a colon. -/
def Path.BreaksLine (p : Path) : Prop :=
  .name (Utf8.encode "\n:") ∈ p.segments ∨ .name (Utf8.encode "\r:") ∈ p.segments

instance (p : Path) : Decidable p.BreaksLine :=
  inferInstanceAs (Decidable (_ ∨ _))

namespace SourceUrl

variable {segment : List Char} {parts : List (List Char)} {path : Path} {c : Char}

/-! ## Encoded segments -/

/-- Whether a part of a path is a line end and a colon. -/
def BreaksLine (part : List Char) : Prop :=
  part = ['\n', ':'] ∨ part = ['\r', ':']

/-- Whether a given text has a line end can be computed. -/
theorem isLineEnd_of_mem_of_all {text : List Char} (hall : text.all (!isLineEnd ·)) :
    ∀ c ∈ text, isLineEnd c = false := by
  simpa using hall

theorem isLineEnd_of_mem_escapeByte {byte : UInt8} (hc : c ∈ escapeByte byte) :
    isLineEnd c = false := by
  have hdigit : ∀ n < 16, isLineEnd (Hex.upperDigit n) = false := by decide
  have hbyte : byte.toNat < 256 := byte.toNat_lt
  simp only [escapeByte, List.mem_cons, List.not_mem_nil, or_false] at hc
  rcases hc with rfl | rfl | rfl
  · decide
  · exact hdigit _ (by omega)
  · exact hdigit _ (by omega)

theorem isLineEnd_of_mem_encodeChar {d : Char} (hc : c ∈ encodeChar d) : isLineEnd c = false := by
  unfold encodeChar at hc
  split_ifs at hc with hunreserved
  · obtain rfl := List.mem_singleton.mp hc
    by_contra hend
    rw [Bool.not_eq_false, Script.isLineEnd_iff] at hend
    rcases hend with rfl | rfl | rfl | rfl <;> exact absurd hunreserved (by decide)
  · obtain ⟨byte, -, hbyte⟩ := List.mem_flatMap.mp hc
    exact isLineEnd_of_mem_escapeByte hbyte

theorem exists_eq_of_isDrive (hdrive : isDrive segment) :
    ∃ d : Char, segment = [d, ':'] ∧ d.utf8Size = 1 := by
  unfold isDrive at hdrive
  split at hdrive
  · exact ⟨_, rfl, by simpa using hdrive⟩
  · cases hdrive

/-- Only a part that is not encoded can hold a line end. -/
theorem isLineEnd_of_mem_encodeSegment (hwhole : ¬ BreaksLine segment)
    (hc : c ∈ encodeSegment segment) : isLineEnd c = false := by
  unfold encodeSegment at hc
  split_ifs at hc with hdrive
  · obtain ⟨d, rfl, hsize⟩ := exists_eq_of_isDrive hdrive
    by_contra hend
    rw [Bool.not_eq_false] at hend
    have hd : c = d := by
      rcases List.mem_pair.mp hc with rfl | rfl
      · rfl
      · exact absurd hend (by decide)
    subst hd
    -- the other two line ends take three bytes
    rcases Script.isLineEnd_iff.mp hend with rfl | rfl | rfl | rfl
    · exact hwhole (Or.inl rfl)
    · exact hwhole (Or.inr rfl)
    · exact absurd hsize (by decide)
    · exact absurd hsize (by decide)
  · obtain ⟨d, -, hd⟩ := List.mem_flatMap.mp hc
    exact isLineEnd_of_mem_encodeChar hd

theorem exists_encodeSegment_of_breaksLine (hbreaks : BreaksLine segment) :
    ∃ c, isLineEnd c ∧ encodeSegment segment = [c, ':'] := by
  rcases hbreaks with rfl | rfl
  · exact ⟨'\n', by decide, by decide⟩
  · exact ⟨'\r', by decide, by decide⟩

/-! ## Encoded paths -/

theorem isLineEnd_of_mem_intercalate (hparts : ∀ part ∈ parts, ¬ BreaksLine part)
    (hc : c ∈ ['/'].intercalate (parts.map encodeSegment)) : isLineEnd c = false := by
  rcases mem_intercalate hc with rfl | ⟨_, hencoded, hc⟩
  · decide
  · obtain ⟨part, hpart, rfl⟩ := List.mem_map.mp hencoded
    exact isLineEnd_of_mem_encodeSegment (hparts part hpart) hc

/-- The first line end is in front of a colon. -/
theorem exists_intercalate_of_breaksLine (hparts : ∃ part ∈ parts, BreaksLine part) :
    ∃ line c rest,
      ['/'].intercalate (parts.map encodeSegment) = line ++ c :: ':' :: rest ∧
      (∀ d ∈ line, isLineEnd d = false) ∧ isLineEnd c := by
  induction parts with
  | nil => simp at hparts
  | cons part parts ih =>
      rw [List.map_cons]
      -- a part that does not break the line belongs to what is in front of the line end
      by_cases hpart : BreaksLine part
      · obtain ⟨c, hend, hencode⟩ := exists_encodeSegment_of_breaksLine hpart
        obtain ⟨rest, hjoin⟩ :=
          exists_intercalate_cons (encodeSegment part) (parts.map encodeSegment)
        exact ⟨[], c, rest, by rw [hjoin, hencode]; rfl, by simp, hend⟩
      · have hrest : ∃ other ∈ parts, BreaksLine other := by simpa [hpart] using hparts
        have hne : parts.map encodeSegment ≠ [] := by
          obtain ⟨other, hother, -⟩ := hrest
          simpa using List.ne_nil_of_mem hother
        obtain ⟨line, c, rest, hjoin, hline, hend⟩ := ih hrest
        refine ⟨encodeSegment part ++ '/' :: line, c, rest, ?_, ?_, hend⟩
        · rw [intercalate_cons hne, hjoin]
          simp
        · have hfront : ∀ d ∈ encodeSegment part, isLineEnd d = false := fun d hd =>
            isLineEnd_of_mem_encodeSegment hpart hd
          exact List.forall_mem_append.mpr
            ⟨hfront, List.forall_mem_cons.mpr ⟨by decide, hline⟩⟩

/-- The parts that are encoded show the segments of the path. -/
theorem exists_breaksLine_iff :
    (∃ part ∈ path.slashed.toList.splitOn '/', BreaksLine part) ↔ path.BreaksLine := by
  have hpart : ∀ text : String, (Segment.name (Utf8.encode text)).IsName →
      '\uFFFD' ∉ text.toList → text.toList ≠ [] →
        (text.toList ∈ path.slashed.toList.splitOn '/' ↔
          .name (Utf8.encode text) ∈ path.segments) := by
    intro text hname hmarks hne
    rw [path.toList_slashed, Segment.mem_splitOn_toChars path.wellFormed_segments hne]
    have hshown : ∀ s : Segment, s.shown = text.toList ↔ s = .name (Utf8.encode text) := fun s =>
      (Segment.shown_eq_iff hmarks).trans (Segment.toPart_eq_iff hname)
    simp only [hshown, exists_eq_right]
  have hline : ['\n', ':'] ∈ path.slashed.toList.splitOn '/' ↔
      .name (Utf8.encode "\n:") ∈ path.segments :=
    hpart "\n:" (by decide) (by decide) (by decide)
  have hreturn : ['\r', ':'] ∈ path.slashed.toList.splitOn '/' ↔
      .name (Utf8.encode "\r:") ∈ path.segments :=
    hpart "\r:" (by decide) (by decide) (by decide)
  simp only [BreaksLine, Path.BreaksLine, and_or_left, exists_or, exists_eq_right, hline, hreturn]

/-! ## Locators -/

theorem exists_locator_eq (hfile : path.isScriptId = false) :
    ∃ front, (∀ c ∈ front, isLineEnd c = false) ∧
      (locator path).toList = front ++ encodePath path := by
  unfold locator
  rw [hfile]
  simp only [Bool.false_eq_true, if_false]
  split_ifs
  · exact ⟨"file://".toList, isLineEnd_of_mem_of_all (by decide), by simp⟩
  · exact ⟨"file:///".toList, isLineEnd_of_mem_of_all (by decide), by simp⟩

theorem isLineEnd_of_isScriptId (hscript : path.isScriptId) :
    ∀ c ∈ path.text.toList, isLineEnd c = false := by
  obtain ⟨n, hparse⟩ := Option.isSome_iff_exists.mp (Path.isSome_parse?_text_iff.mpr hscript)
  obtain ⟨digits, htext, hread⟩ := ScriptId.parse?_eq_some_iff.mp hparse
  intro c hc
  rw [htext, List.mem_append, List.mem_append] at hc
  rcases hc with (hc | hc) | hc
  · exact isLineEnd_of_mem_of_all (by decide) c hc
  · by_contra hend
    rw [Bool.not_eq_false, Script.isLineEnd_iff] at hend
    rcases Whole.plus_or_isDigit_of_parse? hread c hc with rfl | hdigit
    · simp at hend
    · rcases hend with rfl | rfl | rfl | rfl <;> exact absurd hdigit (by decide)
  · exact isLineEnd_of_mem_of_all (by decide) c hc

theorem not_breaksLine_of_isScriptId (hscript : path.isScriptId) : ¬ path.BreaksLine := by
  obtain ⟨⟨rest, hbytes⟩, -⟩ := Path.bytes_of_isScriptId hscript
  rw [Path.BreaksLine, Path.segments_of_isScriptId hscript, List.mem_singleton, List.mem_singleton,
    Segment.name.injEq, Segment.name.injEq, hbytes]
  rintro (hline | hreturn)
  · exact absurd (List.cons.inj hline).1 (by decide)
  · exact absurd (List.cons.inj hreturn).1 (by decide)

theorem isLineEnd_of_mem_locator (hwhole : ¬ path.BreaksLine) :
    ∀ c ∈ (locator path).toList, isLineEnd c = false := by
  cases hscript : path.isScriptId with
  | true =>
      have hlocator : locator path = path.text := if_pos hscript
      rw [hlocator]
      exact isLineEnd_of_isScriptId hscript
  | false =>
      obtain ⟨front, hfront, hlocator⟩ := exists_locator_eq hscript
      rw [← exists_breaksLine_iff] at hwhole
      push Not at hwhole
      intro c hc
      rw [hlocator, List.mem_append] at hc
      rcases hc with hc | hc
      · exact hfront c hc
      · exact isLineEnd_of_mem_intercalate hwhole hc

theorem exists_locator_of_breaksLine (hbreaks : path.BreaksLine) :
    ∃ line c rest, (locator path).toList = line ++ c :: ':' :: rest ∧
      (∀ d ∈ line, isLineEnd d = false) ∧ isLineEnd c := by
  have hfile : path.isScriptId = false := by
    by_contra hscript
    exact not_breaksLine_of_isScriptId (by simpa using hscript) hbreaks
  obtain ⟨front, hfront, hlocator⟩ := exists_locator_eq hfile
  obtain ⟨line, c, rest, hjoin, hline, hend⟩ :=
    exists_intercalate_of_breaksLine (exists_breaksLine_iff.mpr hbreaks)
  refine ⟨front ++ line, c, rest, ?_, List.forall_mem_append.mpr ⟨hfront, hline⟩, hend⟩
  rw [hlocator, encodePath, hjoin, List.append_assoc]

/-! ## Stamped sources -/

/-- Whether a parser finds the same specifiers when a comment on a line of its own is put
behind a source. -/
def IgnoresCommentLine (parser : SpecifierParser) : Prop :=
  ∀ mode code line specifiers, (∀ c ∈ String.toList line, isLineEnd c = false) →
    parser code mode = .ok specifiers →
      parser (code ++ "\n//" ++ line ++ "\n") mode = .ok specifiers

/-- The text of the comment that a stamp is. -/
def comment (path : Path) : String :=
  "# sourceURL=" ++ locator path

theorem marker_append (path : Path) : marker ++ locator path = "//" ++ comment path := by
  simp [marker, comment, String.ext_iff]

theorem stamp_eq {code : String} (hplain : isStamped code = false) (path : Path) :
    stamp code (locator path) = code ++ "\n//" ++ comment path ++ "\n" := by
  simp [stamp, hplain, marker, comment, String.ext_iff]

theorem isLineEnd_of_mem_comment (hwhole : ¬ path.BreaksLine) :
    ∀ c ∈ (comment path).toList, isLineEnd c = false := by
  rw [comment, String.toList_append]
  exact List.forall_mem_append.mpr
    ⟨isLineEnd_of_mem_of_all (by decide), isLineEnd_of_mem_locator hwhole⟩

theorem exists_comment_of_breaksLine (hbreaks : path.BreaksLine) :
    ∃ line c rest, (comment path).toList = line ++ c :: ':' :: rest ∧
      (∀ d ∈ line, isLineEnd d = false) ∧ isLineEnd c := by
  obtain ⟨line, c, rest, hlocator, hline, hend⟩ := exists_locator_of_breaksLine hbreaks
  refine ⟨"# sourceURL=".toList ++ line, c, rest, ?_,
    List.forall_mem_append.mpr ⟨isLineEnd_of_mem_of_all (by decide), hline⟩, hend⟩
  rw [comment, String.toList_append, hlocator, List.append_assoc]

theorem comment_isLine_iff :
    (∀ c ∈ (marker ++ locator path).toList, isLineEnd c = false) ↔ ¬ path.BreaksLine := by
  rw [marker_append, String.toList_append]
  constructor
  · intro hline hbreaks
    obtain ⟨line, c, rest, hcomment, -, hend⟩ := exists_comment_of_breaksLine hbreaks
    have hc : isLineEnd c = false := hline c (by simp [hcomment])
    rw [hc] at hend
    cases hend
  · intro hwhole
    exact List.forall_mem_append.mpr
      ⟨isLineEnd_of_mem_of_all (by decide), isLineEnd_of_mem_comment hwhole⟩

theorem passes_stamp_iff {dialect : Script.Trivia.Dialect} :
    Script.Trivia.Passes dialect ("\n" ++ (marker ++ locator path) ++ "\n").toList ↔
      ¬ path.BreaksLine := by
  have htext : ("\n" ++ (marker ++ locator path) ++ "\n").toList =
      '\n' :: '/' :: '/' :: ((comment path).toList ++ ['\n']) := by
    simp [marker_append]
  rw [htext]
  constructor
  · intro hpasses hbreaks
    obtain ⟨line, c, rest, hcomment, hline, hend⟩ := exists_comment_of_breaksLine hbreaks
    have hbroken : (comment path).toList ++ ['\n'] = line ++ c :: ':' :: (rest ++ ['\n']) := by
      simp [hcomment]
    rw [hbroken] at hpasses
    exact Script.Trivia.not_passes_brokenLine hline hend _ hpasses
  · intro hwhole
    exact Script.Trivia.passes_commentLine (isLineEnd_of_mem_comment hwhole)

/-- A stamp is one comment on a line of its own exactly when no segment of the path is a line
end and a colon.  It then separates tokens in every dialect of comments, and a source that a
parser reads is read as before. -/
theorem stamp_isComment_iff (path : Path) {code : String} (hplain : isStamped code = false) :
    stamp code (locator path) = code ++ "\n" ++ (marker ++ locator path) ++ "\n" ∧
      ((∀ c ∈ (marker ++ locator path).toList, isLineEnd c = false) ↔ ¬ path.BreaksLine) ∧
      (∀ dialect,
        Script.Trivia.Passes dialect ("\n" ++ (marker ++ locator path) ++ "\n").toList ↔
          ¬ path.BreaksLine) ∧
      (¬ path.BreaksLine → ∀ parser, IgnoresCommentLine parser → ∀ mode specifiers,
        parser code mode = .ok specifiers →
          parser (stamp code (locator path)) mode = .ok specifiers) := by
  refine ⟨?_, comment_isLine_iff, fun _ => passes_stamp_iff, ?_⟩
  · simp [stamp, hplain, String.append_assoc]
  · intro hwhole parser hparser mode specifiers hok
    rw [stamp_eq hplain]
    exact hparser mode code _ specifiers (isLineEnd_of_mem_comment hwhole) hok

/-- A parser of sources that are nothing but comments on lines of their own; the others it
refuses. -/
def parseComments : SpecifierParser := fun source _ =>
  if (source.toList.splitOn '\n').all fun line => line.isEmpty || "//".toList.isPrefixOf line then
    .ok []
  else .error ⟨"unexpected token", none⟩

theorem ignoresCommentLine_parseComments : IgnoresCommentLine parseComments := by
  intro mode code line specifiers hline hok
  have hline : '\n' ∉ '/' :: '/' :: line.toList := by
    have hnot : '\n' ∉ line.toList := fun hmem => absurd (hline '\n' hmem) (by decide)
    simpa using hnot
  -- two more lines: the comment, and the empty one behind its line end
  have hsplit : (code ++ "\n//" ++ line ++ "\n").toList.splitOn '\n' =
      code.toList.splitOn '\n' ++ ['/' :: '/' :: line.toList, []] := by
    have htext : (code ++ "\n//" ++ line ++ "\n").toList =
        code.toList ++ '\n' :: ('/' :: '/' :: line.toList ++ '\n' :: []) := by
      simp
    rw [htext, List.splitOn_append_cons_self, List.splitOn_append_cons_self_of_not_mem hline,
      List.splitOn_nil]
  unfold parseComments at hok ⊢
  split_ifs at hok with hall
  rw [hsplit, List.all_append, hall, ← hok]
  rfl

/-- A drive letter and a blank in the path, and a comment as the source. -/
theorem stamp_isComment_iff_drive :
    isStamped "// nothing" = false ∧ ¬ Path.BreaksLine "/w/C:/a b.mjs" ∧
      stamp "// nothing" (locator "/w/C:/a b.mjs") =
        "// nothing\n//# sourceURL=file:///w/C:/a%20b.mjs\n" ∧
      parseComments "// nothing" .module = .ok [] ∧
      parseComments (stamp "// nothing" (locator "/w/C:/a b.mjs")) .module = .ok [] := by
  have hplain : isStamped "// nothing" = false := by decide
  have hwhole : ¬ Path.BreaksLine "/w/C:/a b.mjs" := by decide
  have hok : parseComments "// nothing" .module = .ok [] := by decide +kernel
  obtain ⟨-, -, -, hparse⟩ := stamp_isComment_iff "/w/C:/a b.mjs" hplain
  exact ⟨hplain, hwhole, by decide +kernel, hok,
    hparse hwhole parseComments ignoresCommentLine_parseComments .module [] hok⟩

/-- The name of the directory ends the comment, and the rest of the path is read as JavaScript. -/
theorem stamp_breaks :
    Path.isAbsolute "/w/\n:/a.mjs" ∧ isStamped "export \x7b\x7d" = false ∧
      stamp "export \x7b\x7d" (locator "/w/\n:/a.mjs") =
        "export \x7b\x7d\n//# sourceURL=file:///w/\n:/a.mjs\n" ∧
      Script.parse "export \x7b\x7d" .module = .ok [] ∧
      Script.parse (stamp "export \x7b\x7d" (locator "/w/\n:/a.mjs")) .module =
        .error ⟨"unexpected token", some ⟨3, 1⟩⟩ := by
  refine ⟨by decide, by decide, by decide +kernel, by decide +kernel, by decide +kernel⟩

end SourceUrl

end ModuleDiscovery
