import ModuleDiscovery.Proofs.SourceUrl
import ModuleDiscovery.Proofs.SourceUrl.Locator
import ModuleDiscovery.Proofs.Text.Utf8

/-!
# Locators can be read back

A URL is read by putting bytes in place of escapes (`percentDecode`).  What was encoded comes
back, one byte, character, segment and path at a time.  A segment that looks like a drive is
not encoded and may be a percent sign and a colon; a colon is no digit, so that percent sign
starts no escape, whatever follows the segment.  Therefore a locator tells which segments the
path has (`locator_identifies`), and as it starts like no script identifier, it is none.
-/

namespace ModuleDiscovery

namespace SourceUrl

/-! ## Reading a URL -/

/-- The bytes a part of a URL stands for.  A percent sign without two digits behind it stands
for itself, as all other characters do. -/
@[simp] def percentDecode : List Char → Bytes
  | [] => []
  | '%' :: high :: low :: rest =>
    match Hex.value? high, Hex.value? low with
    | some upper, some lower => UInt8.ofNat (upper * 16 + lower) :: percentDecode rest
    | _, _ => String.utf8EncodeChar '%' ++ percentDecode (high :: low :: rest)
  | c :: rest => String.utf8EncodeChar c ++ percentDecode rest

/-- The text a part of a URL stands for, unless its bytes are not well-formed. -/
def decode? (encoded : String) : Option String :=
  Utf8.decode? (percentDecode encoded.toList)

variable {c : Char}

theorem percentDecode_cons_of_ne (hc : c ≠ '%') (rest : List Char) :
    percentDecode (c :: rest) = String.utf8EncodeChar c ++ percentDecode rest := by
  rw [percentDecode]
  rintro high low others rfl
  exact absurd rfl hc

/-- A colon is no digit. -/
theorem percentDecode_percent_colon (rest : List Char) :
    percentDecode ('%' :: ':' :: rest) =
      String.utf8EncodeChar '%' ++ percentDecode (':' :: rest) := by
  have hcolon : Hex.value? ':' = none := by decide
  cases rest with
  | nil => decide
  | cons c rest => simp [percentDecode, hcolon]

/-! ## What was encoded comes back -/

theorem value?_upperDigit : ∀ n < 16, Hex.value? (Hex.upperDigit n) = some n := by
  decide

theorem percentDecode_escapeByte (byte : UInt8) (rest : List Char) :
    percentDecode (escapeByte byte ++ rest) = byte :: percentDecode rest := by
  have hbyte : byte.toNat < 256 := byte.toNat_lt
  have hupper := value?_upperDigit (byte.toNat / 16) (by omega)
  have hlower := value?_upperDigit (byte.toNat % 16) (by omega)
  have hvalue : byte.toNat / 16 * 16 + byte.toNat % 16 = byte.toNat := by omega
  simp only [escapeByte, List.cons_append, List.nil_append, percentDecode, hupper, hlower, hvalue,
    UInt8.ofNat_toNat]

theorem percentDecode_flatMap_escapeByte (bytes : Bytes) (rest : List Char) :
    percentDecode (bytes.flatMap escapeByte ++ rest) = bytes ++ percentDecode rest := by
  induction bytes with
  | nil => rfl
  | cons byte bytes ih =>
      rw [List.flatMap_cons, List.append_assoc, percentDecode_escapeByte, ih, List.cons_append]

theorem percentDecode_encodeChar (c : Char) (rest : List Char) :
    percentDecode (encodeChar c ++ rest) = String.utf8EncodeChar c ++ percentDecode rest := by
  unfold encodeChar
  split_ifs with hunreserved
  · have hc : c ≠ '%' := by
      rintro rfl
      exact absurd hunreserved (by decide)
    exact percentDecode_cons_of_ne hc rest
  · exact percentDecode_flatMap_escapeByte _ rest

theorem percentDecode_flatMap_encodeChar (text rest : List Char) :
    percentDecode (text.flatMap encodeChar ++ rest) =
      text.flatMap String.utf8EncodeChar ++ percentDecode rest := by
  induction text with
  | nil => rfl
  | cons c text ih =>
      rw [List.flatMap_cons, List.append_assoc, percentDecode_encodeChar, ih, List.flatMap_cons,
        List.append_assoc]

theorem percentDecode_drive (c : Char) (rest : List Char) :
    percentDecode (c :: ':' :: rest) =
      String.utf8EncodeChar c ++ (String.utf8EncodeChar ':' ++ percentDecode rest) := by
  have hcolon := percentDecode_cons_of_ne (show ':' ≠ '%' by decide) rest
  by_cases hc : c = '%'
  · rw [hc, percentDecode_percent_colon, hcolon]
  · rw [percentDecode_cons_of_ne hc, hcolon]

/-- Both forms of a segment are read back, whatever follows. -/
theorem percentDecode_encodeSegment (segment rest : List Char) :
    percentDecode (encodeSegment segment ++ rest) =
      segment.flatMap String.utf8EncodeChar ++ percentDecode rest := by
  unfold encodeSegment
  split_ifs with hdrive
  · obtain ⟨c, rfl, -⟩ := exists_eq_of_isDrive hdrive
    simpa using percentDecode_drive c rest
  · exact percentDecode_flatMap_encodeChar segment rest

theorem percentDecode_intercalate (parts : List (List Char)) :
    percentDecode (['/'].intercalate (parts.map encodeSegment)) =
      (['/'].intercalate parts).flatMap String.utf8EncodeChar := by
  induction parts with
  | nil => rfl
  | cons part parts ih =>
      rw [List.map_cons]
      rcases eq_or_ne parts [] with rfl | hne
      · simpa using percentDecode_encodeSegment part []
      · rw [intercalate_cons (by simpa using hne), intercalate_cons hne,
          percentDecode_encodeSegment, percentDecode_cons_of_ne (by decide), ih,
          List.flatMap_append, List.flatMap_cons]

theorem percentDecode_encodePath (p : Path) :
    percentDecode (encodePath p) = Utf8.encode p.slashed := by
  have hjoin : ['/'].intercalate (p.slashed.toList.splitOn '/') = p.slashed.toList :=
    List.intercalate_splitOn '/'
  rw [encodePath, percentDecode_intercalate, hjoin, Utf8.encode]

theorem decode?_encodePath (p : Path) :
    decode? (String.ofList (encodePath p)) = some p.slashed := by
  rw [decode?, String.toList_ofList, percentDecode_encodePath, Utf8.decode?_encode]

/-! ## Locators -/

theorem locator_eq_iff_same {p q : Path} (hp : p.isAbsolute) (hq : q.isAbsolute)
    (htext : p.isText) (htext' : q.isText) : locator p = locator q ↔ p.Same q := by
  rw [locator_eq_iff hp hq, ← Path.slashed_eq_iff htext htext']
  constructor
  · intro hencoded
    have hread : some p.slashed = some q.slashed := by
      rw [← decode?_encodePath, hencoded, decode?_encodePath]
    exact Option.some.inj hread
  · intro hslashed
    rw [encodePath, hslashed, encodePath]

theorem locator_ne_script {p : Path} (hfile : p.isScriptId = false) :
    ScriptId.parse? (locator p) = none ∧ ∀ n, locator p ≠ ScriptId.render n := by
  have hhead : (locator p).toList.head? = some 'f' := by
    simp only [locator, hfile, Bool.false_eq_true, if_false]
    split_ifs <;> simp
  constructor
  · by_contra hparse
    obtain ⟨n, hparse⟩ := Option.ne_none_iff_exists'.mp hparse
    obtain ⟨digits, htext, -⟩ := ScriptId.parse?_eq_some_iff.mp hparse
    simp [htext, ScriptId.opening] at hhead
  · rintro n hrender
    simp [hrender, ScriptId.render, ScriptId.opening] at hhead

/-- The locator of an absolute path is a `file` URL without a host.  Read as a URL, what follows
the scheme is the path without superfluous slashes and dots, so paths that are text share a
locator exactly when they have the same segments; and no file has the locator of an inline
script. -/
theorem locator_identifies {p : Path} (habs : p.isAbsolute) :
    (∃ rest, locator p = "file:///" ++ rest ∧ decode? ("/" ++ rest) = some p.slashed) ∧
      (p.isText → ∀ q : Path, q.isAbsolute → q.isText → (locator q = locator p ↔ q.Same p)) ∧
      ScriptId.parse? (locator p) = none ∧ ∀ n, locator p ≠ ScriptId.render n := by
  refine ⟨?_, fun htext q hq htext' => locator_eq_iff_same hq habs htext' htext,
    locator_ne_script (Path.not_isScriptId_of_isAbsolute habs)⟩
  obtain ⟨rest, hencoded⟩ := List.head?_eq_some_iff.mp (head?_encodePath habs)
  have hslash : String.ofList (encodePath p) = "/" ++ String.ofList rest := by
    rw [hencoded, String.ext_iff]
    simp
  refine ⟨String.ofList rest, ?_, by rw [← hslash, decode?_encodePath]⟩
  rw [locator_of_isAbsolute habs, hslash, ← String.append_assoc]
  rfl

/-- A drive that is a percent sign, a letter of two bytes, and what looks like an escape. -/
theorem locator_identifies_percent :
    Path.isAbsolute "/w//%:/a%é:/%41" ∧ Path.isText "/w//%:/a%é:/%41" ∧
      locator "/w//%:/a%é:/%41" = "file:///w/%:/a%25%C3%A9%3A/%2541" ∧
      decode? "/w/%:/a%25%C3%A9%3A/%2541" = some "/w/%:/a%é:/%41" ∧
      locator "/w/%:/a%é:/A" ≠ locator "/w//%:/a%é:/%41" := by
  have habs : Path.isAbsolute "/w//%:/a%é:/%41" := by decide
  have htext : Path.isText "/w//%:/a%é:/%41" := by decide +kernel
  obtain ⟨-, hsame, -⟩ := locator_identifies habs
  refine ⟨habs, htext, by decide +kernel, by decide +kernel, fun hlocator => ?_⟩
  exact absurd ((hsame htext "/w/%:/a%é:/A" (by decide) (by decide +kernel)).mp hlocator)
    (by decide +kernel)

end SourceUrl

end ModuleDiscovery
