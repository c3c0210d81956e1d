import ModuleDiscovery.ScriptId
import ModuleDiscovery.Proofs.Path.Shown

/-!
# The spelling of script identifiers

A script identifier is the text `<script:`, a number, and `>`.  It holds no slash,
so as a path it is one name: it is not absolute, and cleaning leaves it alone.
-/

namespace ModuleDiscovery

/-! ## Digits -/

namespace Whole

/-- More digits never make a number smaller. -/
theorem le_ofDigitChars (digits : List Char) (value : ℕ) :
    value ≤ Nat.ofDigitChars 10 digits value := by
  induction digits generalizing value with
  | nil => exact Nat.le_refl value
  | cons c rest ih =>
      rw [Nat.ofDigitChars_cons]
      exact Nat.le_trans (by omega) (ih _)

/-- The bound is checked at every digit, which comes to the same as checking the whole
number. -/
theorem readDigits_eq_some_iff {bound value n : ℕ} {digits : List Char} (hvalue : value < bound) :
    readDigits bound value digits = some n ↔
      (∀ c ∈ digits, c.isDigit) ∧ Nat.ofDigitChars 10 digits value = n ∧ n < bound := by
  induction digits generalizing value with
  | nil =>
      simp only [readDigits, Option.some.injEq, List.not_mem_nil, false_imp_iff, implies_true,
        true_and, Nat.ofDigitChars_nil]
      exact ⟨fun h => ⟨h, h ▸ hvalue⟩, fun h => h.1⟩
  | cons c rest ih =>
      have hnext : value * 10 + digitValue c = 10 * value + (c.toNat - '0'.toNat) := by
        rw [Nat.mul_comm, digitValue]
      rw [readDigits, List.forall_mem_cons, Nat.ofDigitChars_cons, ← hnext]
      dsimp only
      split_ifs with hdigit hbound
      · rw [ih hbound]
        simp [hdigit]
      · have hle := le_ofDigitChars rest (value * 10 + digitValue c)
        simp only [false_iff]
        rintro ⟨-, rfl, hn⟩
        omega
      · simp [hdigit]

theorem ofDigits?_eq_some_iff {bound n : ℕ} {digits : List Char} :
    ofDigits? bound digits = some n ↔ digits ≠ [] ∧ (∀ c ∈ digits, c.isDigit) ∧
      Nat.ofDigitChars 10 digits 0 = n ∧ n < bound := by
  cases digits with
  | nil => simp [ofDigits?]
  | cons c rest =>
      rcases Nat.eq_zero_or_pos bound with rfl | hbound
      · simp [ofDigits?, readDigits]
      · simp [ofDigits?, readDigits_eq_some_iff hbound]

/-- A number is read from digits with at most one plus sign in front. -/
theorem parse?_eq_some_iff {bound n : ℕ} {text : List Char} :
    parse? bound text = some n ↔ ∃ sign digits, text = sign ++ digits ∧
      (sign = [] ∨ sign = ['+']) ∧ digits ≠ [] ∧ (∀ c ∈ digits, c.isDigit) ∧
        Nat.ofDigitChars 10 digits 0 = n ∧ n < bound := by
  have hplus : ∀ digits : List Char, ¬ ∀ c ∈ '+' :: digits, c.isDigit := by
    intro digits hdigits
    exact absurd (hdigits '+' (by simp)) (by decide)
  constructor
  · intro hread
    unfold parse? at hread
    split at hread
    · next digits => exact ⟨['+'], digits, rfl, Or.inr rfl, ofDigits?_eq_some_iff.mp hread⟩
    · exact ⟨[], text, rfl, Or.inl rfl, ofDigits?_eq_some_iff.mp hread⟩
  · rintro ⟨sign, digits, rfl, rfl | rfl, hnumber⟩
    · rw [List.nil_append, parse?]
      · exact ofDigits?_eq_some_iff.mpr hnumber
      · rintro rest rfl
        exact hplus rest hnumber.2.1
    · exact ofDigits?_eq_some_iff.mpr hnumber

theorem plus_or_isDigit_of_parse? {bound n : ℕ} {text : List Char}
    (hread : parse? bound text = some n) : ∀ c ∈ text, c = '+' ∨ c.isDigit := by
  obtain ⟨sign, digits, rfl, hsign, -, hdigits, -⟩ := parse?_eq_some_iff.mp hread
  intro c hc
  rcases List.mem_append.mp hc with hc | hc
  · rcases hsign with rfl | rfl
    · cases hc
    · exact Or.inl (List.mem_singleton.mp hc)
  · exact Or.inr (hdigits c hc)

end Whole

/-! ## Identifiers -/

namespace ScriptId

theorem dropBeginning?_eq_some_iff {beginning text rest : List Char} :
    dropBeginning? beginning text = some rest ↔ text = beginning ++ rest := by
  induction beginning generalizing text with
  | nil => simp [dropBeginning?, eq_comm]
  | cons b beginning ih =>
      cases text with
      | nil => simp [dropBeginning?]
      | cons c text =>
          simp only [dropBeginning?, List.cons_append, List.cons.injEq]
          split_ifs with hbc
          · rw [ih, hbc, eq_self_iff_true, true_and]
          · simp [Ne.symm hbc]

theorem dropEnd?_eq_some_iff {ending text rest : List Char} :
    dropEnd? ending text = some rest ↔ text = rest ++ ending := by
  constructor
  · intro hdrop
    obtain ⟨reversed, hreversed, rfl⟩ := Option.map_eq_some_iff.mp hdrop
    rw [dropBeginning?_eq_some_iff, List.reverse_eq_iff] at hreversed
    simpa using hreversed
  · rintro rfl
    have hreversed : dropBeginning? ending.reverse (rest ++ ending).reverse = some rest.reverse :=
      dropBeginning?_eq_some_iff.mpr (by simp)
    rw [dropEnd?, hreversed, Option.map_some, List.reverse_reverse]

/-- An identifier is a number in its frame. -/
theorem parse?_eq_some_iff {text : String} {n : ℕ} :
    parse? text = some n ↔
      ∃ digits, text.toList = opening ++ digits ++ closing ∧
        Whole.parse? bound digits = some n := by
  simp only [parse?, Option.bind_eq_some_iff, dropBeginning?_eq_some_iff, dropEnd?_eq_some_iff]
  constructor
  · rintro ⟨rest, htext, digits, rfl, hread⟩
    exact ⟨digits, by rw [htext, List.append_assoc], hread⟩
  · rintro ⟨digits, htext, hread⟩
    exact ⟨digits ++ closing, by rw [htext, List.append_assoc], digits, rfl, hread⟩

/-- An identifier is written in ASCII, and without a slash. -/
theorem eq_opening_append_of_parse? {text : String} (hparse : (parse? text).isSome) :
    (∃ rest, text.toList = opening ++ rest) ∧ '/' ∉ text.toList ∧ '\uFFFD' ∉ text.toList := by
  obtain ⟨n, hsome⟩ := Option.isSome_iff_exists.mp hparse
  obtain ⟨digits, htext, hread⟩ := parse?_eq_some_iff.mp hsome
  have hdigits := Whole.plus_or_isDigit_of_parse? hread
  have hother : ∀ c, c ≠ '+' → c.isDigit = false → c ∉ digits := by
    intro c hplus hdigit hmem
    rcases hdigits c hmem with h | h <;> simp_all
  have hslash := hother '/' (by decide) (by decide)
  have hmark := hother '\uFFFD' (by decide) (by decide)
  refine ⟨⟨digits ++ closing, by rw [htext, List.append_assoc]⟩, ?_⟩
  simp [htext, opening, closing, hslash, hmark]

end ScriptId

namespace Path

variable {p : Path}

/-- A path that is shown as an identifier is one. -/
theorem isSome_parse?_text_iff : (ScriptId.parse? p.text).isSome ↔ p.isScriptId := by
  constructor
  · intro hparse
    have hbytes : Utf8.encode p.text = p.bytes :=
      Utf8.encode_decodeLossy_of_not_mem (ScriptId.eq_opening_append_of_parse? hparse).2.2
    rw [isScriptId, text?, Utf8.decode?_eq_some_iff.mpr hbytes]
    exact hparse
  · intro hscript
    rw [isScriptId] at hscript
    cases htext : p.text? with
    | none => simp [htext] at hscript
    | some text =>
        have hshown : p.text = text := by
          rw [Path.text, ← Utf8.decode?_eq_some_iff.mp htext, Utf8.decodeLossy_encode]
        simpa [htext, hshown] using hscript

theorem isScriptId_ofText (text : String) :
    (ofText text).isScriptId = (ScriptId.parse? text).isSome := by
  rw [isScriptId, text?, ofText, Utf8.decode?_encode, Option.bind_some]

theorem encode_text_of_isScriptId (hscript : p.isScriptId) : Utf8.encode p.text = p.bytes :=
  Utf8.encode_decodeLossy_of_not_mem
    (ScriptId.eq_opening_append_of_parse? (isSome_parse?_text_iff.mpr hscript)).2.2

/-- An identifier is the path that its text spells. -/
theorem ofText_text_of_isScriptId (hscript : p.isScriptId) : ofText p.text = p := by
  rw [ofText, encode_text_of_isScriptId hscript]

theorem bytes_of_isScriptId (hscript : p.isScriptId) :
    (∃ rest, p.bytes = 0x3C :: rest) ∧ Segment.slash ∉ p.bytes := by
  obtain ⟨⟨rest, htext⟩, hslash, -⟩ :=
    ScriptId.eq_opening_append_of_parse? (isSome_parse?_text_iff.mpr hscript)
  rw [← encode_text_of_isScriptId hscript, Utf8.encode, slash_mem_flatMap_encodeChar_iff]
  exact ⟨⟨_, congrArg (List.flatMap String.utf8EncodeChar) htext⟩, hslash⟩

theorem not_isAbsolute_of_isScriptId (hscript : p.isScriptId) : p.isAbsolute = false := by
  obtain ⟨⟨rest, hbytes⟩, -⟩ := bytes_of_isScriptId hscript
  simp [isAbsolute, hbytes, show (0x3C : UInt8) ≠ Segment.slash by decide]

theorem not_isScriptId_of_isAbsolute (habs : p.isAbsolute) : p.isScriptId = false := by
  by_contra hscript
  rw [Bool.not_eq_false] at hscript
  rw [not_isAbsolute_of_isScriptId hscript] at habs
  simp at habs

/-- As a path an identifier is one name. -/
theorem isName_of_isScriptId (hscript : p.isScriptId) : (Segment.name p.bytes).IsName := by
  obtain ⟨⟨rest, hbytes⟩, hslash⟩ := bytes_of_isScriptId hscript
  have hfirst : (0x3C : UInt8) ≠ Segment.dot := by decide
  exact ⟨by simp [hbytes], by simp [hbytes, hfirst], by simp [hbytes, hfirst], hslash⟩

theorem toBytes_of_isScriptId (hscript : p.isScriptId) :
    Segment.toBytes [.name p.bytes] = p.bytes :=
  Segment.spell_singleton (isName_of_isScriptId hscript).isInner

theorem segments_of_isScriptId (hscript : p.isScriptId) : p.segments = [.name p.bytes] := by
  have hinner := (isName_of_isScriptId hscript).isInner
  rw [segments, ← toBytes_of_isScriptId hscript, Segment.ofBytes_toBytes
    (Segment.wellFormed_of_isInner (by simpa using hinner)), toBytes_of_isScriptId hscript]

theorem inner_of_isScriptId (hscript : p.isScriptId) :
    Segment.inner p.bytes = [.name p.bytes] := by
  have hinner := (isName_of_isScriptId hscript).isInner
  conv_lhs => rw [← toBytes_of_isScriptId hscript]
  exact Segment.inner_toBytes (by simpa using hinner)

/-- Cleaning leaves an identifier alone. -/
theorem clean_of_isScriptId (hscript : p.isScriptId) : p.clean = p := by
  have hname := isName_of_isScriptId hscript
  have hresolved : Segment.Resolved (List.replicate 0 .up ++ [.name p.bytes]) :=
    Segment.Resolved.relative 0 (by simpa using hname) (by simp)
  rw [clean, segments_of_isScriptId hscript, show Segment.clean [.name p.bytes] = _ from
    Segment.clean_eq_of_resolved hresolved, ofSegments, toBytes_of_isScriptId hscript]

end Path

end ModuleDiscovery
