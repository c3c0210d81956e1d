import Mathlib.Data.List.Basic
import ModuleDiscovery.Toml.Text

/-!
# Texts between double quotes

A text that is written between double quotes as it is may be read as another text, or go on
behind the second quote: a backslash starts an escape, and a quote ends the string.  It is
read as itself when none of its characters is a quote, a backslash or a control character
(`basicString_append`), and on one line in no other case (`isVerbatim_of_basicString`).
-/

namespace ModuleDiscovery

theorem Hex.newline_not_mem_of_char? {digits : List Char} {c : Char}
    (hchar : char? digits = some c) : '\n' ∉ digits := by
  have hnumber : ∀ (value : ℕ) (digits : List Char),
      '\n' ∈ digits → number? value digits = none := by
    intro value digits hmem
    induction digits generalizing value with
    | nil => simp at hmem
    | cons d digits ih =>
        rw [number?]
        rcases List.mem_cons.mp hmem with rfl | hmem
        · rfl
        · cases value? d with
          | none => rfl
          | some digit => exact ih _ hmem
  intro hmem
  rw [char?, hnumber 0 digits hmem] at hchar
  cases hchar

namespace Toml

/-- Whether a character stands for itself between double quotes. -/
def IsVerbatim (c : Char) : Prop :=
  c ≠ '"' ∧ c ≠ '\\' ∧ isControl c = false

instance (c : Char) : Decidable (IsVerbatim c) :=
  inferInstanceAs (Decidable (_ ∧ _ ∧ _))

theorem basicString_cons {c : Char} (hc : IsVerbatim c) (rest : List Char) :
    basicString (c :: rest) = readCons c (basicString rest) := by
  obtain ⟨hquote, hbackslash, hcontrol⟩ := hc
  rw [basicString.eq_def]
  split <;> simp_all

theorem basicString_append {text : List Char} (htext : ∀ c ∈ text, IsVerbatim c)
    (rest : List Char) : basicString (text ++ '"' :: rest) = some (text, rest) := by
  induction text with
  | nil => rfl
  | cons c text ih =>
      rw [List.forall_mem_cons] at htext
      rw [List.cons_append, basicString_cons htext.1, ih htext.2]
      rfl

/-! ## What a string was read from -/

/-- Whether characters on a line are read as a text, either because they are the text or
because escapes make it shorter. -/
def Spells (raw text : List Char) : Prop :=
  '\n' ∉ raw ∧ (raw = text ∧ (∀ c ∈ text, IsVerbatim c) ∨ text.length < raw.length)

theorem Spells.nil : Spells [] [] :=
  ⟨by simp, Or.inl ⟨rfl, by simp⟩⟩

theorem Spells.length_le {raw text : List Char} (hspells : Spells raw text) :
    text.length ≤ raw.length := by
  rcases hspells.2 with ⟨rfl, -⟩ | hlt
  · exact Nat.le_refl _
  · exact Nat.le_of_lt hlt

theorem Spells.cons {raw text : List Char} {c : Char} (hc : IsVerbatim c)
    (hspells : Spells raw text) : Spells (c :: raw) (c :: text) := by
  have hnewline : c ≠ '\n' := by
    rintro rfl
    exact absurd hc.2.2 (by decide)
  refine ⟨by simp [hnewline.symm, hspells.1], ?_⟩
  rcases hspells.2 with ⟨rfl, htext⟩ | hlt
  · exact Or.inl ⟨rfl, List.forall_mem_cons.mpr ⟨hc, htext⟩⟩
  · exact Or.inr (by simpa using hlt)

theorem Spells.escape {raw text escape : List Char} (hspells : Spells raw text)
    (hline : '\n' ∉ escape) (hlong : 1 < escape.length) (c : Char) :
    Spells (escape ++ raw) (c :: text) := by
  have hle := hspells.length_le
  refine ⟨by simp [hline, hspells.1], Or.inr ?_⟩
  rw [List.length_append, List.length_cons]
  omega

theorem exists_of_readCons {c : Char} {more : Option (List Char × List Char)}
    {text rest : List Char} (hread : readCons c more = some (text, rest)) :
    ∃ text', more = some (text', rest) ∧ text = c :: text' := by
  obtain ⟨⟨text', rest'⟩, hmore, heq⟩ := Option.map_eq_some_iff.mp hread
  obtain ⟨rfl, rfl⟩ := Prod.mk.inj heq
  exact ⟨text', hmore, rfl⟩

/-- An escape that stands for a character is longer than that, and on one line. -/
theorem exists_spells_of_escape {escape behind text rest : List Char} {char? : Option Char}
    (hread : (char?.bind fun c => readCons c (basicString behind)) = some (text, rest))
    (hline : ∀ c, char? = some c → '\n' ∉ escape) (hlong : 1 < escape.length)
    (hbehind : ∀ {text rest : List Char}, basicString behind = some (text, rest) →
      ∃ raw, behind = raw ++ '"' :: rest ∧ Spells raw text) :
    ∃ raw, escape ++ behind = raw ++ '"' :: rest ∧ Spells raw text := by
  obtain ⟨c, hc, hmore⟩ := Option.bind_eq_some_iff.mp hread
  obtain ⟨text', htext', rfl⟩ := exists_of_readCons hmore
  obtain ⟨raw, rfl, hspells⟩ := hbehind htext'
  exact ⟨escape ++ raw, by simp, hspells.escape (hline c hc) hlong c⟩

/-- A string is read from characters of one line, up to a quote. -/
theorem exists_spells_of_basicString {input text rest : List Char}
    (hread : basicString input = some (text, rest)) :
    ∃ raw, input = raw ++ '"' :: rest ∧ Spells raw text := by
  fun_induction basicString input generalizing text rest with
  | case1 => cases hread
  | case2 behind =>
      obtain ⟨rfl, rfl⟩ := Prod.mk.inj (Option.some.inj hread)
      exact ⟨[], rfl, Spells.nil⟩
  | case3 a b behind ih =>
      have hline : ∀ char, Hex.char? [a, b] = some char → '\n' ∉ ['\\', 'x', a, b] := by
        intro char hchar
        simpa using Hex.newline_not_mem_of_char? hchar
      exact exists_spells_of_escape hread hline (by simp) ih
  | case4 a b c d behind ih =>
      have hline : ∀ char, Hex.char? [a, b, c, d] = some char →
          '\n' ∉ ['\\', 'u', a, b, c, d] := by
        intro char hchar
        simpa using Hex.newline_not_mem_of_char? hchar
      exact exists_spells_of_escape hread hline (by simp) ih
  | case5 a b c d e f g h behind ih =>
      have hline : ∀ char, Hex.char? [a, b, c, d, e, f, g, h] = some char →
          '\n' ∉ ['\\', 'U', a, b, c, d, e, f, g, h] := by
        intro char hchar
        simpa using Hex.newline_not_mem_of_char? hchar
      exact exists_spells_of_escape hread hline (by simp) ih
  | case6 letter behind _ _ _ ih =>
      have hline : ∀ char, simpleEscape? letter = some char → '\n' ∉ ['\\', letter] := by
        rintro char hchar hmem
        obtain rfl : letter = '\n' := by simpa [eq_comm] using hmem
        cases hchar
      exact exists_spells_of_escape hread hline (by simp) ih
  | case7 => cases hread
  | case8 c behind hquote _ _ _ hbackslash hcontrol ih =>
      obtain ⟨text', htext', rfl⟩ := exists_of_readCons hread
      have hverbatim : IsVerbatim c := by
        refine ⟨hquote, fun hc => ?_, by simpa using hcontrol⟩
        cases behind with
        | nil => cases htext'
        | cons first behind => exact hbackslash first behind hc rfl
      obtain ⟨raw, rfl, hspells⟩ := ih htext'
      exact ⟨c :: raw, rfl, hspells.cons hverbatim⟩

/-- Of two characters one comes first in a text. -/
theorem append_cons_ne_append_cons {a b : Char} {front front' back back' : List Char}
    (hne : a ≠ b) (hb : b ∉ front) (ha : a ∉ front') :
    front ++ a :: back ≠ front' ++ b :: back' := by
  intro heq
  rcases List.append_eq_append_iff.mp heq with ⟨between, rfl, hcons⟩ | ⟨between, rfl, hcons⟩
  · cases between with
    | nil => exact hne (List.cons.inj hcons).1
    | cons c between =>
        obtain ⟨rfl, -⟩ := List.cons.inj hcons
        exact ha (by simp)
  · cases between with
    | nil => exact hne (List.cons.inj hcons).1.symm
    | cons c between =>
        obtain ⟨rfl, -⟩ := List.cons.inj hcons
        exact hb (by simp)

/-- A text on a line that has no other quote behind it is read as itself only if each of
its characters stands for itself. -/
theorem isVerbatim_of_basicString {text line more rest : List Char} (hline : '"' ∉ line)
    (hread : basicString (text ++ '"' :: (line ++ '\n' :: more)) = some (text, rest)) :
    ∀ c ∈ text, IsVerbatim c := by
  obtain ⟨raw, hinput, hnewline, hraw⟩ := exists_spells_of_basicString hread
  rcases hraw with ⟨-, htext⟩ | hlonger
  · exact htext
  -- an escaped quote would have to be followed by another one on the line
  exfalso
  rcases List.append_eq_append_iff.mp hinput with ⟨between, rfl, hbetween⟩ | ⟨between, rfl, -⟩
  · cases between with
    | nil => simp at hlonger
    | cons quote between =>
        have hbehind : '\n' ∉ between := fun hmem => hnewline (by simp [hmem])
        exact append_cons_ne_append_cons (by decide) hline hbehind (List.cons.inj hbetween).2
  · rw [List.length_append] at hlonger
    omega

end Toml

end ModuleDiscovery
