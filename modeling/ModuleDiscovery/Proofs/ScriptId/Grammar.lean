import Mathlib.Algebra.Group.Nat.Defs
import ModuleDiscovery.Proofs.ScriptId

/-!
# The grammar of script identifiers

Which texts are identifiers can be said without a reader: `<script:`, perhaps a plus
sign, the digits of a number below 2⁶⁴ with any number of zeros in front, and `>`
(`ScriptId.Spells`).  The reader looks at the bound at every digit and gives up in the
middle of a number that is too large, but it comes to the same.

## Main results

* `ScriptId.grammar_exact`: the reader accepts these texts and no others, and what is
  written is read back.
-/

namespace ModuleDiscovery

namespace ScriptId

/-- Whether a text spells a number the way an identifier does, however large it is. -/
def Spells (text : String) (n : ℕ) : Prop :=
  ∃ sign digits : List Char, text.toList = "<script:".toList ++ sign ++ digits ++ ">".toList ∧
    (sign = [] ∨ sign = ['+']) ∧ digits ≠ [] ∧ (∀ c ∈ digits, c.isDigit) ∧
      Nat.ofDigitChars 10 digits 0 = n

theorem parse?_eq_some_iff_spells {text : String} {n : ℕ} :
    parse? text = some n ↔ Spells text n ∧ n < 2 ^ 64 := by
  have hopening : opening = "<script:".toList := rfl
  have hclosing : closing = ">".toList := rfl
  rw [parse?_eq_some_iff]
  constructor
  · rintro ⟨number, htext, hread⟩
    obtain ⟨sign, digits, rfl, hsign, hne, hdigits, hvalue, hbound⟩ :=
      Whole.parse?_eq_some_iff.mp hread
    refine ⟨⟨sign, digits, ?_, hsign, hne, hdigits, hvalue⟩, hbound⟩
    rw [htext, hopening, hclosing, List.append_assoc _ sign]
  · rintro ⟨⟨sign, digits, htext, hsign, hne, hdigits, hvalue⟩, hbound⟩
    refine ⟨sign ++ digits, ?_, ?_⟩
    · rw [htext, hopening, hclosing, List.append_assoc _ sign]
    · exact Whole.parse?_eq_some_iff.mpr ⟨sign, digits, rfl, hsign, hne, hdigits, hvalue, hbound⟩

/-- A digit is no plus sign, so it is known where the digits start. -/
theorem Spells.unique {text : String} {n m : ℕ} (hn : Spells text n) (hm : Spells text m) :
    n = m := by
  obtain ⟨sign, digits, htext, hsign, -, hdigits, rfl⟩ := hn
  obtain ⟨sign', digits', htext', hsign', -, hdigits', rfl⟩ := hm
  have hsame : sign ++ digits = sign' ++ digits' := by
    rw [htext, List.append_assoc _ sign, List.append_assoc _ sign'] at htext'
    exact List.append_cancel_left (List.append_cancel_right htext')
  have hplus : ∀ digits : List Char, (∀ c ∈ digits, c.isDigit) → ∀ rest, digits ≠ '+' :: rest := by
    rintro _ hdigits rest rfl
    exact absurd (hdigits '+' (by simp)) (by decide)
  rcases hsign with rfl | rfl <;> rcases hsign' with rfl | rfl
  · rw [show digits = digits' from hsame]
  · exact absurd hsame (hplus digits hdigits _)
  · exact absurd hsame.symm (hplus digits' hdigits' _)
  · rw [List.append_cancel_left hsame]

/-! ## Written identifiers -/

theorem spells_render (n : ℕ) : Spells (render n) n := by
  refine ⟨[], Nat.toDigits 10 n, ?_, Or.inl rfl, Nat.toDigits_ne_nil, fun c hc => ?_,
    Nat.ofDigitChars_ten_toDigits⟩
  · rw [render, String.toList_ofList, List.append_nil]
    rfl
  · exact Nat.isDigit_of_mem_toDigits (by omega) (by omega) hc

theorem injective_render : Function.Injective render := by
  intro n m hrender
  have hchars := String.ofList_injective hrender
  have hdigits : Nat.toDigits 10 n = Nat.toDigits 10 m :=
    List.append_cancel_left (List.append_cancel_right hchars)
  rw [← Nat.ofDigitChars_ten_toDigits (n := n), hdigits, Nat.ofDigitChars_ten_toDigits]

/-! ## The whole grammar -/

/-- A text is read as a number exactly if it spells it the way an identifier does and the
number is below 2⁶⁴.  So an identifier that was written for such a number is read back,
different numbers have different identifiers, a number from 2⁶⁴ on is refused however many
digits it has, and no absolute path is an identifier. -/
theorem grammar_exact :
    (∀ text n, parse? text = some n ↔ Spells text n ∧ n < 2 ^ 64) ∧
    (∀ n, n < 2 ^ 64 → parse? (render n) = some n) ∧
    Function.Injective render ∧
    (∀ text n, Spells text n → 2 ^ 64 ≤ n → parse? text = none) ∧
    ∀ p : Path, p.isAbsolute → p.isScriptId = false := by
  refine ⟨fun text n => parse?_eq_some_iff_spells,
    fun n hn => parse?_eq_some_iff_spells.mpr ⟨spells_render n, hn⟩, injective_render, ?_,
    fun p => Path.not_isScriptId_of_isAbsolute⟩
  intro text n hspells hlarge
  by_contra hread
  obtain ⟨m, hm⟩ := Option.ne_none_iff_exists'.mp hread
  obtain ⟨hother, hbound⟩ := parse?_eq_some_iff_spells.mp hm
  exact absurd (hspells.unique hother ▸ hlarge) (Nat.not_le.mpr hbound)

/-- A plus sign and zeros in front do not matter, a number of twenty digits can be too
large, and a file may have the name of an identifier. -/
theorem grammar_exact_padded :
    parse? "<script:+0012>" = some 12 ∧ parse? (render 12) = some 12 ∧
      parse? "<script:18446744073709551616>" = none ∧
        ("/w/<script:12>" : Path).isScriptId = false := by
  obtain ⟨hread, hrender, -, hlarge, habs⟩ := grammar_exact
  have htwelve : Spells "<script:+0012>" 12 :=
    ⟨['+'], ['0', '0', '1', '2'], rfl, Or.inr rfl, by simp, List.all_eq_true.mp rfl, rfl⟩
  have hbound : Spells "<script:18446744073709551616>" (2 ^ 64) :=
    ⟨[], "18446744073709551616".toList, rfl, Or.inl rfl, by simp,
      List.all_eq_true.mp (by decide +kernel), by decide +kernel⟩
  exact ⟨(hread _ _).mpr ⟨htwelve, by decide⟩, hrender 12 (by decide),
    hlarge _ _ hbound (Nat.le_refl _), habs _ (by decide +kernel)⟩

end ScriptId

end ModuleDiscovery
