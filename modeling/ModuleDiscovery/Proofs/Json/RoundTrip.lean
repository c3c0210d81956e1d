import Mathlib.Algebra.Group.Int.Defs
import Mathlib.Algebra.Group.Nat.Defs
import Mathlib.Data.List.TakeWhile
import ModuleDiscovery.Json.Parser
import ModuleDiscovery.Json.Printer

/-!
# Reading back what was written

A value that is written over several lines can be read again.  What comes back is the
value with the fields of its objects in the order of their keys (`Json.sorted`).

## Strategy

* **Text to tokens.**  A value has its tokens (`Json.tokens`), and a text that starts with
  the written value is cut into these tokens and those of the text behind it
  (`Legible.cuts`).  The text behind a number must not go on with it; in a written value
  there is always a comma, a line break or the end (`Stops`).
* **Tokens to value.**  From wherever a value may start, its tokens take the machine to the
  state in which the value has just been handed to the innermost open frame
  (`Legible.runs`).  The open frames and the nesting of the value together must not be
  deeper than the machine goes.

Both are inductions on the value, with an induction on the items of an array or the fields
of an object inside.  Values with binary numbers are left out (`Legible`).

## Main results

* `parse?_pretty`: a legible value is read back.
-/

namespace ModuleDiscovery

namespace Json

/-! ## Numbers -/

/-- The digits of a number start with a zero only when there is no other. -/
theorem eq_zero_of_head?_toDigits {n : ℕ} (hzero : (Nat.toDigits 10 n).head? = some '0') :
    n = 0 := by
  induction n using Nat.strong_induction_on with
  | _ n ih =>
      rcases Nat.lt_or_ge n 10 with hlt | hge
      · have hdigit : ∀ k < 10, [Nat.digitChar k].head? = some '0' → k = 0 := by decide
        rw [Nat.toDigits_of_lt_base hlt] at hzero
        exact hdigit n hlt hzero
      · have hfront : (Nat.toDigits 10 (n / 10)).head? = some '0' := by
          rw [Nat.toDigits_of_base_le (by omega) hge, List.head?_append] at hzero
          obtain ⟨d, digits, hdigits⟩ :=
            List.exists_cons_of_ne_nil (Nat.toDigits_ne_nil (b := 10) (n := n / 10))
          rw [hdigits] at hzero ⊢
          exact hzero
        have hquotient : n / 10 = 0 := ih (n / 10) (by omega) hfront
        omega

theorem gatherDigits_eq {digits : List Char} {value : ℕ}
    (hfits : Nat.ofDigitChars 10 digits value < 2 ^ 64) :
    gatherDigits digits (value, 0) = (Nat.ofDigitChars 10 digits value, 0) := by
  induction digits generalizing value with
  | nil => rfl
  | cons c digits ih =>
      rw [Nat.ofDigitChars_cons, Nat.mul_comm] at hfits ⊢
      -- the digits to come can only make the value greater
      have hnext : value * 10 + (c.toNat - 48) < Nat.pow 2 64 := by
        rw [Nat.ofDigitChars_eq_ofDigitChars_zero] at hfits
        have hpower : 1 ≤ 10 ^ digits.length := Nat.one_le_pow _ _ (by omega)
        calc value * 10 + (c.toNat - 48)
            ≤ 10 ^ digits.length * (value * 10 + (c.toNat - 48)) := Nat.le_mul_of_pos_left _ hpower
          _ < 2 ^ 64 := by
            have : ('0' : Char).toNat = 48 := rfl
            rw [this] at hfits
            omega
      rw [gatherDigits, if_pos ⟨rfl, hnext⟩]
      exact ih hfits

/-- A text that does not go on with a number. -/
def Stops (rest : List Char) : Prop :=
  ∀ c ∈ rest.head?, c.isDigit = false ∧ c ≠ '.' ∧ c ≠ 'e' ∧ c ≠ 'E'

theorem stops_cons_iff {c : Char} {rest : List Char} :
    Stops (c :: rest) ↔ c.isDigit = false ∧ c ≠ '.' ∧ c ≠ 'e' ∧ c ≠ 'E' := by
  simp [Stops]

theorem takeWhile_digits_append {digits rest : List Char} (hdigits : ∀ c ∈ digits, c.isDigit)
    (hstops : Stops rest) :
    (digits ++ rest).takeWhile Char.isDigit = digits ∧
      (digits ++ rest).dropWhile Char.isDigit = rest := by
  rw [List.takeWhile_append_of_pos hdigits, List.dropWhile_append_of_pos hdigits]
  cases rest with
  | nil => simp
  | cons c rest =>
      have hdigit : c.isDigit = false := (stops_cons_iff.mp hstops).1
      simp [hdigit]

theorem isDigit_of_mem_toDigits {n : ℕ} {c : Char} (hc : c ∈ Nat.toDigits 10 n) : c.isDigit :=
  Nat.isDigit_of_mem_toDigits (by omega) (by omega) hc

/-- There are digits, and no zero stands in front of others. -/
theorem toDigits_wellFormed (n : ℕ) : ¬ ((Nat.toDigits 10 n).isEmpty ∨
    ((Nat.toDigits 10 n).head? = some '0' ∧ (Nat.toDigits 10 n).length ≠ 1)) := by
  rintro (hempty | ⟨hzero, hlength⟩)
  · exact Nat.toDigits_ne_nil (List.isEmpty_iff.mp hempty)
  · rw [eq_zero_of_head?_toDigits hzero] at hlength
    exact hlength rfl

theorem Stops.scanFraction {rest : List Char} (hstops : Stops rest) :
    scanFraction rest = some (none, rest) := by
  cases rest with
  | nil => rfl
  | cons c rest =>
      have hpoint : c ≠ '.' := (stops_cons_iff.mp hstops).2.1
      unfold Json.scanFraction
      split
      · simp_all
      · rfl

theorem Stops.scanExponent {rest : List Char} (hstops : Stops rest) :
    scanExponent rest = some (none, rest) := by
  cases rest with
  | nil => rfl
  | cons c rest =>
      obtain ⟨-, -, hlower, hupper⟩ := stops_cons_iff.mp hstops
      unfold Json.scanExponent
      dsimp only
      rw [if_neg (not_or.mpr ⟨hlower, hupper⟩)]

/-- The digits of a number are read as the number, with any sign. -/
theorem scanNumber_toDigits (negative : Bool) (n : ℕ) {rest : List Char} (hstops : Stops rest) :
    scanNumber negative (Nat.toDigits 10 n ++ rest) =
      (numberValue negative (Nat.toDigits 10 n) none none).map fun v => (v, rest) := by
  obtain ⟨htake, hdrop⟩ :=
    takeWhile_digits_append (fun _ hc => isDigit_of_mem_toDigits (n := n) hc) hstops
  rw [scanNumber, htake, hdrop]
  dsimp only
  rw [if_neg (toDigits_wellFormed n), hstops.scanFraction]
  dsimp only [bind, Option.bind]
  rw [hstops.scanExponent]
  dsimp only [bind, Option.bind]
  cases numberValue negative (Nat.toDigits 10 n) none none <;> rfl

theorem gatherDigits_toDigits {n : ℕ} (hfits : n < 2 ^ 64) :
    gatherDigits (Nat.toDigits 10 n) (0, 0) = (n, 0) := by
  have hvalue : Nat.ofDigitChars 10 (Nat.toDigits 10 n) 0 = n := Nat.ofDigitChars_ten_toDigits
  rw [gatherDigits_eq (by rwa [hvalue]), hvalue]

theorem numberValue_toDigits {n : ℕ} (hfits : n < 2 ^ 64) :
    numberValue false (Nat.toDigits 10 n) none none = some (int n) := by
  simp [numberValue, gatherDigits_toDigits hfits]

theorem numberValue_negative {n : ℕ} (hpos : 0 < n) (hfits : n ≤ 2 ^ 63) :
    numberValue true (Nat.toDigits 10 n) none none = some (int (-(n : ℤ))) := by
  have hbound : n < 2 ^ 64 := by omega
  have hle : n ≤ Nat.pow 2 63 := hfits
  simp [numberValue, gatherDigits_toDigits hbound, Nat.pos_iff_ne_zero.mp hpos, hle]

/-! ## Strings -/

theorem hexValue?_lowerDigit : ∀ n < 16, Hex.value? (Hex.lowerDigit n) = some n := by
  decide

/-- An escaped character is read as itself. -/
theorem scanString_escapeChar (c : Char) (text : List Char) :
    scanString (escapeChar c ++ text) =
      (scanString text).map fun (read, rest) => (c :: read, rest) := by
  unfold escapeChar
  split_ifs with hquote hbackslash hb hf hn hr ht hcontrol
  · subst hquote; rfl
  · subst hbackslash; rfl
  · subst hb; rfl
  · subst hf; rfl
  · subst hn; rfl
  · subst hr; rfl
  · subst ht; rfl
  · have hhigh := hexValue?_lowerDigit (c.toNat / 16) (by omega)
    have hlow := hexValue?_lowerDigit (c.toNat % 16) (by omega)
    have hcode : Hex.quad? '0' '0' (Hex.lowerDigit (c.toNat / 16)) (Hex.lowerDigit (c.toNat % 16)) =
        some c.toNat := by
      have hzero : Hex.value? '0' = some 0 := rfl
      simp only [Hex.quad?, Hex.number?, hzero, hhigh, hlow, Option.bind_some]
      congr 1
      omega
    simp only [List.cons_append, List.nil_append]
    rw [scanString, hcode]
    dsimp only
    rw [if_pos (Or.inl (by omega)), Char.ofNat_toNat]
  · simp only [List.cons_append, List.nil_append]
    rw [scanString, if_neg hcontrol]
    · exact fun hc => absurd hc hquote
    · exact fun _ _ _ _ _ hc => absurd hc hbackslash
    · exact fun _ _ hc => absurd hc hbackslash

theorem scanString_escaped (text rest : List Char) :
    scanString (text.flatMap escapeChar ++ '"' :: rest) = some (text, rest) := by
  induction text with
  | nil => rfl
  | cons c text ih =>
      rw [List.flatMap_cons, List.append_assoc, scanString_escapeChar, ih]
      rfl

/-! ## Tokens -/

mutual

/-- The tokens a value is written with. -/
def tokens : Json → List Token
  | arr [] => [.openArray, .closeArray]
  | arr (item :: rest) => .openArray :: tokens item ++ itemTokens rest
  | obj [] => [.openObject, .closeObject]
  | obj ((key, value) :: rest) =>
    .openObject :: .scalar (.str key) :: .colon :: tokens value ++ fieldTokens rest
  | value => [.scalar value]

/-- The tokens of further items with the bracket that closes the array. -/
def itemTokens : List Json → List Token
  | [] => [.closeArray]
  | item :: rest => .comma :: tokens item ++ itemTokens rest

/-- The tokens of further fields with the brace that closes the object. -/
def fieldTokens : List (String × Json) → List Token
  | [] => [.closeObject]
  | (key, value) :: rest =>
    .comma :: .scalar (.str key) :: .colon :: tokens value ++ fieldTokens rest

end

/-- Values that can be read back: their numbers are whole and fit in 64 bits, and at most
`depth` arrays and objects lie inside one another. -/
inductive Legible : ℕ → Json → Prop
  | null {depth : ℕ} : Legible depth null
  | bool {depth : ℕ} (value : Bool) : Legible depth (bool value)
  | int {depth : ℕ} {value : ℤ} (hlower : -2 ^ 63 ≤ value) (hupper : value < 2 ^ 64) :
      Legible depth (int value)
  | str {depth : ℕ} (text : String) : Legible depth (str text)
  | arr {depth : ℕ} {items : List Json} (hitems : ∀ item ∈ items, Legible depth item) :
      Legible (depth + 1) (arr items)
  | obj {depth : ℕ} {fields : List (String × Json)}
      (hfields : ∀ field ∈ fields, Legible depth field.2) : Legible (depth + 1) (obj fields)

/-- A text is cut into the given tokens, with any bound on their number that its length
allows. -/
def Scans (text : List Char) (read : List Token) : Prop :=
  ∀ steps, text.length < steps → Token.scanUpTo steps text = some read

theorem scans_nil : Scans [] [] := by
  intro steps hsteps
  obtain ⟨more, rfl⟩ := Nat.exists_eq_add_of_lt hsteps
  rfl

variable {text rest : List Char} {read : List Token}

theorem Scans.blank {c : Char} (hblank : isBlank c) (hscans : Scans text read) :
    Scans (c :: text) read := by
  intro steps hsteps
  have hshorter : text.length < steps := by
    rw [List.length_cons] at hsteps
    omega
  have htext := hscans steps hshorter
  obtain ⟨more, rfl⟩ := Nat.exists_eq_add_of_lt hshorter
  rw [Token.scanUpTo, List.dropWhile_cons_of_pos hblank]
  rwa [Token.scanUpTo] at htext

theorem Scans.next {c : Char} {token : Token} (hblank : isBlank c = false)
    (hnext : Token.next (c :: text) = some (token, rest)) (hlength : rest.length ≤ text.length)
    (hscans : Scans rest read) : Scans (c :: text) (token :: read) := by
  intro steps hsteps
  rw [List.length_cons] at hsteps
  obtain ⟨more, rfl⟩ := Nat.exists_eq_add_of_lt hsteps
  rw [Token.scanUpTo, List.dropWhile_cons_of_neg (by simp [hblank])]
  dsimp only
  rw [hnext]
  dsimp only [bind, Option.bind]
  rw [hscans _ (by omega)]
  rfl

theorem Scans.blanks {blanks : List Char} (hblanks : ∀ c ∈ blanks, isBlank c)
    (hscans : Scans text read) : Scans (blanks ++ text) read := by
  induction blanks with
  | nil => exact hscans
  | cons c blanks ih =>
      rw [List.forall_mem_cons] at hblanks
      exact (ih hblanks.2).blank hblanks.1

theorem Scans.newLine (level : ℕ) (hscans : Scans text read) :
    Scans (newLine level ++ text) read := by
  refine hscans.blanks fun c hc => ?_
  rcases List.mem_cons.mp hc with rfl | hc
  · rfl
  · rw [List.eq_of_mem_replicate hc]
    rfl

theorem Scans.quote (string : String) (hscans : Scans rest read) :
    Scans (quote string ++ rest) (.scalar (.str string) :: read) := by
  have hnext : Token.next (Json.quote string ++ rest) = some (.scalar (.str string), rest) := by
    rw [Json.quote, List.append_assoc, List.cons_append, Token.next]
    simp [scanString_escaped]
  exact hscans.next (c := '"') rfl hnext (List.sublist_append_right _ _).length_le

/-- A number begins with a digit, which begins no other token. -/
theorem next_of_isDigit {c : Char} (hdigit : c.isDigit) (text : List Char) :
    Token.next (c :: text) =
      (scanNumber false (c :: text)).map fun (value, rest) => (.scalar value, rest) := by
  unfold Token.next
  split <;> simp_all

theorem isBlank_iff {c : Char} : isBlank c ↔ c = ' ' ∨ c = '\n' ∨ c = '\t' ∨ c = '\r' := by
  simp [isBlank, or_assoc]

theorem isBlank_of_isDigit {c : Char} (hdigit : c.isDigit) : isBlank c = false := by
  by_contra hblank
  rw [Bool.not_eq_false, isBlank_iff] at hblank
  rcases hblank with rfl | rfl | rfl | rfl <;> simp at hdigit

theorem Scans.int {value : ℤ} (hlower : -2 ^ 63 ≤ value) (hupper : value < 2 ^ 64)
    (hstops : Stops rest) (hscans : Scans rest read) :
    Scans (renderInt value ++ rest) (.scalar (.int value) :: read) := by
  cases value with
  | ofNat n =>
      have hread : scanNumber false (Nat.toDigits 10 n ++ rest) = some (Json.int n, rest) := by
        have hfits : n < 2 ^ 64 := Int.ofNat_lt.mp hupper
        rw [scanNumber_toDigits false n hstops, numberValue_toDigits hfits]
        rfl
      obtain ⟨c, digits, hdigits⟩ :=
        List.exists_cons_of_ne_nil (Nat.toDigits_ne_nil (n := n) (b := 10))
      have hfirst : c.isDigit := isDigit_of_mem_toDigits (n := n) (by simp [hdigits])
      rw [hdigits] at hread
      rw [renderInt, hdigits, List.cons_append]
      refine hscans.next (isBlank_of_isDigit hfirst) ?_ (by simp)
      rw [next_of_isDigit hfirst, ← List.cons_append, hread]
      rfl
  | negSucc n =>
      have hread : scanNumber true (Nat.toDigits 10 (n + 1) ++ rest) =
          some (Json.int (Int.negSucc n), rest) := by
        rw [scanNumber_toDigits true (n + 1) hstops, numberValue_negative (by omega) (by omega)]
        rfl
      refine hscans.next (c := '-') rfl ?_ (by simp)
      rw [List.append_eq, Token.next, hread]
      rfl

/-! ## Values -/

theorem stops_newLine (level : ℕ) (text : List Char) : Stops (newLine level ++ text) := by
  rw [newLine, List.cons_append, stops_cons_iff]
  decide

theorem stops_prettyItems (level : ℕ) (items : List Json) (text : List Char) :
    Stops (prettyItems level items ++ text) := by
  cases items with
  | nil =>
      rw [prettyItems, List.append_assoc]
      exact stops_newLine level _
  | cons item items =>
      rw [prettyItems, List.append_assoc, List.cons_append, List.cons_append]
      exact stops_cons_iff.mpr (by decide)

theorem stops_prettyFields (level : ℕ) (fields : List (String × Json)) (text : List Char) :
    Stops (prettyFields level fields ++ text) := by
  cases fields with
  | nil =>
      rw [prettyFields, List.append_assoc]
      exact stops_newLine level _
  | cons field fields =>
      rw [prettyFields]
      exact stops_cons_iff.mpr (by decide)

/-- A value that is cut into its tokens wherever it stands. -/
def Cuts (value : Json) : Prop :=
  ∀ level rest read, Stops rest → Scans rest read →
    Scans (prettyChars level value ++ rest) (tokens value ++ read)

theorem scans_prettyItems {items : List Json} (hitems : ∀ item ∈ items, Cuts item) (level : ℕ)
    (hscans : Scans rest read) :
    Scans (prettyItems level items ++ rest) (itemTokens items ++ read) := by
  induction items with
  | nil =>
      rw [prettyItems, List.append_assoc]
      exact (hscans.next rfl rfl le_rfl).newLine level
  | cons item items ih =>
      rw [List.forall_mem_cons] at hitems
      have hitem := hitems.1 (level + 1) _ _ (stops_prettyItems level items rest) (ih hitems.2)
      rw [prettyItems, itemTokens]
      simp only [List.cons_append, List.append_assoc]
      exact (hitem.newLine (level + 1)).next rfl rfl le_rfl

theorem scans_prettyFields {fields : List (String × Json)}
    (hfields : ∀ field ∈ fields, Cuts field.2) (level : ℕ) (hscans : Scans rest read) :
    Scans (prettyFields level fields ++ rest) (fieldTokens fields ++ read) := by
  induction fields with
  | nil =>
      rw [prettyFields, List.append_assoc]
      exact (hscans.next rfl rfl le_rfl).newLine level
  | cons field fields ih =>
      obtain ⟨key, value⟩ := field
      rw [List.forall_mem_cons] at hfields
      have hvalue := hfields.1 (level + 1) _ _ (stops_prettyFields level fields rest) (ih hfields.2)
      have hcolon := (hvalue.blank (c := ' ') rfl).next (c := ':') rfl rfl le_rfl
      rw [prettyFields, fieldTokens]
      simp only [List.cons_append, List.append_assoc]
      exact ((hcolon.quote key).newLine (level + 1)).next rfl rfl le_rfl

theorem Legible.cuts {depth : ℕ} {value : Json} (hlegible : Legible depth value) : Cuts value := by
  intro level rest read hstops hscans
  induction hlegible generalizing level rest read with
  | null => exact hscans.next rfl rfl (Nat.le_add_right _ 3)
  | bool value =>
      cases value
      · exact hscans.next rfl rfl (Nat.le_add_right _ 4)
      · exact hscans.next rfl rfl (Nat.le_add_right _ 3)
  | int hlower hupper => exact hscans.int hlower hupper hstops
  | str text => exact hscans.quote text
  | @arr depth items hitems ih =>
      cases items with
      | nil => exact (hscans.next rfl rfl le_rfl).next rfl rfl le_rfl
      | cons item items =>
          rw [List.forall_mem_cons] at ih
          have hrest := scans_prettyItems ih.2 level hscans
          have hitem := ih.1 (level + 1) _ _ (stops_prettyItems level items rest) hrest
          rw [prettyChars, tokens]
          simp only [List.cons_append, List.append_assoc]
          exact (hitem.newLine (level + 1)).next rfl rfl le_rfl
  | @obj depth fields hfields ih =>
      cases fields with
      | nil => exact (hscans.next rfl rfl le_rfl).next rfl rfl le_rfl
      | cons field fields =>
          obtain ⟨key, value⟩ := field
          rw [List.forall_mem_cons] at ih
          have hrest := scans_prettyFields ih.2 level hscans
          have hvalue := ih.1 (level + 1) _ _ (stops_prettyFields level fields rest) hrest
          have hcolon := (hvalue.blank (c := ' ') rfl).next (c := ':') rfl rfl le_rfl
          rw [prettyChars, tokens]
          simp only [List.cons_append, List.append_assoc]
          exact ((hcolon.quote key).newLine (level + 1)).next rfl rfl le_rfl

/-! ## The machine -/

mutual

/-- A value with the fields of all objects in the order of their keys. -/
def sorted : Json → Json
  | arr items => arr (sortedItems items)
  | obj fields => obj (sortedFields [] fields)
  | value => value

/-- Items with the fields of all objects in the order of their keys. -/
def sortedItems : List Json → List Json
  | [] => []
  | item :: rest => sorted item :: sortedItems rest

/-- Fields put in the places that their keys have among others. -/
def sortedFields (known : List (String × Json)) : List (String × Json) → List (String × Json)
  | [] => known
  | (key, value) :: rest => sortedFields (insertField key (sorted value) known) rest

end

theorem sortedItems_eq_map (items : List Json) : sortedItems items = items.map sorted := by
  induction items with
  | nil => rfl
  | cons item items ih => rw [sortedItems, ih, List.map_cons]

open Machine

/-- A value whose tokens take the machine behind the value, wherever it stands. -/
def Runs (depth : ℕ) (value : Json) : Prop :=
  ∀ stack expects rest, stack.length + depth ≤ maxDepth →
    expects = .value ∨ expects = .valueOrClose →
      run ⟨stack, expects, none⟩ (tokens value ++ rest) =
        run (complete stack (sorted value)) rest

theorem run_itemTokens {depth : ℕ} {items : List Json} (hitems : ∀ item ∈ items, Runs depth item)
    {stack : List Frame} (hroom : stack.length + 1 + depth ≤ maxDepth) (done : List Json)
    (rest : List Token) :
    run ⟨.array done :: stack, .commaOrClose, none⟩ (itemTokens items ++ rest) =
      run (complete stack (arr (done.reverse ++ sortedItems items))) rest := by
  induction items generalizing done with
  | nil =>
      rw [sortedItems, List.append_nil]
      rfl
  | cons item items ih =>
      rw [List.forall_mem_cons] at hitems
      have hitem := hitems.1 (.array done :: stack) .value (itemTokens items ++ rest) hroom
        (Or.inl rfl)
      calc run ⟨.array done :: stack, .commaOrClose, none⟩ (itemTokens (item :: items) ++ rest)
          = run ⟨.array done :: stack, .value, none⟩
              (tokens item ++ (itemTokens items ++ rest)) := by
            rw [itemTokens, List.append_assoc]
            rfl
        _ = run ⟨.array (sorted item :: done) :: stack, .commaOrClose, none⟩
              (itemTokens items ++ rest) := hitem
        _ = _ := by
            rw [ih hitems.2, List.reverse_cons, List.append_assoc, sortedItems]
            rfl

theorem run_fieldTokens {depth : ℕ} {fields : List (String × Json)}
    (hfields : ∀ field ∈ fields, Runs depth field.2) {stack : List Frame}
    (hroom : stack.length + 1 + depth ≤ maxDepth) (done : List (String × Json)) (key : String)
    (rest : List Token) :
    run ⟨.object done key :: stack, .commaOrClose, none⟩ (fieldTokens fields ++ rest) =
      run (complete stack (obj (sortedFields done fields))) rest := by
  induction fields generalizing done key with
  | nil => rfl
  | cons field fields ih =>
      obtain ⟨name, value⟩ := field
      rw [List.forall_mem_cons] at hfields
      have hvalue := hfields.1 (.object done name :: stack) .value (fieldTokens fields ++ rest)
        hroom (Or.inl rfl)
      calc run ⟨.object done key :: stack, .commaOrClose, none⟩
            (fieldTokens ((name, value) :: fields) ++ rest)
          = run ⟨.object done name :: stack, .value, none⟩
              (tokens value ++ (fieldTokens fields ++ rest)) := by
            rw [fieldTokens, List.append_assoc]
            rfl
        _ = run ⟨.object (insertField name (sorted value) done) name :: stack, .commaOrClose, none⟩
              (fieldTokens fields ++ rest) := hvalue
        _ = _ := by
            rw [ih hfields.2, sortedFields]

theorem run_openArray (stack : List Frame) (hroom : stack.length < maxDepth)
    {expects : Expectation} (hexpects : expects = .value ∨ expects = .valueOrClose)
    (rest : List Token) :
    run ⟨stack, expects, none⟩ (.openArray :: rest) =
      run ⟨.array [] :: stack, .valueOrClose, none⟩ rest := by
  have hstep : step ⟨stack, expects, none⟩ .openArray = push stack (.array []) .valueOrClose := by
    rcases hexpects with rfl | rfl <;> rfl
  rw [run, hstep, push, if_pos hroom]
  rfl

theorem run_openObject (stack : List Frame) (hroom : stack.length < maxDepth)
    {expects : Expectation} (hexpects : expects = .value ∨ expects = .valueOrClose)
    (rest : List Token) :
    run ⟨stack, expects, none⟩ (.openObject :: rest) =
      run ⟨.object [] "" :: stack, .keyOrClose, none⟩ rest := by
  have hstep : step ⟨stack, expects, none⟩ .openObject =
      push stack (.object [] "") .keyOrClose := by
    rcases hexpects with rfl | rfl <;> rfl
  rw [run, hstep, push, if_pos hroom]
  rfl

theorem Legible.runs {depth : ℕ} {value : Json} (hlegible : Legible depth value) :
    Runs depth value := by
  intro stack expects rest hroom hexpects
  induction hlegible generalizing stack expects rest with
  | null | bool | int | str => rcases hexpects with rfl | rfl <;> rfl
  | @arr depth items hitems ih =>
      have hopen := run_openArray stack (by omega) hexpects
      cases items with
      | nil =>
          rw [tokens, List.cons_append, hopen]
          rfl
      | cons item items =>
          rw [List.forall_mem_cons] at ih
          have hinner : stack.length + 1 + depth ≤ maxDepth := by omega
          rw [tokens, List.cons_append, List.cons_append, hopen, List.append_assoc,
            ih.1 (.array [] :: stack) _ _ hinner (Or.inr rfl)]
          exact run_itemTokens ih.2 hinner [sorted item] rest
  | @obj depth fields hfields ih =>
      have hopen := run_openObject stack (by omega) hexpects
      cases fields with
      | nil =>
          rw [tokens, List.cons_append, hopen]
          rfl
      | cons field fields =>
          obtain ⟨key, value⟩ := field
          rw [List.forall_mem_cons] at ih
          have hinner : stack.length + 1 + depth ≤ maxDepth := by omega
          have hvalue := ih.1 (.object [] key :: stack) .value (fieldTokens fields ++ rest) hinner
            (Or.inl rfl)
          calc run ⟨stack, expects, none⟩ (tokens (.obj ((key, value) :: fields)) ++ rest)
              = run ⟨.object [] "" :: stack, .keyOrClose, none⟩
                  (.scalar (.str key) :: .colon ::
                    (tokens value ++ (fieldTokens fields ++ rest))) := by
                rw [← hopen, tokens]
                simp only [List.cons_append, List.append_assoc]
            _ = run ⟨.object [(key, sorted value)] key :: stack, .commaOrClose, none⟩
                  (fieldTokens fields ++ rest) := hvalue
            _ = _ := run_fieldTokens ih.2 hinner _ key rest

/-! ## Reading back -/

/-- A value that is written over several lines is read back, blanks behind it
notwithstanding, with the fields of its objects in the order of their keys. -/
theorem parse?_pretty {value : Json} (hlegible : Legible maxDepth value) (blanks : String)
    (hblanks : ∀ c ∈ blanks.toList, isBlank c) :
    parse? (value.pretty ++ blanks) = some value.sorted := by
  have hstops : Stops blanks.toList := by
    intro c hc
    have hblank := isBlank_iff.mp (hblanks c (List.mem_of_mem_head? hc))
    rcases hblank with rfl | rfl | rfl | rfl <;> decide
  have hscans : Scans (prettyChars 0 value ++ blanks.toList) (tokens value ++ []) := by
    refine hlegible.cuts 0 _ _ hstops ?_
    rw [← List.append_nil blanks.toList]
    exact scans_nil.blanks hblanks
  have hscan : Token.scan (value.pretty ++ blanks).toList = some (tokens value ++ []) := by
    rw [String.toList_append, pretty, String.toList_ofList]
    exact hscans _ (Nat.lt_succ_self _)
  have hrun := hlegible.runs [] .value [] (by simp) (Or.inl rfl)
  rw [parse?, hscan]
  dsimp only [bind, Option.bind]
  rw [initial, hrun]
  rfl

end Json
end ModuleDiscovery
