import Mathlib.Data.List.Basic
import ModuleDiscovery.Text.Utf8

/-!
# Texts survive being written as UTF-8

The bytes of a character drive the machine of `Utf8.step` from rest back to rest, and the
machine yields that character on the way (`Utf8.scan_encodeChar`).  The first byte says how
many are to come and bounds the second; a character is never spelled with more bytes than it
takes and is no surrogate, which is what keeps its second byte within those bounds.

The way back is a property of the machine at any byte (`Utf8.Arrived`): the bytes that have
arrived spell a character with the ones that are missing.  So what is read of any bytes are
the characters they spell, with a mark for each piece in between that spells none
(`Utf8.Scanned`).  Bytes that are read without a mark are the bytes of their text
(`Utf8.decode?_eq_some_iff`), and a text that stands for other bytes shows that it does, by
an U+FFFD in it (`Utf8.encode_decodeLossy_of_not_mem`).
-/

namespace ModuleDiscovery.Utf8

/-! ## Single bytes -/

theorem scan_cons (stage : Stage) (byte : UInt8) (rest : Bytes) :
    scan stage (byte :: rest) =
      (step stage byte.toNat).1 ++ scan (step stage byte.toNat).2 rest := by
  cases stage <;> rfl

variable {bits missing lower upper byte : ℕ}

theorem step_last (hlower : lower ≤ byte) (hupper : byte ≤ upper) :
    step (some ⟨bits, 1, lower, upper⟩) byte =
      ([some (Char.ofNat (bits * 64 + (byte - 0x80)))], none) := by
  simp [step, hlower, hupper]

theorem step_more (hlower : lower ≤ byte) (hupper : byte ≤ upper) :
    step (some ⟨bits, missing + 2, lower, upper⟩) byte =
      ([], some ⟨bits * 64 + (byte - 0x80), missing + 1, 0x80, 0xBF⟩) := by
  simp [step, hlower, hupper]

theorem start_one (hbyte : byte < 0x80) : start byte = ([some (Char.ofNat byte)], none) :=
  if_pos hbyte

theorem start_two (hlow : 0xC2 ≤ byte) (hhigh : byte < 0xE0) :
    start byte = ([], some ⟨byte - 0xC0, 1, 0x80, 0xBF⟩) := by
  rw [start, if_neg (by omega), if_neg (by omega), if_pos hhigh]

/-- The second of three bytes excludes overlong forms behind the first leading byte and
surrogates behind the last but two. -/
theorem start_three (hlow : 0xE0 ≤ byte) (hhigh : byte < 0xF0) :
    start byte = ([], some ⟨byte - 0xE0, 2, if byte = 0xE0 then 0xA0 else 0x80,
      if byte = 0xED then 0x9F else 0xBF⟩) := by
  rw [start, if_neg (by omega), if_neg (by omega), if_neg (by omega)]
  by_cases hfirst : byte = 0xE0
  · simp [hfirst]
  · by_cases hsurrogate : byte = 0xED
    · simp [hsurrogate]
    · rw [if_neg hfirst, if_neg hsurrogate, if_pos hhigh, if_neg hfirst, if_neg hsurrogate]

/-- The second of four bytes excludes overlong forms behind the first leading byte and
numbers that are too large behind the last. -/
theorem start_four (hlow : 0xF0 ≤ byte) (hhigh : byte ≤ 0xF4) :
    start byte = ([], some ⟨byte - 0xF0, 3, if byte = 0xF0 then 0x90 else 0x80,
      if byte = 0xF4 then 0x8F else 0xBF⟩) := by
  rw [start, if_neg (by omega), if_neg (by omega), if_neg (by omega), if_neg (by omega),
    if_neg (by omega), if_neg (by omega)]
  by_cases hfirst : byte = 0xF0
  · simp [hfirst]
  · by_cases hlast : byte = 0xF4
    · simp [hlast]
    · rw [if_neg hfirst, if_pos (by omega), if_neg hfirst, if_neg hlast]

/-! ## Characters -/

variable {n : ℕ} (rest : Bytes)

theorem toNat_ofNat (hn : n < 256) : (UInt8.ofNat n).toNat = n := by
  rw [UInt8.toNat_ofNat']
  exact Nat.mod_eq_of_lt hn

theorem scan_one (hn : n ≤ 0x7F) :
    scan none (UInt8.ofNat n :: rest) = some (Char.ofNat n) :: scan none rest := by
  have hstart : step none n = _ := start_one (show n < 0x80 by omega)
  rw [scan_cons, toNat_ofNat (by omega), hstart]
  rfl

theorem scan_two (hlow : 0x80 ≤ n) (hhigh : n ≤ 0x7FF) :
    scan none (UInt8.ofNat (n / 64 % 32 + 192) :: UInt8.ofNat (n % 64 + 128) :: rest) =
      some (Char.ofNat n) :: scan none rest := by
  have hstart : step none (n / 64 % 32 + 192) = _ := start_two (by omega) (by omega)
  have hbits : (n / 64 % 32 + 192 - 0xC0) * 64 + (n % 64 + 128 - 0x80) = n := by omega
  rw [scan_cons, toNat_ofNat (by omega), hstart, scan_cons, toNat_ofNat (by omega),
    step_last (by omega) (by omega), hbits]
  rfl

theorem scan_three (hlow : 0x800 ≤ n) (hhigh : n ≤ 0xFFFF) (hvalid : n < 0xD800 ∨ 0xDFFF < n) :
    scan none (UInt8.ofNat (n / 4096 % 16 + 224) :: UInt8.ofNat (n / 64 % 64 + 128) ::
      UInt8.ofNat (n % 64 + 128) :: rest) = some (Char.ofNat n) :: scan none rest := by
  have hstart : step none (n / 4096 % 16 + 224) = _ := start_three (by omega) (by omega)
  have hbits : ((n / 4096 % 16 + 224 - 0xE0) * 64 + (n / 64 % 64 + 128 - 0x80)) * 64 +
      (n % 64 + 128 - 0x80) = n := by omega
  have hlower : (if n / 4096 % 16 + 224 = 0xE0 then 0xA0 else 0x80) ≤ n / 64 % 64 + 128 := by
    split_ifs <;> omega
  have hupper : n / 64 % 64 + 128 ≤ (if n / 4096 % 16 + 224 = 0xED then 0x9F else 0xBF) := by
    split_ifs <;> omega
  rw [scan_cons, toNat_ofNat (by omega), hstart, scan_cons, toNat_ofNat (by omega),
    step_more hlower hupper, scan_cons, toNat_ofNat (by omega), step_last (by omega) (by omega),
    hbits]
  rfl

theorem scan_four (hlow : 0x10000 ≤ n) (hhigh : n < 0x110000) :
    scan none (UInt8.ofNat (n / 262144 % 8 + 240) :: UInt8.ofNat (n / 4096 % 64 + 128) ::
      UInt8.ofNat (n / 64 % 64 + 128) :: UInt8.ofNat (n % 64 + 128) :: rest) =
      some (Char.ofNat n) :: scan none rest := by
  have hstart : step none (n / 262144 % 8 + 240) = _ := start_four (by omega) (by omega)
  have hbits : (((n / 262144 % 8 + 240 - 0xF0) * 64 + (n / 4096 % 64 + 128 - 0x80)) * 64 +
      (n / 64 % 64 + 128 - 0x80)) * 64 + (n % 64 + 128 - 0x80) = n := by omega
  have hlower : (if n / 262144 % 8 + 240 = 0xF0 then 0x90 else 0x80) ≤ n / 4096 % 64 + 128 := by
    split_ifs <;> omega
  have hupper : n / 4096 % 64 + 128 ≤ (if n / 262144 % 8 + 240 = 0xF4 then 0x8F else 0xBF) := by
    split_ifs <;> omega
  rw [scan_cons, toNat_ofNat (by omega), hstart, scan_cons, toNat_ofNat (by omega),
    step_more hlower hupper, scan_cons, toNat_ofNat (by omega), step_more (by omega) (by omega),
    scan_cons, toNat_ofNat (by omega), step_last (by omega) (by omega), hbits]
  rfl

/-- What the machine yields for the bytes of a character, whatever follows. -/
theorem scan_encodeChar (c : Char) :
    scan none (String.utf8EncodeChar c ++ rest) = some c :: scan none rest := by
  have hc : Char.ofNat c.val.toNat = c := c.ofNat_toNat
  have hvalid : c.val.toNat < 0xD800 ∨ 0xDFFF < c.val.toNat ∧ c.val.toNat < 0x110000 := c.valid
  simp only [String.utf8EncodeChar]
  split_ifs with hone htwo hthree
  · exact (scan_one rest hone).trans (by rw [hc])
  · exact (scan_two rest (by omega) htwo).trans (by rw [hc])
  · exact (scan_three rest (by omega) hthree (by omega)).trans (by rw [hc])
  · exact (scan_four rest (by omega) (by omega)).trans (by rw [hc])

/-- An ASCII character is one byte, which no other character holds. -/
theorem count_encodeChar {byte : UInt8} (hascii : byte.toNat < 0x80) (c : Char) :
    (String.utf8EncodeChar c).count byte = if c.toNat = byte.toNat then 1 else 0 := by
  have hbyte : ∀ n < 256, UInt8.ofNat n = byte ↔ n = byte.toNat := by
    intro n hn
    rw [← UInt8.toNat_inj, toNat_ofNat hn]
  have hval : c.toNat = c.val.toNat := rfl
  simp only [String.utf8EncodeChar, hval]
  split_ifs <;> simp only [List.count_cons, List.count_nil, beq_iff_eq] <;> grind

/-! ## Texts -/

theorem count_flatMap_encodeChar {byte : UInt8} (hascii : byte.toNat < 0x80) {d : Char}
    (hd : d.toNat = byte.toNat) (text : List Char) :
    (text.flatMap String.utf8EncodeChar).count byte = text.count d := by
  induction text with
  | nil => rfl
  | cons c text ih =>
      rw [List.flatMap_cons, List.count_append, count_encodeChar hascii, ih, List.count_cons,
        ← hd, Nat.add_comm]
      simp [Char.toNat_inj]

theorem scan_encode (text : List Char) :
    scan none (text.flatMap String.utf8EncodeChar) = text.map some := by
  induction text with
  | nil => rfl
  | cons c text ih => rw [List.flatMap_cons, scan_encodeChar, ih, List.map_cons]

theorem mapM_id_eq_some_iff {α : Type} {marks : List (Option α)} {values : List α} :
    marks.mapM id = some values ↔ marks = values.map some := by
  induction marks generalizing values with
  | nil => cases values <;> simp
  | cons mark marks ih =>
      rw [List.mapM_cons]
      cases mark <;> cases values <;> simp [Option.bind_eq_some_iff, ih, and_comm]

/-- A text that was written as UTF-8 is well-formed and is read back. -/
theorem decode?_encode (text : String) : decode? (encode text) = some text := by
  have hmarks : (text.toList.map some).mapM id = some text.toList := mapM_id_eq_some_iff.mpr rfl
  rw [decode?, encode, scan_encode, hmarks, Option.map_some, String.ofList_toList]

@[simp] theorem decodeLossy_encode (text : String) : decodeLossy (encode text) = text := by
  rw [decodeLossy, encode, scan_encode, List.map_map]
  have hsome : (fun c : Char => (some c).getD '\uFFFD') = id := rfl
  rw [show ((·.getD '\uFFFD') ∘ some : Char → Char) = id from hsome, List.map_id,
    String.ofList_toList]

/-! ## Characters that begin -/

section Any

variable {first second third fourth : UInt8} {p : Partial} {stage : Stage}
  {arrived tail bytes rest : Bytes}

theorem ofNat_eq {n : ℕ} (byte : UInt8) (hn : n = byte.toNat) : UInt8.ofNat n = byte := by
  rw [hn, UInt8.ofNat_toNat]

theorem toNat_ofNat_val {n : ℕ} (hvalid : n < 0xD800 ∨ 0xDFFF < n ∧ n < 0x110000) :
    (Char.ofNat n).val.toNat = n := by
  have hn : n.isValidChar := hvalid
  rw [Char.ofNat, dif_pos hn]
  rfl

theorem encodeChar_two (hlow : 0xC2 ≤ first.toNat) (hhigh : first.toNat < 0xE0)
    (hlower : 0x80 ≤ second.toNat) (hupper : second.toNat ≤ 0xBF) :
    String.utf8EncodeChar (Char.ofNat ((first.toNat - 0xC0) * 64 + (second.toNat - 0x80))) =
      [first, second] := by
  generalize hn : (first.toNat - 0xC0) * 64 + (second.toNat - 0x80) = n
  simp only [String.utf8EncodeChar]
  rw [toNat_ofNat_val (by omega), if_neg (by omega), if_pos (by omega),
    ofNat_eq first (by omega), ofNat_eq second (by omega)]

theorem encodeChar_three (hlow : 0xE0 ≤ first.toNat) (hhigh : first.toNat < 0xF0)
    (hlower : (if first.toNat = 0xE0 then 0xA0 else 0x80) ≤ second.toNat)
    (hupper : second.toNat ≤ if first.toNat = 0xED then 0x9F else 0xBF)
    (hthird : 0x80 ≤ third.toNat ∧ third.toNat ≤ 0xBF) :
    String.utf8EncodeChar (Char.ofNat (((first.toNat - 0xE0) * 64 + (second.toNat - 0x80)) * 64 +
      (third.toNat - 0x80))) = [first, second, third] := by
  have hsecond : 0x80 ≤ second.toNat ∧ second.toNat ≤ 0xBF := by
    split_ifs at hlower hupper <;> omega
  generalize hn : ((first.toNat - 0xE0) * 64 + (second.toNat - 0x80)) * 64 +
    (third.toNat - 0x80) = n
  have hlong : 0x800 ≤ n := by split_ifs at hlower <;> omega
  have hvalid : n < 0xD800 ∨ 0xDFFF < n := by split_ifs at hupper <;> omega
  simp only [String.utf8EncodeChar]
  rw [toNat_ofNat_val (by omega), if_neg (by omega), if_neg (by omega), if_pos (by omega),
    ofNat_eq first (by omega), ofNat_eq second (by omega), ofNat_eq third (by omega)]

theorem encodeChar_four (hlow : 0xF0 ≤ first.toNat) (hhigh : first.toNat ≤ 0xF4)
    (hlower : (if first.toNat = 0xF0 then 0x90 else 0x80) ≤ second.toNat)
    (hupper : second.toNat ≤ if first.toNat = 0xF4 then 0x8F else 0xBF)
    (hthird : 0x80 ≤ third.toNat ∧ third.toNat ≤ 0xBF)
    (hfourth : 0x80 ≤ fourth.toNat ∧ fourth.toNat ≤ 0xBF) :
    String.utf8EncodeChar (Char.ofNat ((((first.toNat - 0xF0) * 64 + (second.toNat - 0x80)) * 64 +
      (third.toNat - 0x80)) * 64 + (fourth.toNat - 0x80))) = [first, second, third, fourth] := by
  have hsecond : 0x80 ≤ second.toNat ∧ second.toNat ≤ 0xBF := by
    split_ifs at hlower hupper <;> omega
  generalize hn : (((first.toNat - 0xF0) * 64 + (second.toNat - 0x80)) * 64 +
    (third.toNat - 0x80)) * 64 + (fourth.toNat - 0x80) = n
  have hlong : 0x10000 ≤ n := by split_ifs at hlower <;> omega
  have hvalid : n < 0x110000 := by split_ifs at hupper <;> omega
  simp only [String.utf8EncodeChar]
  rw [toNat_ofNat_val (by omega), if_neg (by omega), if_neg (by omega), if_neg (by omega),
    ofNat_eq first (by omega), ofNat_eq second (by omega), ofNat_eq third (by omega),
    ofNat_eq fourth (by omega)]

/-- Whether bytes are the ones that are missing of a character. -/
def Completes (p : Partial) : Bytes → Prop
  | [] => False
  | byte :: rest =>
    (p.lower ≤ byte.toNat ∧ byte.toNat ≤ p.upper) ∧
      if p.missing ≤ 1 then rest = []
      else Completes ⟨p.bits * 64 + (byte.toNat - 0x80), p.missing - 1, 0x80, 0xBF⟩ rest

theorem completes_cons {byte : UInt8} : Completes p (byte :: tail) ↔
    (p.lower ≤ byte.toNat ∧ byte.toNat ≤ p.upper) ∧
      if p.missing ≤ 1 then tail = []
      else Completes ⟨p.bits * 64 + (byte.toNat - 0x80), p.missing - 1, 0x80, 0xBF⟩ tail :=
  Iff.rfl

/-- The bits of a character with the missing bytes. -/
def bitsWith (bits : ℕ) (tail : Bytes) : ℕ :=
  tail.foldl (fun bits byte => bits * 64 + (byte.toNat - 0x80)) bits

/-- The bytes that have arrived of the character that is pending, if there is one: with the
missing ones they spell it. -/
def Arrived : Stage → Bytes → Prop
  | none, arrived => arrived = []
  | some p, arrived => arrived ≠ [] ∧ ∀ tail, Completes p tail →
      String.utf8EncodeChar (Char.ofNat (bitsWith p.bits tail)) = arrived ++ tail

theorem arrived_start_two (hlow : 0xC2 ≤ first.toNat) (hhigh : first.toNat < 0xE0) :
    Arrived (some ⟨first.toNat - 0xC0, 1, 0x80, 0xBF⟩) [first] := by
  refine ⟨by simp, fun tail htail => ?_⟩
  match tail, htail with
  | [second], ⟨hsecond, _⟩ => exact encodeChar_two hlow hhigh hsecond.1 hsecond.2

theorem arrived_start_three (hlow : 0xE0 ≤ first.toNat) (hhigh : first.toNat < 0xF0) :
    Arrived (some ⟨first.toNat - 0xE0, 2, if first.toNat = 0xE0 then 0xA0 else 0x80,
      if first.toNat = 0xED then 0x9F else 0xBF⟩) [first] := by
  refine ⟨by simp, fun tail htail => ?_⟩
  match tail, htail with
  | [second, third], ⟨hsecond, hthird, _⟩ =>
      exact encodeChar_three hlow hhigh hsecond.1 hsecond.2 hthird

theorem arrived_start_four (hlow : 0xF0 ≤ first.toNat) (hhigh : first.toNat ≤ 0xF4) :
    Arrived (some ⟨first.toNat - 0xF0, 3, if first.toNat = 0xF0 then 0x90 else 0x80,
      if first.toNat = 0xF4 then 0x8F else 0xBF⟩) [first] := by
  refine ⟨by simp, fun tail htail => ?_⟩
  match tail, htail with
  | [second, third, fourth], ⟨hsecond, hthird, hfourth, _⟩ =>
      exact encodeChar_four hlow hhigh hsecond.1 hsecond.2 hthird hfourth

theorem Arrived.last {byte : UInt8} (harrived : Arrived (some p) arrived)
    (hrange : p.lower ≤ byte.toNat ∧ byte.toNat ≤ p.upper) (hlast : p.missing ≤ 1) :
    String.utf8EncodeChar (Char.ofNat (p.bits * 64 + (byte.toNat - 0x80))) = arrived ++ [byte] :=
  harrived.2 [byte] (completes_cons.mpr ⟨hrange, by rw [if_pos hlast]⟩)

theorem Arrived.more {byte : UInt8} (harrived : Arrived (some p) arrived)
    (hrange : p.lower ≤ byte.toNat ∧ byte.toNat ≤ p.upper) (hmore : ¬ p.missing ≤ 1) :
    Arrived (some ⟨p.bits * 64 + (byte.toNat - 0x80), p.missing - 1, 0x80, 0xBF⟩)
      (arrived ++ [byte]) := by
  refine ⟨by simp, fun tail htail => ?_⟩
  have hbits : bitsWith p.bits (byte :: tail) =
      bitsWith (p.bits * 64 + (byte.toNat - 0x80)) tail := by
    rw [bitsWith, bitsWith, List.foldl_cons]
  have hall : Completes p (byte :: tail) := by
    rw [completes_cons, if_neg hmore]
    exact ⟨hrange, htail⟩
  have hchar := harrived.2 (byte :: tail) hall
  rwa [hbits, List.append_cons] at hchar

/-- A first byte is a character, is malformed, or begins a character. -/
theorem start_cases (byte : UInt8) :
    (start byte.toNat = ([some (Char.ofNat byte.toNat)], none) ∧ byte.toNat < 0x80) ∨
      start byte.toNat = ([none], none) ∨
      ∃ p, start byte.toNat = ([], some p) ∧ Arrived (some p) [byte] := by
  by_cases hone : byte.toNat < 0x80
  · exact Or.inl ⟨start_one hone, hone⟩
  by_cases hoverlong : byte.toNat < 0xC2
  · exact Or.inr (Or.inl (by rw [start, if_neg hone, if_pos hoverlong]))
  by_cases htwo : byte.toNat < 0xE0
  · exact Or.inr (Or.inr ⟨_, start_two (by omega) htwo, arrived_start_two (by omega) htwo⟩)
  by_cases hthree : byte.toNat < 0xF0
  · exact Or.inr (Or.inr ⟨_, start_three (by omega) hthree, arrived_start_three (by omega) hthree⟩)
  by_cases hfour : byte.toNat ≤ 0xF4
  · exact Or.inr (Or.inr ⟨_, start_four (by omega) hfour, arrived_start_four (by omega) hfour⟩)
  · refine Or.inr (Or.inl ?_)
    rw [start, if_neg hone, if_neg hoverlong, if_neg htwo, if_neg (by omega), if_neg (by omega),
      if_neg hthree, if_neg (by omega), if_neg (by omega), if_neg (by omega)]

/-! ## Any bytes -/

/-- What bytes are read as: the characters they spell, and a mark for each piece between them
that spells none. -/
inductive Scanned : Bytes → List (Option Char) → Prop
  | nil : Scanned [] []
  | char (c : Char) {rest : Bytes} {marks : List (Option Char)} (hrest : Scanned rest marks) :
      Scanned (String.utf8EncodeChar c ++ rest) (some c :: marks)
  | mark {piece rest : Bytes} {marks : List (Option Char)} (hpiece : piece ≠ [])
      (hrest : Scanned rest marks) : Scanned (piece ++ rest) (none :: marks)

theorem scanned_start (byte : UInt8) (hrest : ∀ stage arrived, Arrived stage arrived →
    Scanned (arrived ++ rest) (scan stage rest)) :
    Scanned (byte :: rest) ((start byte.toNat).1 ++ scan (start byte.toNat).2 rest) := by
  have hempty : Scanned rest (scan none rest) := hrest none [] rfl
  rcases start_cases byte with ⟨hstart, hone⟩ | hstart | ⟨p, hstart, harrived⟩ <;> rw [hstart]
  · have hchar : String.utf8EncodeChar (Char.ofNat byte.toNat) = [byte] := by
      simp only [String.utf8EncodeChar]
      rw [toNat_ofNat_val (by omega), if_pos (by omega), ofNat_eq byte rfl]
    have hscanned := Scanned.char (Char.ofNat byte.toNat) hempty
    rwa [hchar] at hscanned
  · exact Scanned.mark (List.cons_ne_nil byte []) hempty
  · exact hrest _ _ harrived

theorem scanned_scan (harrived : Arrived stage arrived) (bytes : Bytes) :
    Scanned (arrived ++ bytes) (scan stage bytes) := by
  induction bytes generalizing stage arrived with
  | nil =>
      cases stage with
      | none =>
          obtain rfl := harrived
          exact .nil
      | some p => exact .mark harrived.1 .nil
  | cons byte rest ih =>
      have hstart := scanned_start byte fun _ _ => ih
      rw [scan_cons]
      cases stage with
      | none =>
          obtain rfl := harrived
          exact hstart
      | some p =>
          have happend : arrived ++ byte :: rest = arrived ++ [byte] ++ rest := by simp
          simp only [step]
          split_ifs with hrange hlast
          · have hrest : Scanned ([] ++ rest) (scan none rest) := ih rfl
            rw [happend, ← harrived.last hrange hlast]
            exact .char _ hrest
          · rw [happend]
            exact ih (harrived.more hrange hlast)
          · exact .mark harrived.1 hstart

/-- Any bytes are read from the beginning to the end. -/
theorem scanned_scan_none (bytes : Bytes) : Scanned bytes (scan none bytes) := by
  have hnothing : Arrived none [] := rfl
  exact scanned_scan hnothing bytes

/-! ## What is read of any bytes -/

theorem Scanned.eq_flatMap {chars : List Char} (hscanned : Scanned bytes (chars.map some)) :
    bytes = chars.flatMap String.utf8EncodeChar := by
  induction chars generalizing bytes with
  | nil =>
      cases hscanned
      rfl
  | cons c chars ih =>
      cases hscanned with
      | char _ hrest => rw [ih hrest, List.flatMap_cons]

/-- A character that is read is among the bytes. -/
theorem Scanned.infix_of_mem {marks : List (Option Char)} (hscanned : Scanned bytes marks)
    {c : Char} (hc : some c ∈ marks) : String.utf8EncodeChar c <:+: bytes := by
  induction hscanned with
  | nil => cases hc
  | char d hrest ih =>
      rcases List.mem_cons.mp hc with hd | hc
      · obtain rfl := Option.some.inj hd
        exact (List.prefix_append _ _).isInfix
      · exact (ih hc).trans (List.suffix_append _ _).isInfix
  | mark hpiece hrest ih =>
      have hrest := (List.mem_cons.mp hc).resolve_left (by simp)
      exact (ih hrest).trans (List.suffix_append _ _).isInfix

/-- Well-formed bytes are the text that they are read as. -/
theorem decode?_eq_some_iff {text : String} : decode? bytes = some text ↔ encode text = bytes := by
  constructor
  · intro hdecode
    obtain ⟨chars, hchars, rfl⟩ := Option.map_eq_some_iff.mp hdecode
    have hscanned := scanned_scan_none bytes
    rw [mapM_id_eq_some_iff.mp hchars] at hscanned
    rw [encode, String.toList_ofList, hscanned.eq_flatMap]
  · rintro rfl
    exact decode?_encode text

/-- A text that shows no malformed bytes is the text of its bytes. -/
theorem encode_decodeLossy_of_not_mem (hmarks : '\uFFFD' ∉ (decodeLossy bytes).toList) :
    encode (decodeLossy bytes) = bytes := by
  have hread : scan none bytes = (decodeLossy bytes).toList.map some := by
    rw [decodeLossy, String.toList_ofList] at hmarks ⊢
    rw [List.map_map]
    refine (List.map_id _).symm.trans (List.map_congr_left fun mark hmark => ?_)
    cases mark with
    | some c => rfl
    | none => exact absurd (List.mem_map.mpr ⟨none, hmark, rfl⟩) hmarks
  have hscanned := scanned_scan_none bytes
  rw [hread] at hscanned
  exact hscanned.eq_flatMap.symm

/-- Only its own bytes are shown as a text without U+FFFD. -/
theorem decodeLossy_eq_iff {text : String} (hmarks : '\uFFFD' ∉ text.toList) :
    decodeLossy bytes = text ↔ encode text = bytes := by
  constructor
  · rintro rfl
    exact encode_decodeLossy_of_not_mem hmarks
  · rintro rfl
    exact decodeLossy_encode text

/-- A character of the text is among the bytes, unless it stands for malformed ones. -/
theorem infix_of_mem_decodeLossy {c : Char} (hmark : c ≠ '\uFFFD')
    (hc : c ∈ (decodeLossy bytes).toList) : String.utf8EncodeChar c <:+: bytes := by
  rw [decodeLossy, String.toList_ofList] at hc
  obtain ⟨mark, hmem, hread⟩ := List.mem_map.mp hc
  cases mark with
  | none => exact absurd hread.symm hmark
  | some d =>
      obtain rfl : d = c := hread
      exact (scanned_scan_none bytes).infix_of_mem hmem

theorem encode_decodeLossy_iff :
    encode (decodeLossy bytes) = bytes ↔ (decode? bytes).isSome := by
  constructor
  · intro hbytes
    rw [decode?_eq_some_iff.mpr hbytes]
    rfl
  · intro hsome
    obtain ⟨text, htext⟩ := Option.isSome_iff_exists.mp hsome
    rw [← decode?_eq_some_iff.mp htext, decodeLossy_encode]

end Any

end ModuleDiscovery.Utf8
