import Mathlib.Data.List.Infix
import ModuleDiscovery.SourceUrl
import ModuleDiscovery.Text.Blank

/-!
# Sources with a marker

A source that holds the marker of a stamp is not stamped (`stamp_of_isStamped`), and it does
not matter in which of its lines the marker is (`isStamped_iff_line`).  One that was stamped
holds the marker (`isStamped_stamp`), so what was stamped for one path stays as it is when it
is stamped for another (`stamp_stamp`).
-/

namespace ModuleDiscovery

/-! ## Texts inside texts -/

theorem occurs_iff (part text : List Char) : occurs part text = true ↔ part <:+: text := by
  induction text with
  | nil => rw [occurs, List.isEmpty_iff, List.infix_nil]
  | cons c text ih =>
      rw [occurs, Bool.or_eq_true, List.isPrefixOf_iff_prefix, ih, List.infix_cons_iff]

/-- A part without a separator lies on one side of it. -/
theorem infix_append_cons_iff {part front rest : List Char} {c : Char} (hpart : c ∉ part) :
    part <:+: front ++ c :: rest ↔ part <:+: front ∨ part <:+: rest := by
  -- a part that starts with the separator is no part at all
  have hstart : ∀ piece : List Char, c ∉ piece → piece <+: c :: rest → piece = [] := by
    intro piece hpiece hprefix
    rcases List.prefix_cons_iff.mp hprefix with hnil | ⟨tail, rfl, -⟩
    · exact hnil
    · simp at hpiece
  constructor
  · intro hinfix
    rcases List.infix_append_iff.mp hinfix with
      hfront | hrest | ⟨before, behind, rfl, hbefore, hbehind⟩
    · exact Or.inl hfront
    · rcases List.infix_cons_iff.mp hrest with hprefix | hrest
      · rw [hstart part hpart hprefix]
        exact Or.inl List.nil_infix
      · exact Or.inr hrest
    · rw [List.mem_append, not_or] at hpart
      rw [hstart behind hpart.2 hbehind, List.append_nil]
      exact Or.inl hbefore.isInfix
  · rintro (hfront | hrest)
    · exact List.infix_append_of_infix_left hfront
    · exact List.infix_append_of_infix_right (List.infix_cons hrest)

theorem infix_intercalate_iff {part : List Char} {c : Char} (hpart : c ∉ part)
    {texts : List (List Char)} (hne : texts ≠ []) :
    part <:+: [c].intercalate texts ↔ ∃ text ∈ texts, part <:+: text := by
  induction texts with
  | nil => exact absurd rfl hne
  | cons text texts ih =>
      cases texts with
      | nil => simp
      | cons next texts =>
          have hjoin : [c].intercalate (text :: next :: texts) =
              text ++ c :: [c].intercalate (next :: texts) := by
            rw [List.intercalate_cons_cons, List.append_assoc]
            rfl
          rw [hjoin, infix_append_cons_iff hpart, ih (by simp)]
          simp

namespace SourceUrl

variable {code locator other : String}

/-! ## Lines -/

/-- The lines of a source. -/
def lines (code : String) : List (List Char) :=
  code.toList.splitOn '\n'

/-- The last line of a source that is not blank. -/
def lastLine? (code : String) : Option (List Char) :=
  ((lines code).filter fun line => !line.all isBlank).getLast?

theorem isStamped_iff : isStamped code = true ↔ marker.toList <:+: code.toList :=
  occurs_iff marker.toList code.toList

theorem isStamped_iff_line :
    isStamped code = true ↔ ∃ line ∈ lines code, marker.toList <:+: line := by
  have hmarker : '\n' ∉ marker.toList := by decide
  have hne : lines code ≠ [] := List.splitOn_ne_nil '\n' code.toList
  rw [isStamped_iff, ← infix_intercalate_iff hmarker hne, lines, List.intercalate_splitOn]

theorem lines_append (hline : '\n' ∉ other.toList) :
    lines (code ++ "\n" ++ other ++ "\n") = lines code ++ [other.toList, []] := by
  have htext : (code ++ "\n" ++ other ++ "\n").toList =
      code.toList ++ '\n' :: (other.toList ++ '\n' :: []) := by
    simp
  rw [lines, htext, List.splitOn_append_cons_self, List.splitOn_append_cons_self_of_not_mem hline,
    List.splitOn_nil, lines]

/-- A line at the end is the last one, unless it is blank. -/
theorem lastLine?_append (hline : '\n' ∉ other.toList) (hblank : other.toList.all isBlank = false) :
    lastLine? (code ++ "\n" ++ other ++ "\n") = some other.toList := by
  rw [lastLine?, lines_append hline, List.filter_append]
  simp [hblank]

/-! ## Stamps -/

theorem stamp_of_isStamped (hmarker : isStamped code = true) (locator : String) :
    stamp code locator = code :=
  if_pos hmarker

theorem stamp_of_not_isStamped (hplain : isStamped code = false) (locator : String) :
    stamp code locator = code ++ "\n" ++ (marker ++ locator) ++ "\n" := by
  simp [stamp, hplain, String.append_assoc]

theorem isStamped_stamp (code locator : String) : isStamped (stamp code locator) = true := by
  cases hmarker : isStamped code with
  | true => rwa [stamp_of_isStamped hmarker]
  | false =>
      rw [stamp_of_not_isStamped hmarker, isStamped_iff]
      exact ⟨(code ++ "\n").toList, (locator ++ "\n").toList, by simp⟩

/-- Only the first stamp counts. -/
theorem stamp_stamp (code locator other : String) :
    stamp (stamp code locator) other = stamp code locator :=
  stamp_of_isStamped (isStamped_stamp code locator) other

/-- Two stamps agree when there is nothing to stamp, or they are for one place. -/
theorem stamp_eq_stamp_iff :
    stamp code locator = stamp code other ↔ isStamped code = true ∨ locator = other := by
  cases hmarker : isStamped code with
  | true => simp [stamp_of_isStamped hmarker]
  | false =>
      rw [stamp_of_not_isStamped hmarker, stamp_of_not_isStamped hmarker]
      simp [String.ext_iff]

/-- A stamp is the last line of a source exactly when the source holds no marker, or ended in
that stamp before. -/
theorem lastLine?_stamp_iff (hlocator : '\n' ∉ locator.toList) :
    lastLine? (stamp code locator) = some (marker ++ locator).toList ↔
      isStamped code = false ∨ lastLine? code = some (marker ++ locator).toList := by
  cases hmarker : isStamped code with
  | true => simp [stamp_of_isStamped hmarker]
  | false =>
      have hline : '\n' ∉ (marker ++ locator).toList := by
        rw [String.toList_append, List.mem_append, not_or]
        exact ⟨by decide, hlocator⟩
      have hblank : (marker ++ locator).toList.all isBlank = false := by
        rw [String.toList_append]
        rfl
      rw [stamp_of_not_isStamped hmarker, lastLine?_append hline hblank]
      simp

end SourceUrl

end ModuleDiscovery
