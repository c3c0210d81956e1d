import Mathlib.Data.String.Basic
import ModuleDiscovery.Json.Basic

/-!
# Fields in the order of their keys

`Json.insertField` keeps fields sorted, so that no key stands there twice, and what is found
under a key afterwards is what was put there last.
-/

namespace ModuleDiscovery

namespace Json

variable {α : Type} {key : String} {value : α} {fields : List (String × α)}

/-! ## The order of keys -/

theorem keyLt_iff (a b : List Char) : keyLt a b = true ↔ a < b := by
  induction a generalizing b with
  | nil => cases b <;> simp [keyLt]
  | cons c a ih =>
      cases b with
      | nil => simp [keyLt]
      | cons d b =>
          rw [keyLt, List.cons_lt_cons_iff]
          by_cases heq : c = d
          · simp [heq, ih]
          · have hlt : c.toNat < d.toNat ↔ c < d := Iff.rfl
            simp [heq, hlt]

/-- Whether the keys of fields stand in their order, each once. -/
def Sorted (fields : List (String × α)) : Prop :=
  (fields.map Prod.fst).Pairwise fun a b => keyLt a.toList b.toList

theorem Sorted.nodup (hsorted : Sorted fields) : (fields.map Prod.fst).Nodup :=
  hsorted.imp fun {a b} hlt => by
    rintro rfl
    exact lt_irrefl _ ((keyLt_iff a.toList a.toList).mp hlt)

theorem key_mem_insertField {k : String} (hk : k ∈ (insertField key value fields).map Prod.fst) :
    k = key ∨ k ∈ fields.map Prod.fst := by
  induction fields with
  | nil => simpa [insertField] using hk
  | cons first rest ih =>
      obtain ⟨k', v⟩ := first
      rw [insertField] at hk
      split_ifs at hk with heq hlt
      · subst heq
        simpa using hk
      · simpa using hk
      · rw [List.map_cons, List.mem_cons] at hk ⊢
        rcases hk with rfl | hk
        · exact Or.inr (Or.inl rfl)
        · exact (ih hk).imp_right Or.inr

theorem Sorted.insertField (hsorted : Sorted fields) (key : String) (value : α) :
    Sorted (insertField key value fields) := by
  induction fields with
  | nil => exact List.pairwise_singleton _ _
  | cons first rest ih =>
      obtain ⟨k, v⟩ := first
      obtain ⟨hfirst, hrest⟩ := List.pairwise_cons.mp hsorted
      rw [Json.insertField]
      split_ifs with heq hlt
      · subst heq
        exact hsorted
      · refine List.pairwise_cons.mpr ⟨fun other hother => ?_, hsorted⟩
        rcases List.mem_cons.mp hother with rfl | hother
        · exact hlt
        · have hlater := hfirst other hother
          rw [keyLt_iff] at hlt hlater ⊢
          exact hlt.trans hlater
      · have hkey : keyLt k.toList key.toList := by
          rw [keyLt_iff, not_lt] at hlt
          exact (keyLt_iff ..).mpr (lt_of_le_of_ne hlt fun h => heq (String.toList_injective h))
        refine List.pairwise_cons.mpr ⟨fun other hother => ?_, ih hrest⟩
        rcases key_mem_insertField hother with rfl | hother
        · exact hkey
        · exact hfirst other hother

/-- Fields stay sorted however many others are put among them. -/
theorem Sorted.foldl_insertField (hsorted : Sorted fields) (more : List (String × α)) :
    Sorted (more.foldl (fun known field => Json.insertField field.1 field.2 known) fields) := by
  induction more generalizing fields with
  | nil => exact hsorted
  | cons field more ih => exact ih (hsorted.insertField field.1 field.2)

/-! ## Finding a field -/

theorem lookup_cons (name k : String) (v : α) (rest : List (String × α)) :
    ((k, v) :: rest).lookup name = if name = k then some v else rest.lookup name := by
  by_cases hname : name = k
  · rw [if_pos hname, hname, List.lookup_cons_self]
  · have hbeq : (name == k) = false := beq_eq_false_iff_ne.mpr hname
    rw [if_neg hname, List.lookup_cons, hbeq]

theorem lookup_insertField (key : String) (value : α) (fields : List (String × α)) (name : String) :
    (insertField key value fields).lookup name =
      if name = key then some value else fields.lookup name := by
  induction fields with
  | nil => exact lookup_cons name key value []
  | cons first rest ih =>
      obtain ⟨k, v⟩ := first
      rw [insertField]
      by_cases heq : k = key
      · rw [if_pos heq, lookup_cons, lookup_cons, heq]
        split_ifs <;> rfl
      by_cases hlt : keyLt key.toList k.toList
      · rw [if_neg heq, if_pos hlt, lookup_cons]
      · rw [if_neg heq, if_neg hlt, lookup_cons, lookup_cons, ih]
        by_cases hname : name = key
        · rw [if_pos hname, if_pos hname, if_neg (hname ▸ Ne.symm heq)]
        · rw [if_neg hname, if_neg hname]

theorem mem_of_lookup {name : String} (hfound : fields.lookup name = some value) :
    (name, value) ∈ fields := by
  obtain ⟨before, after, rfl, -⟩ := List.lookup_eq_some_iff.mp hfound
  simp

theorem lookup_mapValues {β : Type} (f : String → α → β) (fields : List (String × α))
    (name : String) :
    (fields.map fun (k, v) => (k, f k v)).lookup name = (fields.lookup name).map (f name) := by
  induction fields with
  | nil => rfl
  | cons first rest ih =>
      obtain ⟨k, v⟩ := first
      rw [List.map_cons, lookup_cons, lookup_cons, ih]
      split_ifs with hname
      · rw [hname, Option.map_some]
      · rfl

theorem lookup_eq_none {name : String} (hname : name ∉ fields.map Prod.fst) :
    fields.lookup name = none := by
  refine List.lookup_eq_none_iff.mpr fun field hfield => bne_iff_ne.mpr ?_
  rintro rfl
  exact hname (List.mem_map_of_mem hfield)

end Json

end ModuleDiscovery
