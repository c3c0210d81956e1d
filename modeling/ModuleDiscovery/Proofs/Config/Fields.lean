import ModuleDiscovery.Config.Basic
import ModuleDiscovery.Proofs.Json.Decode
import ModuleDiscovery.Proofs.Json.Fields
import ModuleDiscovery.Proofs.Run

/-!
# Reading a configuration field by field

A configuration is read by going through fields in the order they stand in.  When no key
stands there twice the order does not matter: each part of the configuration is what is
found under its key (`Config.Spells`), and keys it does not know change nothing.
-/

namespace ModuleDiscovery

namespace Config

open Decoder Json

/-- Fields turn one configuration into another. -/
@[mk_iff]
structure Spells (fields : List (String × Json)) (before after : Config) : Prop where
  main : Reads (Decoder.optional ModuleDefinition.decodePath) (fields.lookup "main")
    before.main after.main
  root : Reads (Decoder.optional ModuleDefinition.decodePath) (fields.lookup "root")
    before.root after.root
  nodeCompat : Reads NodeCompat.decode (fields.lookup "node_compat")
    before.nodeCompat after.nodeCompat
  external : Reads (Decoder.list Decoder.string) (fields.lookup "external")
    before.external after.external
  rules : Reads (Decoder.list ModuleRule.decode) (fields.lookup "rules") before.rules after.rules
  modules : Reads (Decoder.list ModuleDefinition.decode) (fields.lookup "modules")
    before.modules after.modules

variable {fields : List (String × Json)} {before after : Config}

theorem spells_nil_iff : Spells [] before after ↔ before = after := by
  constructor
  · rintro ⟨hmain, hroot, hnodeCompat, hexternal, hrules, hmodules⟩
    obtain ⟨main, root, nodeCompat, external, rules, modules⟩ := after
    obtain ⟨rfl, rfl, rfl, rfl, rfl, rfl⟩ :=
      And.intro hmain <| And.intro hroot <| And.intro hnodeCompat <| And.intro hexternal <|
        And.intro hrules hmodules
    rfl
  · rintro rfl
    exact ⟨rfl, rfl, rfl, rfl, rfl, rfl⟩

theorem exists_bind_ok_iff {ε α β : Type} {x : Except ε α} {set : α → β} {P : β → Prop} :
    (∃ b, (x >>= fun a => .ok (set a)) = .ok b ∧ P b) ↔ ∃ a, x = .ok a ∧ P (set a) := by
  simp only [bind_eq_ok_iff]
  constructor
  · rintro ⟨b, ⟨a, hx, hset⟩, hb⟩
    exact ⟨a, hx, Except.ok.inj hset ▸ hb⟩
  · rintro ⟨a, hx, ha⟩
    exact ⟨set a, ⟨a, hx, rfl⟩, ha⟩

/-- The first field changes its part, and no later field has its key. -/
theorem spells_cons_iff {key : String} {value : Json} (hkey : fields.lookup key = none) :
    Spells ((key, value) :: fields) before after ↔
      ∃ middle, put before key value = .ok middle ∧ Spells fields middle after := by
  unfold put
  split_ifs with hmain hroot hnodeCompat hexternal hrules hmodules
  -- a key of the configuration: its part is read, and nothing else changes
  rotate_right
  · simp [spells_iff, lookup_cons, Ne.symm hmain, Ne.symm hroot, Ne.symm hnodeCompat,
      Ne.symm hexternal, Ne.symm hrules, Ne.symm hmodules, pure, Except.pure]
  all_goals
    subst key
    refine Iff.trans ?_ exists_bind_ok_iff.symm
    simp [spells_iff, lookup_cons, hkey, and_comm, and_left_comm, and_assoc]

theorem foldlM_put_eq_ok_iff (hnodup : (fields.map Prod.fst).Nodup) :
    fields.foldlM (fun config (key, value) => put config key value) before = .ok after ↔
      Spells fields before after := by
  induction fields generalizing before with
  | nil => exact Iff.trans (Except.ok.injEq ..).to_iff spells_nil_iff.symm
  | cons field fields ih =>
      obtain ⟨key, value⟩ := field
      obtain ⟨hkey, hrest⟩ := List.nodup_cons.mp hnodup
      rw [List.foldlM_cons, bind_eq_ok_iff, spells_cons_iff (lookup_eq_none hkey)]
      simp only [ih hrest]

/-- A configuration is read from its fields in any order. -/
theorem decode_eq_ok_iff (hnodup : (fields.map Prod.fst).Nodup) :
    decode (.obj fields) = .ok after ↔ Spells fields empty after := by
  rw [← foldlM_put_eq_ok_iff hnodup, decode, Decoder.fields, bind_eq_ok_iff]
  simp

end Config

end ModuleDiscovery
