import ModuleDiscovery.Manifest
import ModuleDiscovery.Proofs.Json.Decode
import ModuleDiscovery.Proofs.Json.RoundTrip

/-!
# Reading a manifest

A manifest in JSON is one array with an object for each module, and a line break.  Reading
the array gives the modules back in their order: whatever their names and texts are made
of, and whatever their bytes.

In the text the name of a module comes first.  In the object that is read it stands where
its key belongs, before the contents or behind them, so a module is not found by the place
of its fields but by their names.

## Main results

* `read?_render`: the modules of a manifest are read back.
-/

namespace ModuleDiscovery

open Json

/-! ## Modules as JSON -/

theorem legible_ofBytes {depth : ℕ} (bytes : Bytes) : Legible (depth + 1) (.ofBytes bytes) := by
  refine Legible.arr fun item hitem => ?_
  obtain ⟨b, -, rfl⟩ := List.mem_map.mp hitem
  have hlt : b.toNat < 256 := b.toNat_lt
  exact Legible.int (by omega) (by omega)

theorem sorted_ofBytes (bytes : Bytes) : sorted (.ofBytes bytes) = .ofBytes bytes := by
  rw [ofBytes, sorted, sortedItems_eq_map, List.map_map]
  rfl

namespace WorkerModule

variable (m : WorkerModule)

theorem legible_encode {depth : ℕ} : Legible (depth + 2) m.encode := by
  have hvalue : Legible (depth + 1) m.contents.encodeValue := by
    cases m.contents with
    | data bytes | wasm bytes => exact legible_ofBytes bytes
    | _ => exact Legible.str _
  refine Legible.obj fun field hfield => ?_
  simp only [List.mem_cons, List.not_mem_nil, or_false] at hfield
  rcases hfield with rfl | rfl
  · exact Legible.str m.name
  · exact hvalue

theorem sorted_encodeValue (contents : ModuleContents) :
    sorted contents.encodeValue = contents.encodeValue := by
  cases contents with
  | data bytes | wasm bytes => exact sorted_ofBytes bytes
  | _ => rfl

/-- The contents of a module are read from their field. -/
theorem exists_decoder?_fieldName (contents : ModuleContents) :
    ∃ decode, ModuleContents.decoder? contents.fieldName = some decode ∧
      decode contents.encodeValue = .ok contents := by
  cases contents with
  | data bytes | wasm bytes =>
      refine ⟨_, rfl, ?_⟩
      change (Decoder.list Decoder.byte (.ofBytes bytes)).map _ = _
      rw [Decoder.list_byte_ofBytes]
      rfl
  | _ => exact ⟨_, rfl, rfl⟩

theorem fieldName_ne_name (contents : ModuleContents) : contents.fieldName ≠ "name" := by
  cases contents <;> simp [ModuleContents.fieldName]

/-- A module is read from its two fields in either order. -/
theorem decode_fields {fields : List (String × Json)}
    (hfields : fields = [("name", .str m.name), (m.contents.fieldName, m.contents.encodeValue)] ∨
      fields = [(m.contents.fieldName, m.contents.encodeValue), ("name", .str m.name)]) :
    decode (.obj fields) = .ok m := by
  obtain ⟨decodeContents, hdecoder, hcontents⟩ := exists_decoder?_fieldName m.contents
  have hne : m.contents.fieldName ≠ "name" := fieldName_ne_name m.contents
  have hname : ModuleContents.decoder? "name" = none := rfl
  rcases hfields with rfl | rfl <;>
    simp [decode, ModuleContents.decodeFirst, hne, hname, hdecoder, hcontents, Decoder.string,
      Decoder.text, Except.map, bind, Except.bind, pure, Except.pure]

theorem decode_sorted_encode : decode (sorted m.encode) = .ok m := by
  have hsorted : sorted m.encode =
      .obj (insertField m.contents.fieldName m.contents.encodeValue [("name", .str m.name)]) := by
    rw [encode, sorted, sortedFields, sortedFields, sortedFields, sorted_encodeValue]
    rfl
  rw [hsorted]
  refine m.decode_fields ?_
  rw [insertField, if_neg (fieldName_ne_name m.contents).symm]
  split_ifs
  · exact Or.inr rfl
  · exact Or.inl rfl

end WorkerModule

/-! ## Manifests -/

namespace Manifest

/-- The modules that a manifest in JSON lists. -/
def read? (text : String) : Option (List WorkerModule) :=
  (Json.parse? text).bind fun value => (Decoder.list WorkerModule.decode value).toOption

theorem decode_sortedItems (modules : List WorkerModule) :
    Decoder.list WorkerModule.decode (.arr (sortedItems (modules.map WorkerModule.encode))) =
      .ok modules := by
  rw [sortedItems_eq_map, List.map_map]
  exact Decoder.list_map fun m _ => m.decode_sorted_encode

/-- A manifest in JSON is an array with a line break behind it, and lists its modules: what
is read from it are the modules it was made of, in their order. -/
theorem read?_render (modules : List WorkerModule) :
    (∃ array items, render modules .json = array ++ "\n" ∧
      Json.parse? array = some (.arr items)) ∧
      read? (render modules .json) = some modules := by
  have hlegible : Legible Machine.maxDepth (.arr (modules.map WorkerModule.encode)) := by
    refine Legible.arr fun item hitem => ?_
    obtain ⟨m, -, rfl⟩ := List.mem_map.mp hitem
    exact m.legible_encode
  have harray := parse?_pretty hlegible "" (by simp)
  have hmanifest := parse?_pretty hlegible "\n" (by simp [Json.isBlank])
  rw [String.append_empty] at harray
  refine ⟨⟨_, _, rfl, harray⟩, ?_⟩
  rw [read?, render, hmanifest, Option.bind_some, sorted, decode_sortedItems]
  rfl

/-- A field whose key stands before the name, and a character that is escaped. -/
example : read? (render [⟨"\"", .data [255]⟩] .json) = some [⟨"\"", .data [255]⟩] := by
  decide +kernel

end Manifest

end ModuleDiscovery
