import Mathlib.Data.Int.Notation
import Mathlib.Data.List.Basic
import ModuleDiscovery.Definition
import ModuleDiscovery.Proofs.Json.Fields
import ModuleDiscovery.Proofs.Path.Shown
import ModuleDiscovery.Proofs.Run
import ModuleDiscovery.Rule
import ModuleDiscovery.Walk.Basic

/-!
# Decoding what was encoded

Every value of the library that has a form in JSON is decoded from this form as itself, a
definition if its path is text.  A definition that is decoded from any fields has the path
that stands under its key.
-/

namespace ModuleDiscovery

namespace Decoder

/-! ## Lists -/

/-- A list is decoded when its items are. -/
theorem list_map {α : Type} {item : Decoder α} {encode : α → Json} {values : List α}
    (hitem : ∀ a ∈ values, item (encode a) = .ok a) :
    list item (.arr (values.map encode)) = .ok values := by
  change (values.map encode).mapM item = .ok values
  induction values with
  | nil => rfl
  | cons a values ih =>
      rw [List.forall_mem_cons] at hitem
      rw [List.map_cons, List.mapM_cons, hitem.1, ih hitem.2]
      rfl

theorem byte_toNat (b : UInt8) : byte (.int b.toNat) = .ok b := by
  have hrange : (0 : ℤ) ≤ b.toNat ∧ (b.toNat : ℤ) < 256 := by
    have hlt : b.toNat < 256 := b.toNat_lt
    omega
  rw [byte, if_pos hrange, Int.toNat_natCast, UInt8.ofNat_toNat]

theorem list_byte_ofBytes (bytes : Bytes) : list byte (.ofBytes bytes) = .ok bytes :=
  list_map fun b _ => byte_toNat b

theorem list_string_ofStrings (texts : List String) :
    list string (.ofStrings texts) = .ok texts :=
  list_map fun _ _ => rfl

/-! ## Fields -/

/-- A value is read from what was found; when nothing was, it stays as it is. -/
def Reads {α : Type} (item : Decoder α) (found : Option Json) (before after : α) : Prop :=
  match found with
  | none => after = before
  | some value => item value = .ok after

variable {α : Type} (item : Decoder α) (value : Json) (before after : α)

@[simp] theorem reads_none : Reads item none before after ↔ after = before := Iff.rfl

@[simp] theorem reads_some : Reads item (some value) before after ↔ item value = .ok after :=
  Iff.rfl

end Decoder

/-! ## Names -/

theorem ContentKind.decode_name (kind : ContentKind) : decode (.str kind.name) = .ok kind := by
  cases kind <;> rfl

theorem NodeCompat.decode_name (mode : NodeCompat) : decode (.str mode.name) = .ok mode := by
  cases mode <;> rfl

/-! ## Records -/

theorem InlineContents.decode_encode (contents : InlineContents) :
    decode contents.encode = .ok contents := by
  cases contents with
  | text s => rfl
  | bytes bs =>
      have hbytes : Decoder.list Decoder.byte (.arr _) = .ok bs := Decoder.list_byte_ofBytes bs
      rw [encode, Json.ofBytes, decode, hbytes]
      simp

namespace ModuleDefinition

variable (draft : Draft)

theorem Draft.put_type (kind : ContentKind) :
    draft.put "type" (.str kind.name) = .ok { draft with kind := some kind } := by
  rw [put, if_pos rfl, kind.decode_name]
  rfl

theorem Draft.put_path {path : Path} (htext : path.isText) :
    draft.put "path" (.str path.text) = .ok { draft with path := some path } := by
  conv_rhs => rw [← Path.ofText_text htext]
  rfl

theorem Draft.put_contents (contents : InlineContents) :
    draft.put "contents" contents.encode = .ok { draft with contents := some contents } := by
  have hoptional :
      Decoder.optional InlineContents.decode contents.encode = .ok (some contents) := by
    have hdecode := contents.decode_encode
    cases contents <;> exact congrArg (Except.map some) hdecode
  rw [put, if_neg (by decide), if_neg (by decide), if_pos rfl, hoptional]
  rfl

theorem decode_encode {d : ModuleDefinition} (htext : d.path.isText) : decode d.encode = .ok d := by
  obtain ⟨kind, path, contents⟩ := d
  cases contents with
  | none =>
      simp [encode, decode, Decoder.fields, Draft.put_path _ htext, Draft.put_type, Draft.finish,
        bind, Except.bind, pure, Except.pure]
  | some contents =>
      simp [encode, decode, Decoder.fields, Draft.put_contents, Draft.put_path _ htext,
        Draft.put_type, Draft.finish, bind, Except.bind, pure, Except.pure]

/-- Only its own field changes the path of a draft. -/
theorem Draft.path_of_put {draft draft' : Draft} {key : String} {value : Json}
    (hput : draft.put key value = .ok draft') :
    if key = "path" then (decodePath value).map some = .ok draft'.path
    else draft'.path = draft.path := by
  unfold put at hput
  split_ifs at hput with htype hpath hcontents
  · obtain ⟨kind, -, hset⟩ := bind_eq_ok_iff.mp hput
    obtain rfl := Except.ok.inj hset
    simp [htype]
  · obtain ⟨path, hvalue, hset⟩ := bind_eq_ok_iff.mp hput
    obtain rfl := Except.ok.inj hset
    rw [if_pos hpath, hvalue]
    rfl
  · obtain ⟨contents, -, hset⟩ := bind_eq_ok_iff.mp hput
    obtain rfl := Except.ok.inj hset
    rw [if_neg hpath]
  · obtain rfl := Except.ok.inj hput
    rw [if_neg hpath]

/-- The path that is read is the one under its key. -/
theorem Draft.path_of_foldlM_put {entries : List (String × Json)} {draft draft' : Draft}
    (hnodup : (entries.map Prod.fst).Nodup)
    (hfold : entries.foldlM (fun draft (key, value) => put draft key value) draft = .ok draft') :
    Decoder.Reads (fun value => (decodePath value).map some) (entries.lookup "path")
      draft.path draft'.path := by
  induction entries generalizing draft with
  | nil =>
      obtain rfl := Except.ok.inj hfold
      rfl
  | cons entry entries ih =>
      obtain ⟨key, value⟩ := entry
      obtain ⟨hkey, hrest⟩ := List.nodup_cons.mp hnodup
      rw [List.foldlM_cons, bind_eq_ok_iff] at hfold
      obtain ⟨middle, hput, hfold⟩ := hfold
      have hmiddle := path_of_put hput
      have hlater := ih hrest hfold
      rw [Json.lookup_cons]
      by_cases hpath : key = "path"
      · subst hpath
        rw [Json.lookup_eq_none hkey, Decoder.reads_none] at hlater
        rw [if_pos rfl, Decoder.reads_some, hlater]
        exact hmiddle
      · rw [if_neg hpath] at hmiddle
        rwa [if_neg (Ne.symm hpath), ← hmiddle]

theorem path_of_decode {entries : List (String × Json)} {d : ModuleDefinition} {text : String}
    (hnodup : (entries.map Prod.fst).Nodup) (hpath : entries.lookup "path" = some (.str text))
    (hdecode : decode (.obj entries) = .ok d) : d.path = Path.ofText text := by
  obtain ⟨draft, hfold, hfinish⟩ := bind_eq_ok_iff.mp hdecode
  have hdraft := Draft.path_of_foldlM_put hnodup hfold
  rw [hpath, Decoder.reads_some] at hdraft
  have hsome : some (Path.ofText text) = draft.path := Except.ok.inj hdraft
  unfold Draft.finish at hfinish
  rw [← hsome] at hfinish
  split at hfinish
  · cases hfinish
  · cases hfinish
  · next heq =>
      obtain rfl := Except.ok.inj hfinish
      exact (Option.some.inj heq).symm

end ModuleDefinition

namespace ModuleRule

variable (draft : Draft)

theorem Draft.put_type (kind : ContentKind) :
    draft.put "type" (.str kind.name) = .ok { draft with kind := some kind } := by
  rw [put, if_pos rfl, kind.decode_name]
  rfl

theorem Draft.put_globs (hfirst : draft.globs = none) (globs : List String) :
    draft.put "globs" (.ofStrings globs) = .ok { draft with globs := some globs } := by
  rw [put, if_neg (by decide), if_pos (Or.inl rfl), Decoder.list_string_ofStrings]
  simp [hfirst, pure, Except.pure, bind, Except.bind]

theorem Draft.put_fallthrough (fallthrough : Bool) :
    draft.put "fallthrough" (.bool fallthrough) =
      .ok { draft with fallthrough := some fallthrough } := rfl

theorem decode_encode (rule : ModuleRule) : decode rule.encode = .ok rule := by
  obtain ⟨kind, globs, fallthrough⟩ := rule
  simp [encode, decode, Decoder.fields, Draft.put_fallthrough, Draft.put_globs, Draft.put_type,
    Draft.finish, bind, Except.bind, pure, Except.pure]

end ModuleRule

end ModuleDiscovery
