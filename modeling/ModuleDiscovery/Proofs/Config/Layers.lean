import ModuleDiscovery.Config.Layers
import ModuleDiscovery.Proofs.Config.Fields

/-!
# Layers of a configuration

The fields of all layers are put together first, and the whole is read as one
configuration.  Under a key that several layers have, what the highest of them says is
found (`Layer.lookup_under`), and the external specifiers among flags come behind those
below.

A configuration that is written out as a layer is read back from it, whatever its rules and
modules are: their kinds, globs and contents are decoded from their own forms
(`ModuleRule.decode_encode`, `ModuleDefinition.decode_encode`).  So a stack of layers is a
configuration of which each part comes from the highest layer that has it
(`Config.ofLayer_layers_eq_ok_iff`).  The environment may set texts only, and none but the
entrypoint, the root and the mode (`Environment.Plain`).
-/

namespace ModuleDiscovery

open Decoder Json

/-! ## One layer on top of another -/

namespace Layer

variable {lower upper : Layer}

theorem sorted_under (hlower : Sorted lower) (upper : Layer) : Sorted (under lower upper) :=
  hlower.foldl_insertField upper

theorem lookup_under (hupper : (upper.map Prod.fst).Nodup) (lower : Layer) (name : String) :
    (under lower upper).lookup name = (upper.lookup name).or (lower.lookup name) := by
  induction upper generalizing lower with
  | nil => rfl
  | cons field upper ih =>
      obtain ⟨key, value⟩ := field
      obtain ⟨hkey, hrest⟩ := List.nodup_cons.mp hupper
      have hstep : under lower ((key, value) :: upper) =
        under (insertField key value lower) upper := rfl
      rw [hstep, ih hrest, lookup_insertField, lookup_cons]
      split_ifs with hname
      · rw [hname, lookup_eq_none hkey, Option.none_or, Option.some_or]
      · rfl

end Layer

/-! ## The environment -/

namespace Environment

variable {environment : Environment}

theorem sorted_settings (environment : Environment) : Sorted environment.settings := by
  have hnil : Sorted ([] : List (String × Setting)) := List.Pairwise.nil
  exact hnil.foldl_insertField _

theorem sorted_layer (environment : Environment) : Sorted environment.layer := by
  have hkeys : environment.layer.map Prod.fst = environment.settings.map Prod.fst := by
    simp [layer, Function.comp_def]
  rw [Sorted, hkeys]
  exact environment.sorted_settings

/-- Variables set nothing but the entrypoint, the root and the mode, and each of them to a
text. -/
def Plain (environment : Environment) : Prop :=
  ∀ field ∈ environment.settings,
    field.1 ∈ ["main", "node_compat", "root"] ∧ ∃ text, field.2 = .plain (.str text)

/-- The text a variable sets a field to. -/
def text? (environment : Environment) (name : String) : Option String :=
  match environment.settings.lookup name with
  | some (.plain (.str text)) => some text
  | _ => none

/-- The path a variable sets a field to. -/
def path? (environment : Environment) (name : String) : Option Path :=
  (environment.text? name).map Path.ofText

theorem Plain.lookup_layer (hplain : environment.Plain) (name : String) :
    environment.layer.lookup name = (environment.text? name).map .str := by
  rw [layer, lookup_mapValues (fun _ => Setting.toJson), text?]
  cases hfound : environment.settings.lookup name with
  | none => rfl
  | some setting =>
      obtain ⟨-, text, rfl⟩ := hplain _ (mem_of_lookup hfound)
      rfl

theorem Plain.lookup_settings_eq_none (hplain : environment.Plain) {name : String}
    (hname : name ∉ ["main", "node_compat", "root"]) : environment.settings.lookup name = none :=
  lookup_eq_none fun hmem => by
    obtain ⟨field, hfield, rfl⟩ := List.mem_map.mp hmem
    exact hname (hplain field hfield).1

theorem Plain.text?_eq_none (hplain : environment.Plain) {name : String}
    (hname : name ∉ ["main", "node_compat", "root"]) : environment.text? name = none := by
  rw [text?, hplain.lookup_settings_eq_none hname]

end Environment

/-! ## Flags -/

namespace Flags

variable (flags : Flags)

theorem sorted_layer : Sorted flags.layer := by
  obtain ⟨main, root, nodeCompat, external⟩ := flags
  cases main <;> cases root <;> cases nodeCompat <;> simp [Sorted, layer, field] <;> decide

theorem lookup_layer :
    flags.layer.lookup "main" = (flags.main.map fun p => .str p.text) ∧
      flags.layer.lookup "root" = (flags.root.map fun p => .str p.text) ∧
      flags.layer.lookup "node_compat" = (flags.nodeCompat.map fun mode => .str mode.name) ∧
      flags.layer.lookup "external" = none ∧ flags.layer.lookup "rules" = none ∧
      flags.layer.lookup "modules" = none := by
  obtain ⟨main, root, nodeCompat, external⟩ := flags
  cases main <;> cases root <;> cases nodeCompat <;> exact ⟨rfl, rfl, rfl, rfl, rfl, rfl⟩

theorem sorted_apply {fields : Layer} (hsorted : Sorted fields) : Sorted (flags.apply fields) := by
  have hunder := Layer.sorted_under hsorted flags.layer
  unfold apply
  split_ifs
  · exact hunder
  · exact hunder.insertField _ _

/-- Flags replace what is below them. -/
theorem lookup_apply (fields : Layer) {name : String} (hname : name ≠ "external") :
    (flags.apply fields).lookup name = (flags.layer.lookup name).or (fields.lookup name) := by
  rw [← Layer.lookup_under flags.sorted_layer.nodup]
  unfold apply
  split_ifs
  · rfl
  · rw [lookup_insertField, if_neg hname]

/-- Names among flags come behind those below them. -/
theorem lookup_apply_external {fields : Layer} {names : List String}
    (hnames : fields.lookup "external" = some (.ofStrings names)) :
    (flags.apply fields).lookup "external" = some (.ofStrings (names ++ flags.external)) := by
  have hunder : (Layer.under fields flags.layer).lookup "external" = some (.ofStrings names) := by
    rw [Layer.lookup_under flags.sorted_layer.nodup, flags.lookup_layer.2.2.2.1, hnames,
      Option.none_or]
  unfold apply
  split_ifs with hempty
  · rw [hunder, List.isEmpty_iff.mp hempty, List.append_nil]
  · rw [lookup_insertField, if_pos rfl, hunder]
    simp [addNames, ofStrings]

end Flags

namespace Config

variable (config : Config)

theorem sorted_layer : Sorted config.layer := by
  obtain ⟨main, root, nodeCompat, external, rules, modules⟩ := config
  cases main <;> cases root <;> simp [Sorted, layer, encodePath] <;> decide

theorem lookup_layer :
    config.layer.lookup "main" = (config.main.map fun p => .str p.text) ∧
      config.layer.lookup "root" = (config.root.map fun p => .str p.text) ∧
      config.layer.lookup "node_compat" = some (.str config.nodeCompat.name) ∧
      config.layer.lookup "external" = some (.ofStrings config.external) ∧
      config.layer.lookup "rules" = some (.arr (config.rules.map ModuleRule.encode)) ∧
      config.layer.lookup "modules" = some (.arr (config.modules.map ModuleDefinition.encode)) := by
  obtain ⟨main, root, nodeCompat, external, rules, modules⟩ := config
  cases main <;> cases root <;> exact ⟨rfl, rfl, rfl, rfl, rfl, rfl⟩

/-! ## Reading a layer -/

/-- Records that are written as objects have nothing to drop. -/
theorem dropSurplus_map {α : Type} {encode : α → Json}
    (hobject : ∀ a, ∃ fields, encode a = .obj fields) (values : List α) :
    dropSurplus (.arr (values.map encode)) = .arr (values.map encode) := by
  rw [dropSurplus, List.map_map]
  congr 1
  refine List.map_congr_left fun a _ => ?_
  obtain ⟨fields, hfields⟩ := hobject a
  simp [hfields]

variable {config} {fields : Layer}

/-- A configuration is spelled by what is found under its keys. -/
theorem ofLayer_eq_ok_iff (hsorted : Sorted fields) :
    ofLayer fields = .ok config ↔
      Reads (Decoder.optional ModuleDefinition.decodePath) (fields.lookup "main") none config.main ∧
      Reads (Decoder.optional ModuleDefinition.decodePath) (fields.lookup "root") none config.root ∧
      Reads NodeCompat.decode (fields.lookup "node_compat") .none config.nodeCompat ∧
      Reads (Decoder.list Decoder.string) (fields.lookup "external") [] config.external ∧
      Reads (Decoder.list ModuleRule.decode) ((fields.lookup "rules").map dropSurplus) []
        config.rules ∧
      Reads (Decoder.list ModuleDefinition.decode) ((fields.lookup "modules").map dropSurplus) []
        config.modules := by
  have hlookup := lookup_mapValues (fun name value =>
    if name = "rules" ∨ name = "modules" then dropSurplus value else value) fields
  rw [ofLayer, decode_eq_ok_iff, spells_iff]
  · simp [hlookup, empty]
  · rw [List.map_map]
    exact hsorted.nodup

/-! ## All layers together -/

/-- The mode in the highest of three layers, unless a variable that counts spells none. -/
def highestMode (flag : Option NodeCompat) (text : Option String) (below : NodeCompat) :
    Option NodeCompat :=
  match flag, text with
  | some mode, _ => some mode
  | none, some text => NodeCompat.parse? text
  | none, none => some below

/-- A configuration with variables and flags on top of it. -/
@[mk_iff]
structure Stacked (environment : Environment) (flags : Flags) (below above : Config) : Prop where
  main : above.main = (flags.main.or (environment.path? "main")).or below.main
  root : above.root = (flags.root.or (environment.path? "root")).or below.root
  nodeCompat : some above.nodeCompat =
    highestMode flags.nodeCompat (environment.text? "node_compat") below.nodeCompat
  external : above.external = below.external ++ flags.external
  rules : above.rules = below.rules
  modules : above.modules = below.modules

section Parts

/-- The highest of three paths is read, when those that are written out are text. -/
theorem reads_path_iff {flag below : Option Path} (hflag : flag.all Path.isText)
    (hbelow : below.all Path.isText) (text : Option String) (after : Option Path) :
    Reads (Decoder.optional ModuleDefinition.decodePath)
        ((flag.map fun p => .str p.text).or
          ((text.map .str).or (below.map fun p => .str p.text))) none after ↔
      after = (flag.or (text.map Path.ofText)).or below := by
  have hread : ∀ text : String,
      Decoder.optional ModuleDefinition.decodePath (.str text) = .ok after ↔
        after = some (Path.ofText text) := fun text =>
    (Except.ok.injEq (some (Path.ofText text)) after).to_iff.trans eq_comm
  cases flag with
  | some p =>
      have hp := hread p.text
      rw [Path.ofText_text hflag] at hp
      exact hp
  | none =>
      cases text with
      | some text => exact hread text
      | none =>
          cases below with
          | some p =>
              have hp := hread p.text
              rw [Path.ofText_text hbelow] at hp
              exact hp
          | none => rfl

/-- The highest of three modes is read, and a text in between may spell none. -/
theorem reads_mode_iff (flag : Option NodeCompat) (text : Option String)
    (below before after : NodeCompat) :
    Reads NodeCompat.decode
        ((flag.map fun mode => .str mode.name).or ((text.map .str).or (some (.str below.name))))
        before after ↔
      some after = highestMode flag text below := by
  have hread : ∀ mode : NodeCompat,
      NodeCompat.decode (.str mode.name) = .ok after ↔ some after = some mode := by
    intro mode
    rw [mode.decode_name, Except.ok.injEq, Option.some.injEq, eq_comm]
  cases flag with
  | some mode => exact hread mode
  | none =>
      cases text with
      | some text =>
          change Decoder.variant.find NodeCompat.spellings text = _ ↔ _ = NodeCompat.parse? text
          rw [Decoder.variant.find, NodeCompat.parse?]
          cases NodeCompat.spellings.lookup text <;> simp [eq_comm]
      | none => exact hread below

/-- Records are read from below, since no layer above has any. -/
theorem reads_records_iff {α : Type} {item : Decoder α} {encode : α → Json}
    (hobject : ∀ a, ∃ fields, encode a = .obj fields) {values : List α}
    (hitem : ∀ a ∈ values, item (encode a) = .ok a) (before after : List α) :
    Reads (Decoder.list item) (some (dropSurplus (.arr (values.map encode)))) before after ↔
      after = values := by
  rw [dropSurplus_map hobject, reads_some, Decoder.list_map hitem, Except.ok.injEq, eq_comm]

end Parts

variable {environment : Environment} {flags : Flags} {file : Option Config} {above : Config}

theorem sorted_layers (file : Option Config) (environment : Environment) (flags : Flags) :
    Sorted (layers file environment flags) :=
  flags.sorted_apply (Layer.sorted_under (file.getD empty).sorted_layer environment.layer)

theorem lookup_layers (hplain : environment.Plain) (file : Option Config) (flags : Flags)
    {name : String} (hname : name ≠ "external") :
    (layers file environment flags).lookup name =
      (flags.layer.lookup name).or
        (((environment.text? name).map .str).or ((file.getD empty).layer.lookup name)) := by
  rw [layers, flags.lookup_apply _ hname, Layer.lookup_under environment.sorted_layer.nodup,
    hplain.lookup_layer]

theorem lookup_layers_external (hplain : environment.Plain) (file : Option Config)
    (flags : Flags) :
    (layers file environment flags).lookup "external" =
      some (.ofStrings ((file.getD empty).external ++ flags.external)) := by
  refine flags.lookup_apply_external ?_
  rw [Layer.lookup_under environment.sorted_layer.nodup, hplain.lookup_layer,
    hplain.text?_eq_none (by decide), (file.getD empty).lookup_layer.2.2.2.1]
  rfl

theorem isText_iff : config.isText ↔ config.main.all Path.isText ∧ config.root.all Path.isText ∧
    ∀ d ∈ config.modules, d.path.isText := by
  simp [isText, and_assoc]

/-- Layers whose paths are text are read as the configuration that they are. -/
theorem ofLayer_layers_eq_ok_iff (hplain : environment.Plain)
    (hfile : (file.getD empty).isText) (hflags : flags.isText) :
    ofLayer (layers file environment flags) = .ok above ↔
      Stacked environment flags (file.getD empty) above := by
  obtain ⟨hmain, hroot, hmode, -, hrules, hmodules⟩ := flags.lookup_layer
  obtain ⟨hbelowMain, hbelowRoot, hbelowMode, -, hbelowRules, hbelowModules⟩ :=
    (file.getD empty).lookup_layer
  obtain ⟨htextMain, htextRoot, htextModules⟩ := isText_iff.mp hfile
  rw [Flags.isText, Bool.and_eq_true] at hflags
  rw [ofLayer_eq_ok_iff (sorted_layers file environment flags), stacked_iff]
  refine and_congr ?_ (and_congr ?_ (and_congr ?_ (and_congr ?_ (and_congr ?_ ?_))))
  · rw [lookup_layers hplain _ _ (by decide), hmain, hbelowMain]
    exact reads_path_iff hflags.1 htextMain _ _
  · rw [lookup_layers hplain _ _ (by decide), hroot, hbelowRoot]
    exact reads_path_iff hflags.2 htextRoot _ _
  · rw [lookup_layers hplain _ _ (by decide), hmode, hbelowMode]
    exact reads_mode_iff ..
  · rw [lookup_layers_external hplain, reads_some, Decoder.list_string_ofStrings, Except.ok.injEq,
      eq_comm]
  · rw [lookup_layers hplain _ _ (by decide), hrules, hbelowRules,
      hplain.text?_eq_none (by decide)]
    exact reads_records_iff (fun rule => ⟨_, rfl⟩) (fun rule _ => rule.decode_encode) _ _
  · rw [lookup_layers hplain _ _ (by decide), hmodules, hbelowModules,
      hplain.text?_eq_none (by decide)]
    exact reads_records_iff (fun d => ⟨_, rfl⟩)
      (fun d hd => ModuleDefinition.decode_encode (htextModules d hd)) _ _

/-- What a configuration of all layers is: one that their fields spell, resolved.  The layers
that are written out have to be text. -/
theorem layered_eq_ok_iff_ofLayer {cwd : Path} {config : Config} :
    layered file environment flags cwd = .ok config ↔
      environment.hasCharContents = false ∧ (file.getD empty).isText ∧ flags.isText ∧
        ∃ above, ofLayer (layers file environment flags) = .ok above ∧
          above.resolve cwd = config := by
  unfold layered layers?
  cases environment.hasCharContents with
  | true => simp [throw, throwThe, MonadExceptOf.throw, bind, Except.bind]
  | false =>
      by_cases htext : ((file.getD empty).isText && flags.isText) = true
      · rw [Bool.and_eq_true] at htext
        simp [htext, bind_eq_ok_iff, mapError_eq_ok_iff, pure, Except.pure]
      · rw [if_neg htext, Bool.and_eq_true, not_and] at *
        simp_all [throw, throwThe, MonadExceptOf.throw]

end Config

end ModuleDiscovery
