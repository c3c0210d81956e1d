import ModuleDiscovery.Proofs.Config.Load

/-!
# External specifiers among flags

External specifiers are the one setting that flags add to and do not replace.  Nothing else
depends on them, so two sets of flags that differ in them alone are compared by what is found
under one key (`Config.ofLayer_iff_of_agree`).

What is found there below the flags is the list of the file, unless a variable sets it.
Behind a list the names of the flags are put.  But a variable can set it to something that is
no list (`Environment.ListsExternal`), say to one bare word.  Without flags that is an error;
with them it is dropped, and the list of the file with it.

## Main results

* `Config.load_external`: what the external specifiers among flags do, for every variable.
* `Config.load_external_bareWord`: a bare word and the list of a file give way to a flag.
-/

namespace ModuleDiscovery

open Decoder Json

/-- Names behind the items of a list are read behind what the items are read as. -/
theorem Decoder.list_string_append_iff {items : List Json} {names all : List String} :
    list string (.arr (items ++ names.map Json.str)) = .ok all ↔
      ∃ front, list string (.arr items) = .ok front ∧ all = front ++ names := by
  have hnames : (names.map Json.str).mapM string = Except.ok names := list_string_ofStrings names
  change (items ++ names.map Json.str).mapM string = _ ↔ ∃ front, items.mapM string = _ ∧ _
  rw [List.mapM_append, bind_eq_ok_iff]
  refine exists_congr fun front => and_congr_right fun _ => ?_
  rw [hnames]
  exact (Except.ok.injEq ..).to_iff.trans eq_comm

/-- Whether a value is a list. -/
def Json.isList : Json → Bool
  | arr _ => true
  | _ => false

theorem Json.exists_eq_of_isList {value : Json} (hlist : value.isList) :
    ∃ items, value = .arr items := by
  cases value with
  | arr items => exact ⟨items, rfl⟩
  | _ => cases hlist

theorem Decoder.list_string_ne_ok {value : Json} (hlist : ¬ value.isList) (names : List String) :
    list string value ≠ .ok names := by
  cases value with
  | arr items => exact absurd rfl hlist
  | _ => exact nofun

/-! ## Variables that set no list -/

/-- Fields without those of one key leave nothing under that key, and the rest as it is. -/
theorem Json.lookup_foldl_insertField_filter {α : Type} {key : String}
    {fields known known' : List (String × α)}
    (hknown : ∀ name, known'.lookup name = if name = key then none else known.lookup name)
    (name : String) :
    ((fields.filter fun field => field.1 ≠ key).foldl
        (fun known field => insertField field.1 field.2 known) known').lookup name =
      if name = key then none
      else (fields.foldl (fun known field => insertField field.1 field.2 known) known).lookup
        name := by
  induction fields generalizing known known' with
  | nil => exact hknown name
  | cons field fields ih =>
      by_cases hkey : field.1 = key
      · rw [List.filter_cons_of_neg (by simpa using hkey), List.foldl_cons]
        refine ih fun name => ?_
        rw [hknown, lookup_insertField, hkey]
        split_ifs <;> rfl
      · rw [List.filter_cons_of_pos (by simpa using hkey), List.foldl_cons, List.foldl_cons]
        refine ih fun name => ?_
        rw [lookup_insertField, lookup_insertField, hknown]
        split_ifs with hfield hname
        · exact absurd (hfield.symm.trans hname) hkey
        · rfl
        · rfl
        · rfl

namespace Environment

variable {environment : Environment}

/-- Whether variables leave the external specifiers alone or set them to a list. -/
def ListsExternal (environment : Environment) : Prop :=
  ∀ value ∈ environment.layer.lookup "external", value.isList

instance (environment : Environment) : Decidable environment.ListsExternal :=
  inferInstanceAs (Decidable (∀ value ∈ environment.layer.lookup "external", value.isList))

theorem exists_of_not_listsExternal (hlists : ¬ environment.ListsExternal) :
    ∃ value, environment.layer.lookup "external" = some value ∧ ¬ value.isList := by
  simpa [ListsExternal] using hlists

/-- The variables that do not set the external specifiers. -/
def withoutExternal (environment : Environment) : Environment :=
  environment.filter fun (name, value) => (setting? name value).map Prod.fst ≠ some "external"

theorem lookup_settings_withoutExternal (environment : Environment) (name : String) :
    environment.withoutExternal.settings.lookup name =
      if name = "external" then none else environment.settings.lookup name := by
  have hfilter : (environment.withoutExternal.filterMap fun (name, value) => setting? name value) =
      (environment.filterMap fun (name, value) => setting? name value).filter
        fun field => field.1 ≠ "external" := by
    rw [withoutExternal, List.filterMap_filter, List.filter_filterMap]
    refine List.filterMap_congr fun (name, value) _ => ?_
    cases hset : setting? name value <;> simp [Option.filter, hset]
  rw [settings, hfilter]
  exact lookup_foldl_insertField_filter (by simp) name

theorem lookup_layer_withoutExternal (environment : Environment) (name : String) :
    environment.withoutExternal.layer.lookup name =
      if name = "external" then none else environment.layer.lookup name := by
  rw [layer, layer, lookup_mapValues (fun _ => Setting.toJson),
    lookup_mapValues (fun _ => Setting.toJson), lookup_settings_withoutExternal]
  split_ifs <;> rfl

theorem hasCharContents_withoutExternal (environment : Environment) :
    environment.withoutExternal.hasCharContents = environment.hasCharContents := by
  rw [hasCharContents, hasCharContents, lookup_settings_withoutExternal, if_neg (by decide)]

end Environment

/-! ## Fields that agree but for one key -/

namespace Flags

/-- The flags without external specifiers. -/
def withoutExternal (flags : Flags) : Flags :=
  { flags with external := [] }

theorem lookup_apply_withoutExternal (flags : Flags) (fields : Layer) :
    (flags.withoutExternal.apply fields).lookup "external" = fields.lookup "external" := by
  have hnone : flags.layer.lookup "external" = none := flags.lookup_layer.2.2.2.1
  change (Layer.under fields flags.layer).lookup "external" = _
  rw [Layer.lookup_under flags.sorted_layer.nodup, hnone, Option.none_or]

theorem lookup_apply_external_of_ne_nil {flags : Flags} (hne : flags.external ≠ [])
    (fields : Layer) :
    (flags.apply fields).lookup "external" =
      some (addNames flags.external (fields.lookup "external")) := by
  rw [← lookup_apply_withoutExternal flags fields]
  unfold apply
  rw [if_neg (by simpa using hne), lookup_insertField, if_pos rfl]
  rfl

end Flags

namespace Config

variable {disk : Disk} {file : Option Path} {environment : Environment} {flags : Flags}
  {cwd : Path} {config above : Config} {below : Option Config} {fields fields' : Layer}

/-- Whether fields agree but for the external specifiers. -/
def Agree (fields fields' : Layer) : Prop :=
  ∀ name, name ≠ "external" → fields'.lookup name = fields.lookup name

theorem Agree.symm (hagree : Agree fields fields') : Agree fields' fields :=
  fun name hname => (hagree name hname).symm

theorem reads_external_of_ofLayer (hsorted : Sorted fields) (hread : ofLayer fields = .ok above) :
    Reads (list string) (fields.lookup "external") [] above.external :=
  ((ofLayer_eq_ok_iff hsorted).mp hread).2.2.2.1

/-- Of fields that agree both spell a configuration, each with external specifiers of its own. -/
theorem Agree.ofLayer (hagree : Agree fields fields') (hsorted : Sorted fields)
    (hsorted' : Sorted fields') (hread : ofLayer fields = .ok above) {names : List String}
    (hnames : Reads (list string) (fields'.lookup "external") [] names) :
    ofLayer fields' = .ok { above with external := names } := by
  obtain ⟨hmain, hroot, hmode, -, hrules, hmodules⟩ := (ofLayer_eq_ok_iff hsorted).mp hread
  rw [ofLayer_eq_ok_iff hsorted', hagree "main" (by decide), hagree "root" (by decide),
    hagree "node_compat" (by decide), hagree "rules" (by decide), hagree "modules" (by decide)]
  exact ⟨hmain, hroot, hmode, hnames, hrules, hmodules⟩

/-! ## Layers under flags with external specifiers and without -/

theorem agree_layers (below : Option Config) (environment : Environment) (flags : Flags) :
    Agree (layers below environment flags.withoutExternal) (layers below environment flags) := by
  intro name hname
  rw [layers, layers, flags.lookup_apply _ hname, flags.withoutExternal.lookup_apply _ hname]
  rfl

/-- Without flags the list of the file is found, unless a variable hides it. -/
theorem lookup_layers_withoutExternal (below : Option Config) (environment : Environment)
    (flags : Flags) :
    (layers below environment flags.withoutExternal).lookup "external" =
      (environment.layer.lookup "external").or
        (some (.ofStrings (below.getD empty).external)) := by
  rw [layers, flags.lookup_apply_withoutExternal, Layer.lookup_under environment.sorted_layer.nodup,
    (below.getD empty).lookup_layer.2.2.2.1]

/-- What flags find below them decides whether they add to it or take its place. -/
theorem lookup_layers_of_ne_nil (hne : flags.external ≠ []) (below : Option Config)
    (environment : Environment) :
    (layers below environment flags).lookup "external" =
      some (Flags.addNames flags.external
        ((layers below environment flags.withoutExternal).lookup "external")) := by
  rw [layers, flags.lookup_apply_external_of_ne_nil hne, layers, flags.lookup_apply_withoutExternal]

/-- Behind a list the names are added. -/
theorem ofLayer_layers_iff_of_lists (hlists : flags.external = [] ∨ environment.ListsExternal) :
    ofLayer (layers below environment flags) = .ok above ↔
      ∃ lower, ofLayer (layers below environment flags.withoutExternal) = .ok lower ∧
        above = { lower with external := lower.external ++ flags.external } := by
  rcases eq_or_ne flags.external [] with hnil | hne
  · have hflags : flags.withoutExternal = flags := by rw [Flags.withoutExternal, ← hnil]
    simp [hflags, hnil, eq_comm]
  have hagree := agree_layers below environment flags
  have hsorted := sorted_layers below environment flags
  have hsorted' := sorted_layers below environment flags.withoutExternal
  obtain ⟨items, hitems⟩ : ∃ items,
      (layers below environment flags.withoutExternal).lookup "external" = some (.arr items) := by
    rw [lookup_layers_withoutExternal]
    cases hset : environment.layer.lookup "external" with
    | none => exact ⟨_, rfl⟩
    | some value =>
        obtain ⟨items, rfl⟩ := exists_eq_of_isList (hlists.resolve_left hne value hset)
        exact ⟨items, rfl⟩
  -- the two lists are one behind the other, and are read so
  have hreads : ∀ all, Reads (list string) ((layers below environment flags).lookup "external")
      [] all ↔ ∃ front, Reads (list string)
        ((layers below environment flags.withoutExternal).lookup "external") [] front ∧
          all = front ++ flags.external := by
    intro all
    rw [lookup_layers_of_ne_nil hne, hitems]
    exact list_string_append_iff
  constructor
  · intro hread
    obtain ⟨front, hfront, hall⟩ := (hreads _).mp (reads_external_of_ofLayer hsorted hread)
    refine ⟨_, hagree.symm.ofLayer hsorted hsorted' hread hfront, ?_⟩
    rw [← hall]
  · rintro ⟨lower, hread, rfl⟩
    exact hagree.ofLayer hsorted' hsorted hread
      ((hreads _).mpr ⟨_, reads_external_of_ofLayer hsorted' hread, rfl⟩)

/-- Anything else is an error without flags. -/
theorem ofLayer_layers_ne_ok (hlists : ¬ environment.ListsExternal) (lower : Config) :
    ofLayer (layers below environment flags.withoutExternal) ≠ .ok lower := by
  intro hread
  have hexternal := reads_external_of_ofLayer (sorted_layers ..) hread
  obtain ⟨value, hset, hvalue⟩ := Environment.exists_of_not_listsExternal hlists
  rw [lookup_layers_withoutExternal, hset, Option.some_or, reads_some] at hexternal
  exact list_string_ne_ok hvalue _ hexternal

/-- Anything else gives way to the names. -/
theorem lookup_layers_of_not_lists (hne : flags.external ≠ [])
    (hlists : ¬ environment.ListsExternal) :
    (layers below environment flags).lookup "external" = some (.ofStrings flags.external) := by
  obtain ⟨value, hset, hvalue⟩ := Environment.exists_of_not_listsExternal hlists
  rw [lookup_layers_of_ne_nil hne, lookup_layers_withoutExternal, hset, Option.some_or]
  cases value with
  | arr items => exact absurd rfl hvalue
  | _ => rfl

theorem agree_layers_withoutExternal (below : Option Config) (environment : Environment)
    (flags : Flags) :
    Agree (layers below environment flags)
      (layers below environment.withoutExternal flags.withoutExternal) := by
  intro name hname
  rw [agree_layers below environment flags name hname, layers, layers,
    flags.withoutExternal.lookup_apply _ hname, flags.withoutExternal.lookup_apply _ hname,
    Layer.lookup_under environment.sorted_layer.nodup,
    Layer.lookup_under environment.withoutExternal.sorted_layer.nodup,
    environment.lookup_layer_withoutExternal, if_neg hname]

/-- Without the variables and the flags the list of the file is read. -/
theorem reads_external_withoutExternal (below : Option Config) (environment : Environment)
    (flags : Flags) :
    Reads (list string)
      ((layers below environment.withoutExternal flags.withoutExternal).lookup "external") []
      (below.getD empty).external := by
  rw [lookup_layers_withoutExternal, environment.lookup_layer_withoutExternal, if_pos rfl,
    Option.none_or]
  exact list_string_ofStrings _

/-- Flags in front of anything else work as if no variable had set it, and the file no list. -/
theorem ofLayer_layers_iff_of_not_lists (hne : flags.external ≠ [])
    (hlists : ¬ environment.ListsExternal) :
    ofLayer (layers below environment flags) = .ok above ↔
      ∃ lower,
        ofLayer (layers below environment.withoutExternal flags.withoutExternal) = .ok lower ∧
        above = { lower with external := flags.external } := by
  have hagree := agree_layers_withoutExternal below environment flags
  have hsorted := sorted_layers below environment flags
  have hsorted' := sorted_layers below environment.withoutExternal flags.withoutExternal
  have hnames : (layers below environment flags).lookup "external" = _ :=
    lookup_layers_of_not_lists hne hlists
  constructor
  · intro hread
    refine ⟨_, hagree.ofLayer hsorted hsorted' hread
      (reads_external_withoutExternal below environment flags), ?_⟩
    have hexternal := reads_external_of_ofLayer hsorted hread
    rw [hnames, reads_some, list_string_ofStrings, Except.ok.injEq] at hexternal
    rw [hexternal]
  · rintro ⟨lower, hread, rfl⟩
    refine hagree.symm.ofLayer hsorted' hsorted hread ?_
    rw [hnames]
    exact list_string_ofStrings _

/-! ## The loaded configuration -/

/-- What is made of the fields of all layers is made of the loaded configuration, since paths
are resolved without a look at external specifiers. -/
theorem load_eq_ok_iff_of_layers {environment' : Environment} {flags' : Flags}
    (names : List String → List String)
    (hchar : environment'.hasCharContents = environment.hasCharContents)
    (htext : flags'.isText = flags.isText)
    (hlayers : ∀ below above, ofLayer (layers below environment flags) = .ok above ↔
      ∃ lower, ofLayer (layers below environment' flags') = .ok lower ∧
        above = { lower with external := names lower.external }) :
    load disk file environment flags cwd = .ok config ↔
      ∃ lower, load disk file environment' flags' cwd = .ok lower ∧
        config = { lower with external := names lower.external } := by
  simp only [load, bind_eq_ok_iff, layered_eq_ok_iff_ofLayer, hchar, htext, hlayers]
  constructor
  · rintro ⟨below, hbelow, hquiet, hfile, hflags, _, ⟨lower, hlower, rfl⟩, rfl⟩
    exact ⟨lower.resolve cwd, ⟨below, hbelow, hquiet, hfile, hflags, lower, hlower, rfl⟩, rfl⟩
  · rintro ⟨_, ⟨below, hbelow, hquiet, hfile, hflags, lower, hlower, rfl⟩, rfl⟩
    exact ⟨below, hbelow, hquiet, hfile, hflags, _, ⟨lower, hlower, rfl⟩, rfl⟩

/-- External specifiers among flags come behind those below them and change nothing else, as
long as variables set a list or nothing.  When variables set anything else there is no
configuration without such flags, and with them it is the one that would be there had nothing
been set, with the specifiers of the flags alone. -/
theorem load_external (disk : Disk) (file : Option Path) (environment : Environment)
    (flags : Flags) (cwd : Path) (config : Config) :
    (flags.external = [] ∨ environment.ListsExternal →
      (load disk file environment flags cwd = .ok config ↔
        ∃ lower, load disk file environment flags.withoutExternal cwd = .ok lower ∧
          config = { lower with external := lower.external ++ flags.external })) ∧
    (flags.external ≠ [] → ¬ environment.ListsExternal →
      (∀ lower, load disk file environment flags.withoutExternal cwd ≠ .ok lower) ∧
      (load disk file environment flags cwd = .ok config ↔
        ∃ lower,
          load disk file environment.withoutExternal flags.withoutExternal cwd = .ok lower ∧
          config = { lower with external := flags.external })) := by
  refine ⟨fun hlists => ?_, fun hne hlists => ⟨?_, ?_⟩⟩
  · exact load_eq_ok_iff_of_layers (· ++ flags.external) rfl rfl
      fun below above => ofLayer_layers_iff_of_lists hlists
  · intro lower hload
    obtain ⟨below, -, hlayered⟩ := bind_eq_ok_iff.mp hload
    obtain ⟨-, -, -, above, hread, -⟩ := layered_eq_ok_iff_ofLayer.mp hlayered
    exact ofLayer_layers_ne_ok hlists above hread
  · exact load_eq_ok_iff_of_layers (fun _ => flags.external)
      environment.hasCharContents_withoutExternal rfl
      fun below above => ofLayer_layers_iff_of_not_lists hne hlists

/-- A list in a variable takes the place of the list in the file, and a flag comes behind it. -/
theorem load_external_list :
    let environment : Environment := [("ROVE_EXTERNAL", "[a, \"b c\"]")]
    let flags : Flags := ⟨none, none, none, ["n"]⟩
    environment.ListsExternal ∧
      ∃ lower, load nested (some "/w/sub/rove.toml") environment flags.withoutExternal "/w" =
          .ok lower ∧
        { nestedConfig with external := ["a", "b c", "n"] } =
          { lower with external := lower.external ++ flags.external } := by
  intro environment flags
  have hlists : environment.ListsExternal := by decide +kernel
  have hload : load nested (some "/w/sub/rove.toml") environment flags "/w" =
      .ok { nestedConfig with external := ["a", "b c", "n"] } := by
    rw [load_some, ofFile_nested]
    decide +kernel
  exact ⟨hlists, ((load_external ..).1 (Or.inr hlists)).mp hload⟩

/-- The word in the variable is an error, and a flag hides it together with the list of the
file. -/
theorem load_external_bareWord :
    let environment : Environment := [("ROVE_EXTERNAL", "a")]
    let flags : Flags := ⟨none, none, none, ["n"]⟩
    nestedConfig.external = ["m"] ∧
      load nested (some "/w/sub/rove.toml") environment flags "/w" =
        .ok { nestedConfig with external := ["n"] } ∧
      load nested (some "/w/sub/rove.toml") environment flags.withoutExternal "/w" =
        .error (.malformed "configuration" "") := by
  refine ⟨rfl, ?_, ?_⟩ <;>
    · rw [load_some, ofFile_nested]
      decide +kernel

end Config

end ModuleDiscovery
