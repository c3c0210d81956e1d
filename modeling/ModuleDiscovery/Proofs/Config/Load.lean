import ModuleDiscovery.Disk.Tree
import ModuleDiscovery.Proofs.Config.Layers
import ModuleDiscovery.Proofs.Path.Clean
import ModuleDiscovery.Proofs.Text.Utf8

/-!
# Loading a configuration

The paths of a configuration are resolved twice: those in a file from the directory it lies
in, and those of all layers from the working directory.

## Strategy

* **Once is enough.**  A file lies in an absolute directory, so its paths are canonical when
  the layers are put together, and resolving them again changes nothing
  (`Config.Resolved.resolve_eq`).
* **The right directory.**  Paths of flags and variables are not resolved before they reach
  the working directory.  A path of an upper layer hides the one below it before and after
  (`Config.exists_stacked_iff`).
* **The root.**  A file brings a root of its own, which is the directory it lies in when it
  names none; only without a file it is the working directory.

## Main results

* `Config.load_eq_ok_iff`: when a configuration is loaded, and where its parts come from.
* `Config.load_of_ofFile`: with a file only, the layers change nothing of what is text.
-/

namespace ModuleDiscovery

/-! ## The directory of a file -/

/-- A disk whose root is not a file, however it is written. -/
def Disk.Rooted (disk : Disk) : Prop :=
  ∀ p : Path, p.isAbsolute → p.segments = [.root] → disk.isFile p = false

namespace Tree

variable {tree : Tree} {cwd : Option Place}

/-- Parts that are no segments do not leave the root. -/
theorem foldlM_step_root {parts : List Bytes}
    (hparts : parts.filterMap Segment.ofPart? = []) : parts.foldlM tree.step [] = .ok [] := by
  induction parts with
  | nil => rfl
  | cons part parts ih =>
      rw [List.filterMap_eq_nil_iff, List.forall_mem_cons, ← List.filterMap_eq_nil_iff] at hparts
      have hblank : part = [] ∨ part = [Segment.dot] := by
        by_contra hname
        have hnone := hparts.1
        rw [Segment.ofPart?, if_neg hname] at hnone
        split_ifs at hnone
      have hstep : tree.step [] part = .ok [] := by
        rw [step, if_neg (by simp [isDirectory, find?]), if_pos hblank]
      rw [List.foldlM_cons, hstep]
      exact ih hparts.2

/-- The root of a tree is a directory. -/
theorem rooted_disk (tree : Tree) (cwd : Option Place) : (tree.disk cwd).Rooted := by
  intro p habs hroot
  obtain ⟨rest, hbytes⟩ := Path.bytes_of_isAbsolute habs
  rw [Path.segments, hbytes, Segment.ofBytes_slash_cons, List.cons.injEq] at hroot
  have hplace : ∀ place, tree.resolve cwd p = .ok place → place = [] := by
    intro place hresolve
    obtain ⟨⟨here, parts⟩, hstart, hfold⟩ := bind_eq_ok_iff.mp hresolve
    have hparts : here = [] ∧ parts = rest.splitOn Segment.slash := by
      unfold start at hstart
      simp only [habs, hbytes, splitOn_cons_self, List.tail_cons, if_true] at hstart
      split_ifs at hstart
      simpa [eq_comm] using hstart
    obtain ⟨rfl, rfl⟩ := hparts
    exact (Except.ok.inj ((foldlM_step_root hroot.2).symm.trans hfold)).symm
  have hlook : (tree.disk cwd).look p = tree.look cwd p := rfl
  rw [Disk.isFile, hlook, look]
  cases hresolve : tree.resolve cwd p with
  | error e => rfl
  | ok place =>
      rw [hplace place hresolve]
      rfl

end Tree

/-! ## Paths seen from a directory -/

namespace Path

/-- A path seen from a directory, without dots. -/
def seenFrom (base path : Path) : Path :=
  (base.join path).clean

theorem canonical_seenFrom {base : Path} (habs : base.isAbsolute) (path : Path) :
    (base.seenFrom path).Canonical :=
  canonical_clean (isAbsolute_join habs path)

/-- Once a path is canonical it does not matter from where it is seen. -/
theorem Canonical.seenFrom {path : Path} (hpath : path.Canonical) (base : Path) :
    base.seenFrom path = path := by
  rw [Path.seenFrom, join_of_isAbsolute base hpath.absolute, hpath.clean_eq]

end Path

namespace Config

variable {disk : Disk} {file : Option Path} {environment : Environment} {flags : Flags}
  {base cwd : Path} {config : Config}

/-- The paths of a configuration are canonical, and one of them is its root. -/
structure Resolved (config : Config) : Prop where
  main : ∀ main, config.main = some main → main.Canonical
  root : ∃ root, config.root = some root ∧ root.Canonical
  modules : ∀ d ∈ config.modules, d.path.Canonical

theorem resolve_eq_mk (base : Path) (config : Config) : config.resolve base =
    { main := config.main.map base.seenFrom
      root := some ((config.root.map base.seenFrom).getD base.clean)
      nodeCompat := config.nodeCompat
      external := config.external
      rules := config.rules
      modules := config.modules.map fun d => { d with path := base.seenFrom d.path } } := by
  unfold resolve
  cases config.root <;> rfl

theorem resolved_resolve (habs : base.isAbsolute) (config : Config) :
    (config.resolve base).Resolved := by
  constructor
  · intro main hmain
    obtain ⟨p, -, rfl⟩ := Option.map_eq_some_iff.mp hmain
    exact Path.canonical_seenFrom habs p
  · refine ⟨_, rfl, ?_⟩
    split
    · exact Path.canonical_clean habs
    · exact Path.canonical_seenFrom habs _
  · intro d hd
    obtain ⟨written, -, rfl⟩ := List.mem_map.mp hd
    exact Path.canonical_seenFrom habs written.path

/-- What is resolved stays as it is, from wherever it is seen. -/
theorem Resolved.resolve_eq (hresolved : config.Resolved) (cwd : Path) :
    config.resolve cwd = config := by
  obtain ⟨main, root, nodeCompat, external, rules, modules⟩ := config
  obtain ⟨hmain, ⟨root, rfl, hroot⟩, hmodules⟩ := hresolved
  have hmainEq : main.map cwd.seenFrom = main := by
    cases main with
    | none => rfl
    | some main => rw [Option.map_some, (hmain main rfl).seenFrom cwd]
  have hmodulesEq : (modules.map fun d => { d with path := cwd.seenFrom d.path }) = modules := by
    refine List.map_congr_left (fun d hd => ?_) |>.trans (List.map_id modules)
    rw [(hmodules d hd).seenFrom cwd]
    rfl
  rw [resolve_eq_mk, hmainEq, Option.map_some, Option.getD_some, hroot.seenFrom cwd, hmodulesEq]

/-- Whatever the layers say, the paths are resolved in the end. -/
theorem resolved_of_load (habs : cwd.isAbsolute)
    (hload : load disk file environment flags cwd = .ok config) : config.Resolved := by
  obtain ⟨file, -, hlayered⟩ := bind_eq_ok_iff.mp hload
  obtain ⟨-, -, -, written, -, rfl⟩ := layered_eq_ok_iff_ofLayer.mp hlayered
  exact resolved_resolve habs written

/-! ## The loaded configuration -/

/-- What is written in a file, if there is one, and the directory its paths are seen from;
without a file nothing is written and paths are seen from the working directory. -/
inductive WrittenIn (disk : Disk) (cwd : Path) : Option Path → Path → Config → Prop
  | nothing : WrittenIn disk cwd none cwd empty
  | file {path directory : Path} {value : Json} {written : Config}
      (hdirectory : path.parent = some directory) (hvalue : fileValue disk path = .ok value)
      (hwritten : ofJson value = .ok written) : WrittenIn disk cwd (some path) directory written

/-- Every part comes from the highest layer that has it: flags, variables, and what is
written.  Paths of flags and variables are seen from the working directory, written paths
from `base`, which is also the root when no layer has one. -/
structure Layered (environment : Environment) (flags : Flags) (cwd base : Path)
    (written config : Config) : Prop where
  main : config.main = ((flags.main.or (environment.path? "main")).map cwd.seenFrom).or
    (written.main.map base.seenFrom)
  root : config.root = ((flags.root.or (environment.path? "root")).map cwd.seenFrom).or
    (some ((written.root.map base.seenFrom).getD base.clean))
  nodeCompat : some config.nodeCompat =
    highestMode flags.nodeCompat (environment.text? "node_compat") written.nodeCompat
  external : config.external = written.external ++ flags.external
  rules : config.rules = written.rules
  modules : config.modules = written.modules.map fun d => { d with path := base.seenFrom d.path }

theorem hasCharContents_of_plain (hplain : environment.Plain) :
    environment.hasCharContents = false := by
  rw [Environment.hasCharContents, hplain.lookup_settings_eq_none (by decide)]

theorem layered_eq_ok_iff (hplain : environment.Plain) (below : Option Config) :
    layered below environment flags cwd = .ok config ↔
      (below.getD empty).isText ∧ flags.isText ∧
        ∃ above, Stacked environment flags (below.getD empty) above ∧
          above.resolve cwd = config := by
  rw [layered_eq_ok_iff_ofLayer, hasCharContents_of_plain hplain, eq_self_iff_true, true_and]
  refine and_congr_right fun hbelow => and_congr_right fun hflags => ?_
  simp only [ofLayer_layers_eq_ok_iff hplain hbelow hflags]

/-- What is below variables and flags may be seen from the working directory already, or be
seen from it in the end. -/
theorem exists_stacked_iff {below written : Config}
    (hbelow : below.resolve cwd = written.resolve base) :
    (∃ above, Stacked environment flags below above ∧ above.resolve cwd = config) ↔
      Layered environment flags cwd base written config := by
  obtain ⟨hmain, hroot, hmode, hexternal, hrules, hmodules⟩ :
      below.main.map cwd.seenFrom = written.main.map base.seenFrom ∧
      some ((below.root.map cwd.seenFrom).getD cwd.clean) =
        some ((written.root.map base.seenFrom).getD base.clean) ∧
      below.nodeCompat = written.nodeCompat ∧ below.external = written.external ∧
      below.rules = written.rules ∧
      (below.modules.map fun d => { d with path := cwd.seenFrom d.path }) =
        written.modules.map fun d => { d with path := base.seenFrom d.path } := by
    rwa [resolve_eq_mk, resolve_eq_mk, Config.mk.injEq] at hbelow
  -- a path of an upper layer comes first, before and after both are seen from a directory
  have hmainOr : ∀ upper : Option Path, (upper.or below.main).map cwd.seenFrom =
      (upper.map cwd.seenFrom).or (written.main.map base.seenFrom) := by
    intro upper
    rw [Option.map_or, hmain]
  have hrootOr : ∀ upper : Option Path,
      some (((upper.or below.root).map cwd.seenFrom).getD cwd.clean) =
        (upper.map cwd.seenFrom).or (some ((written.root.map base.seenFrom).getD base.clean)) := by
    intro upper
    rw [← hroot]
    cases upper <;> rfl
  constructor
  · rintro ⟨above, habove, rfl⟩
    rw [resolve_eq_mk]
    constructor
    · rw [habove.main, hmainOr]
    · rw [habove.root, hrootOr]
    · rw [habove.nodeCompat, hmode]
    · rw [habove.external, hexternal]
    · rw [habove.rules, hrules]
    · rw [habove.modules, hmodules]
  · intro hlayered
    refine ⟨{ main := (flags.main.or (environment.path? "main")).or below.main
              root := (flags.root.or (environment.path? "root")).or below.root
              nodeCompat := config.nodeCompat, external := config.external
              rules := config.rules, modules := below.modules },
      ⟨rfl, rfl, ?_, ?_, ?_, rfl⟩, ?_⟩
    · rw [hlayered.nodeCompat, hmode]
    · rw [hlayered.external, hexternal]
    · rw [hlayered.rules, hrules]
    · rw [resolve_eq_mk, hmainOr, hrootOr, hmodules, ← hlayered.main, ← hlayered.root,
        ← hlayered.modules]

/-- What is read is a file. -/
theorem isFile_of_fileValue {path : Path} {value : Json}
    (hvalue : fileValue disk path = .ok value) : disk.isFile path := by
  obtain ⟨text, htext, -⟩ := bind_eq_ok_iff.mp hvalue
  obtain ⟨bytes, hbytes, -⟩ := bind_eq_ok_iff.mp (mapError_eq_ok_iff.mp htext)
  unfold Disk.readBytes at hbytes
  unfold Disk.isFile
  split at hbytes <;> simp_all

/-- A file that can be read lies in a directory. -/
theorem exists_parent_of_fileValue (hrooted : disk.Rooted) {path : Path} {value : Json}
    (habs : path.isAbsolute) (hvalue : fileValue disk path = .ok value) :
    ∃ directory, path.parent = some directory ∧ directory.isAbsolute := by
  refine Path.exists_parent habs fun hroot => ?_
  have hfile := isFile_of_fileValue hvalue
  rw [hrooted path habs hroot] at hfile
  cases hfile

theorem WrittenIn.isAbsolute {path : Path} {written : Config}
    (hwritten : WrittenIn disk cwd (some path) base written) (hrooted : disk.Rooted)
    (habs : path.isAbsolute) : base.isAbsolute := by
  cases hwritten with
  | file hdirectory hvalue =>
      obtain ⟨directory, hparent, hdirectoryAbs⟩ := exists_parent_of_fileValue hrooted habs hvalue
      obtain rfl := Option.some.inj (hdirectory.symm.trans hparent)
      exact hdirectoryAbs

/-- The paths in a file are seen from the directory it lies in. -/
theorem ofFile_eq_ok_iff (hrooted : disk.Rooted) {path : Path} (habs : path.isAbsolute)
    (cwd : Path) :
    ofFile disk path = .ok config ↔
      ∃ directory written, WrittenIn disk cwd (some path) directory written ∧
        written.resolve directory = config := by
  simp only [ofFile, bind_eq_ok_iff, pure, Except.pure, Except.ok.injEq]
  constructor
  · rintro ⟨value, hvalue, written, hwritten, hresolve⟩
    obtain ⟨directory, hdirectory, -⟩ := exists_parent_of_fileValue hrooted habs hvalue
    rw [baseOf, hdirectory, Option.getD_some] at hresolve
    exact ⟨directory, written, .file hdirectory hvalue hwritten, hresolve⟩
  · rintro ⟨directory, written, hwritten, hresolve⟩
    cases hwritten with
    | file hdirectory hvalue hwritten =>
        refine ⟨_, hvalue, written, hwritten, ?_⟩
        rw [baseOf, hdirectory, Option.getD_some, hresolve]

theorem load_some (disk : Disk) (path : Path) (environment : Environment) (flags : Flags)
    (cwd : Path) : load disk (some path) environment flags cwd =
      (ofFile disk path >>= fun below => layered (some below) environment flags cwd) := by
  simp [load]

/-- A configuration is loaded exactly when its file, if there is one, can be read, the paths in
the file and among the flags are text, and no variable that counts spells an unknown mode.
Each of its parts then comes from the highest layer that has it, with paths of flags and
variables seen from the working directory and written ones from the directory of the file,
and all its paths are absolute and clean. -/
theorem load_eq_ok_iff (hrooted : disk.Rooted) (hcwd : cwd.isAbsolute)
    (hfile : ∀ path, file = some path → path.isAbsolute) (hplain : environment.Plain) :
    (load disk file environment flags cwd = .ok config ↔ ∃ base written,
        WrittenIn disk cwd file base written ∧
          (file.isSome → (written.resolve base).isText) ∧ flags.isText ∧
          Layered environment flags cwd base written config) ∧
      (load disk file environment flags cwd = .ok config → config.Resolved) := by
  refine ⟨?_, resolved_of_load hcwd⟩
  cases file with
  | none =>
      have hload : load disk none environment flags cwd = layered none environment flags cwd := rfl
      have hseen : empty.resolve cwd = empty.resolve cwd := rfl
      rw [hload, layered_eq_ok_iff hplain, Option.getD_none, exists_stacked_iff hseen]
      constructor
      · rintro ⟨-, hflags, hlayered⟩
        exact ⟨cwd, empty, .nothing, nofun, hflags, hlayered⟩
      · rintro ⟨base, written, hwritten, -, hflags, hlayered⟩
        cases hwritten
        exact ⟨rfl, hflags, hlayered⟩
  | some path =>
      -- what lies below the variables has been seen from the directory of the file
      have hstacked : ∀ {directory written : _}, WrittenIn disk cwd (some path) directory written →
          (layered (some (written.resolve directory)) environment flags cwd = .ok config ↔
            (written.resolve directory).isText ∧ flags.isText ∧
              Layered environment flags cwd directory written config) := by
        intro directory written hwritten
        have habs := hwritten.isAbsolute hrooted (hfile path rfl)
        rw [layered_eq_ok_iff hplain, Option.getD_some,
          exists_stacked_iff ((resolved_resolve habs written).resolve_eq cwd)]
      rw [load_some, bind_eq_ok_iff]
      constructor
      · rintro ⟨below, hbelow, hlayered⟩
        obtain ⟨directory, written, hwritten, rfl⟩ :=
          (ofFile_eq_ok_iff hrooted (hfile path rfl) cwd).mp hbelow
        obtain ⟨htext, hflags, hlayered⟩ := (hstacked hwritten).mp hlayered
        exact ⟨directory, written, hwritten, fun _ => htext, hflags, hlayered⟩
      · rintro ⟨directory, written, hwritten, htext, hlayered⟩
        exact ⟨_, (ofFile_eq_ok_iff hrooted (hfile path rfl) cwd).mpr ⟨_, _, hwritten, rfl⟩,
          (hstacked hwritten).mpr ⟨htext rfl, hlayered⟩⟩

/-- A directory with a configuration that names files by where it lies. -/
def nested : Disk :=
  (Tree.plant .empty (.ofTexts ["w", "sub", "rove.toml"]) (Utf8.encode <|
    "main = \"x/../a\"\nexternal = [\"m\"]\nrules = [[\"Text\", [\"*\"], true]]\n" ++
    "modules = [[\"Text\", \"a\", \"\"], [\"Data\", \"../b\", [9]], [\"Data\", \"/c\"]]")).disk
      (some (.ofTexts ["w"]))

/-- What is written there, seen from its directory. -/
def nestedConfig : Config where
  main := some "/w/sub/a"
  root := some "/w/sub"
  nodeCompat := .none
  external := ["m"]
  rules := [⟨.text, ["*"], true⟩]
  modules := [⟨.text, "/w/sub/a", some (.text "")⟩, ⟨.data, "/w/b", some (.bytes [9])⟩,
    ⟨.data, "/c", none⟩]

theorem rooted_nested : nested.Rooted :=
  Tree.rooted_disk _ _

/-- A document that was written as UTF-8 is read from its characters, whichever way they are
spelled. -/
theorem ofFile_of_toList {path : Path} {text : String} {chars : List Char}
    (hname : path.fileName ≠ some (Utf8.encode packageName))
    (hbytes : disk.readBytes path = .ok (Utf8.encode text)) (hchars : text.toList = chars)
    (hmark : chars.head? ≠ some '\uFEFF') :
    ofFile disk path = (Toml.readLines (chars.length + 1) ⟨[], []⟩ chars).elim
      (.error (.malformed "toml" "Invalid TOML syntax: "))
      fun fields =>
        (ofJson (.obj (Toml.Fields.fieldsJson fields))).map (·.resolve (baseOf path)) := by
  have hread : disk.readText path = .ok text := by
    simp only [Disk.readText, hbytes, bind, Except.bind, Utf8.decode?_encode, pure, Except.pure]
  have hparse : Toml.parse? text = (Toml.readLines (chars.length + 1) ⟨[], []⟩ chars).map
      fun fields => .obj (Toml.Fields.fieldsJson fields) := by
    rw [Toml.parse?, hchars]
    cases chars with
    | nil => rfl
    | cons c rest =>
        have hc : c ≠ '\uFEFF' := fun hc => hmark (by rw [hc, List.head?_cons])
        simp [hc]
  simp only [ofFile, fileValue, hread, Except.mapError, bind, Except.bind, if_neg hname,
    documentValue, hparse]
  cases Toml.readLines (chars.length + 1) ⟨[], []⟩ chars <;> rfl

theorem toList_append_eq {front back : String} {chars chars' : List Char}
    (hfront : front.toList = chars) (hback : back.toList = chars') :
    (front ++ back).toList = chars ++ chars' := by
  rw [String.toList_append, hfront, hback]

theorem ofFile_nested : ofFile nested "/w/sub/rove.toml" = .ok nestedConfig := by
  -- the kernel is slow at the characters of a literal, so they are named first
  rw [ofFile_of_toList (by decide) rfl
    (toList_append_eq String.toList_ofList String.toList_ofList) (by decide)]
  decide +kernel

/-- A flag beats the file, two variables beat it too, and the specifiers are put together. -/
theorem load_eq_ok_iff_nested :
    let environment : Environment :=
      [("ROVE_ROOT", "lib"), ("PATH", "/bin"), ("rove_node_compat", "v1")]
    let flags : Flags := ⟨some "./other.mjs", none, none, ["n"]⟩
    let config := { nestedConfig with
      main := some "/w/other.mjs", root := some "/w/lib", nodeCompat := .v1
      external := ["m", "n"] }
    config.Resolved ∧ ∃ base written,
      WrittenIn nested "/w" (some "/w/sub/rove.toml") base written ∧
        (Option.isSome (some ("/w/sub/rove.toml" : Path)) → (written.resolve base).isText) ∧
        flags.isText ∧ Layered environment flags "/w" base written config := by
  intro environment flags config
  have hplain : environment.Plain := by
    have hsettings : environment.settings =
      [("node_compat", .plain (.str "v1")), ("root", .plain (.str "lib"))] := by rfl
    rw [Environment.Plain, hsettings]
    simp
  have hload : load nested (some "/w/sub/rove.toml") environment flags "/w" = .ok config := by
    rw [load_some, ofFile_nested]
    decide +kernel
  have habs : ∀ path, some ("/w/sub/rove.toml" : Path) = some path → path.isAbsolute := by
    intro path hpath
    obtain rfl := Option.some.inj hpath
    decide
  have hcwd : ("/w" : Path).isAbsolute := by decide
  exact ⟨(load_eq_ok_iff rooted_nested hcwd habs hplain).2 hload,
    (load_eq_ok_iff rooted_nested hcwd habs hplain).1.mp hload⟩

/-! ## The way through the layers and back -/

theorem under_empty_layer (config : Config) :
    Layer.under empty.layer config.layer = config.layer := by
  obtain ⟨main, root, nodeCompat, external, rules, modules⟩ := config
  cases main <;> cases root <;> rfl

/-- A configuration file whose paths are text gives the same configuration through the layers
as without them.  Whatever it says is written out in a layer, put on top of the empty values,
read and resolved again from another directory, and comes back as it was.  A path that is not
text cannot be written out, and then there is no configuration. -/
theorem load_of_ofFile (hrooted : disk.Rooted) {path : Path} (habs : path.isAbsolute)
    (hquiet : environment.settings = []) (hread : ofFile disk path = .ok config) (cwd : Path) :
    load disk (some path) environment Flags.empty cwd =
        (if config.isText then .ok config else .error (.malformed "configuration" "")) ∧
      (config.isText → ofLayer (Layer.under empty.layer config.layer) = .ok config) ∧
      config.resolve cwd = config := by
  obtain ⟨directory, written, hwritten, hresolve⟩ := (ofFile_eq_ok_iff hrooted habs cwd).mp hread
  have hresolved : config.Resolved := by
    rw [← hresolve]
    exact resolved_resolve (hwritten.isAbsolute hrooted habs) written
  have hplain : environment.Plain := by
    rw [Environment.Plain, hquiet]
    simp
  have htext : ∀ name, environment.text? name = none := fun name => by
    rw [Environment.text?, hquiet]
    rfl
  have hstacked : Stacked environment Flags.empty config config := by
    constructor <;> simp [Flags.empty, Environment.path?, htext, highestMode]
  have hlayers : layers (some config) environment Flags.empty = config.layer := by
    rw [layers, Environment.layer, hquiet]
    rfl
  refine ⟨?_, fun hconfig => ?_, hresolved.resolve_eq cwd⟩
  · rw [load_some, hread]
    change layered (some config) environment Flags.empty cwd = _
    split_ifs with hconfig
    · exact (layered_eq_ok_iff hplain _).mpr
        ⟨hconfig, rfl, config, hstacked, hresolved.resolve_eq cwd⟩
    · simp [layered, hasCharContents_of_plain hplain, layers?, hconfig, throw, throwThe,
        MonadExceptOf.throw]
  · have hfile : ((some config).getD empty).isText := hconfig
    rw [under_empty_layer, ← hlayers, ofLayer_layers_eq_ok_iff hplain hfile rfl]
    exact hstacked

/-- Contents that are empty, bytes or not there, and a rule, seen from another directory. -/
theorem load_of_ofFile_nested :
    load nested (some "/w/sub/rove.toml") [("PATH", "/bin")] Flags.empty "/" =
      .ok nestedConfig :=
  (load_of_ofFile rooted_nested (by decide) rfl ofFile_nested "/").1.trans
    (if_pos (by decide +kernel))

/-- An empty configuration in a directory whose name is not text: it is accepted, with this
directory as its root, and cannot be loaded. -/
theorem load_malformed_directory :
    let place : Place := [[0xFF], Utf8.encode "rove.toml"]
    let disk : Disk := (Tree.plant .empty place []).disk (some [])
    ofFile disk place.path = .ok { empty with root := some (Place.path [[0xFF]]) } ∧
      load disk (some place.path) [] Flags.empty "/" = .error (.malformed "configuration" "") := by
  decide +kernel

end Config

end ModuleDiscovery
