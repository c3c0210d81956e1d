import ModuleDiscovery.Config.Document
import ModuleDiscovery.ModuleError
import ModuleDiscovery.Proofs.Config.Fields
import ModuleDiscovery.Proofs.Path.Shown
import ModuleDiscovery.Proofs.Toml.Document
import ModuleDiscovery.Proofs.Toml.Text

/-!
# Reading a listing back

The message about a specifier that is no string lists the modules found so far as lines for
a configuration file.  A path stands in its line between double quotes as it is.

## Strategy

* **A line that is read as it should be.**  When a path is text and no character of it stands
  for something else, its table is read as the kind and the path, and the next line from its start
  (`value?_listingTable`, `arrayItems_arrayLines`).
* **A line that is not.**  A path may end its own text, add fields to its table, close the
  array and go on with other keys.  What is read under a key stays all the same
  (`Fields.Has`), so the path that is read is the first text behind its key, and a text of
  the right characters on one line was read from no others (`isVerbatim_of_basicString`).
  Line by line, a listing that is read back has no such path (`isVerbatim_of_arrayItems`).

## Main results

* `listing_read_back_iff`: which listings are read back.
* `listing_misread`: a listing that is refused, and one that is read as another path.
-/

namespace ModuleDiscovery

open Toml

namespace ModuleDefinition

/-- A definition without contents, as a listing shows it. -/
def bare (d : ModuleDefinition) : ModuleDefinition :=
  { d with contents := none }

/-- Whether the path of a definition is text that can be written between double quotes as it
is. -/
def IsVerbatim (d : ModuleDefinition) : Prop :=
  d.path.isText ∧ ∀ c ∈ d.path.text.toList, Toml.IsVerbatim c

-- decided along the text: an instance that runs through all characters there are is too slow
instance (d : ModuleDefinition) : Decidable d.IsVerbatim :=
  letI := List.decidableBAll Toml.IsVerbatim d.path.text.toList
  instDecidableAnd

end ModuleDefinition

/-! ## A line of a listing -/

namespace ModuleError

variable (d : ModuleDefinition)

/-- A definition as an inline table. -/
def listingTable : String :=
  "\x7b type = \"" ++ d.kind.name ++ "\", path = \"" ++ d.path.text ++ "\" \x7d"

-- the two facts are stated of any texts, because it is slow to compare written-out ones
theorem append_surrounded (indent front kind middle path back comma : String) :
    (indent ++ front) ++ kind ++ middle ++ path ++ (back ++ comma) =
      indent ++ (front ++ kind ++ middle ++ path ++ back) ++ comma := by
  simp only [String.append_assoc]

theorem toList_append_table (front kind middle path back : String) :
    (front ++ kind ++ middle ++ path ++ back).toList =
      front.toList ++ (kind.toList ++ (middle.toList ++ (path.toList ++ back.toList))) := by
  simp only [String.toList_append, List.append_assoc]

theorem listingLine_eq : listingLine d = "  " ++ listingTable d ++ "," :=
  append_surrounded "  " "\x7b type = \"" d.kind.name "\", path = \"" d.path.text "\" \x7d" ","

/-- The name of a kind is read as itself. -/
theorem isVerbatim_kind (kind : ContentKind) : ∀ c ∈ kind.name.toList, Toml.IsVerbatim c := by
  have hall : kind.name.toList.all fun c => decide (Toml.IsVerbatim c) := by
    cases kind <;> decide +kernel
  simpa using hall

/-- The key of the kind, up to the quote in front of its name. -/
def typeOpening : List Char :=
  ['t', 'y', 'p', 'e', ' ', '=', ' ', '"']

/-- The key of the path, up to the quote in front of its text. -/
def pathOpening : List Char :=
  ['p', 'a', 't', 'h', ' ', '=', ' ', '"']

/-- What stands in a table up to the text of the path. -/
def opening (kind : ContentKind) (behind : List Char) : List Char :=
  typeOpening ++ (kind.name.toList ++ '"' :: ',' :: ' ' :: (pathOpening ++ behind))

theorem toList_listingTable : (listingTable d).toList =
    '\x7b' :: ' ' :: opening d.kind (d.path.text.toList ++ ['"', ' ', '\x7d']) := by
  exact toList_append_table "\x7b type = \"" d.kind.name "\", path = \"" d.path.text "\" \x7d"

theorem key?_type (text : List Char) :
    key? maxParts (typeOpening ++ text) = some (["type"], '=' :: ' ' :: '"' :: text) := by
  rfl

theorem key?_path (text : List Char) :
    key? maxParts (pathOpening ++ text) = some (["path"], '=' :: ' ' :: '"' :: text) := by
  rfl

variable {depth count : ℕ}

theorem keyValue_opening (kind : ContentKind) (depth : ℕ) (behind : List Char) :
    keyValue (dropVoid false) (value? depth) (opening kind behind) =
      some ((["type"], .str kind.name), ',' :: ' ' :: (pathOpening ++ behind)) := by
  obtain ⟨first, others, hname⟩ : ∃ first others, kind.name.toList = first :: others := by
    cases kind <;> exact ⟨_, _, rfl⟩
  have hverbatim := isVerbatim_kind kind
  rw [hname] at hverbatim
  have hquote : first ≠ '"' := (hverbatim first (by simp)).1
  have hkey : key? maxParts (opening kind behind) = some (["type"], '=' :: ' ' :: '"' ::
      first :: (others ++ '"' :: ',' :: ' ' :: (pathOpening ++ behind))) := by
    rw [opening, hname]
    exact key?_type _
  rw [keyValue_string hkey hquote, ← List.cons_append, basicString_append hverbatim, ← hname,
    Option.map_some]
  simp only [String.ofList_toList]

/-- A table is read up to the text of its path first. -/
theorem value?_opening (kind : ContentKind) (depth : ℕ) (behind : List Char) :
    value? (depth + 1) ('\x7b' :: ' ' :: opening kind behind) =
      (inlineFields (value? depth) ((opening kind behind).length + 1)
        [("type", .value (.str kind.name))] (' ' :: (pathOpening ++ behind))).map
          fun (fields, rest) => (.obj (Fields.fieldsJson fields), rest) := by
  have hblank : dropVoid false (' ' :: opening kind behind) = some (opening kind behind) := by
    rfl
  have htable : value? (depth + 1) ('\x7b' :: ' ' :: opening kind behind) =
      (inlineFields (value? depth) ((opening kind behind).length + 1 + 1) []
        (' ' :: opening kind behind)).map
          fun (fields, rest) => (.obj (Fields.fieldsJson fields), rest) := by
    rfl
  have hfirst : (opening kind behind).head? ≠ some '\x7d' := by
    simp [opening, typeOpening]
  rw [htable, inlineFields_succ hblank hfirst, keyValue_opening]
  rfl

/-- Then the text is read, and perhaps more. -/
theorem inlineFields_path (fields : Fields) (hpath : fields.lookup "path" = none)
    (depth count : ℕ) (behind : List Char) :
    inlineFields (value? depth) (count + 1) fields
        (' ' :: (pathOpening ++ '/' :: behind)) =
      (basicString ('/' :: behind)).bind fun (text, rest) =>
        let fields := fields ++ [("path", .value (.str (String.ofList text)))]
        (dropVoid false rest).bind fun
          | '\x7d' :: rest => some (fields, rest)
          | ',' :: rest => inlineFields (value? depth) count fields rest
          | _ => none := by
  have hblank : dropVoid false (' ' :: (pathOpening ++ '/' :: behind)) =
      some (pathOpening ++ '/' :: behind) := by
    rfl
  rw [inlineFields_succ hblank (by simp [pathOpening]),
    keyValue_string (key?_path ('/' :: behind)) (by decide)]
  cases basicString ('/' :: behind) with
  | none => rfl
  | some read =>
      obtain ⟨text, rest⟩ := read
      have hdefine : Fields.define (.str (String.ofList text)) ["path"] fields =
          some (fields ++ [("path", .value (.str (String.ofList text)))]) := by
        rw [Fields.define, hpath]
      change (Fields.define (.str (String.ofList text)) ["path"] fields).bind _ = _
      rw [hdefine]
      rfl

variable {d}

theorem toList_listingTable_append (tail : List Char) : (listingTable d).toList ++ tail =
    '\x7b' :: ' ' :: opening d.kind (d.path.text.toList ++ '"' :: ' ' :: '\x7d' :: tail) := by
  rw [toList_listingTable]
  simp [opening, typeOpening]

/-- A table whose path can be written as it is is read as its definition. -/
theorem value?_listingTable (habs : d.path.isAbsolute) (hverbatim : d.IsVerbatim) (depth : ℕ)
    (tail : List Char) :
    value? (depth + 1) ((listingTable d).toList ++ tail) = some (d.bare.encode, tail) := by
  obtain ⟨path, hpath⟩ := Path.text_of_isAbsolute habs
  have hread : basicString ('/' :: (path ++ '"' :: ' ' :: '\x7d' :: tail)) =
      some ('/' :: path, ' ' :: '\x7d' :: tail) := by
    rw [ModuleDefinition.IsVerbatim, hpath] at hverbatim
    exact basicString_append hverbatim.2 _
  have hblank : dropVoid false (' ' :: '\x7d' :: tail) = some ('\x7d' :: tail) := by
    rfl
  have htext : String.ofList ('/' :: path) = d.path.text := by
    rw [← hpath, String.ofList_toList]
  rw [toList_listingTable_append, hpath, value?_opening, List.cons_append,
    inlineFields_path _ rfl, hread, Option.bind_some]
  simp only [hblank, Option.bind_some, Option.map_some, htext]
  rfl

/-- If a table is read as a definition with its path, then the path is text, and none of its
characters has been taken for something else. -/
theorem isVerbatim_of_value? (habs : d.path.isAbsolute) {more rest : List Char} {item : Json}
    {read : ModuleDefinition}
    (hitem : value? (depth + 1) ((listingTable d).toList ++ ',' :: '\n' :: more) =
      some (item, rest))
    (hdecode : ModuleDefinition.decode item = .ok read) (hpath : read.path = d.path) :
    d.IsVerbatim := by
  obtain ⟨path, htext⟩ := Path.text_of_isAbsolute habs
  rw [toList_listingTable_append, htext, value?_opening, List.cons_append,
    inlineFields_path _ rfl] at hitem
  obtain ⟨⟨fields, rest'⟩, hfields, heq⟩ := Option.map_eq_some_iff.mp hitem
  obtain ⟨rfl, rfl⟩ := Prod.mk.inj heq
  obtain ⟨⟨text, behind⟩, hstring, hfields⟩ := Option.bind_eq_some_iff.mp hfields
  -- more fields may follow, but none of them changes the path
  have hown : Fields.Has ([("type", .value (.str d.kind.name))] ++
      [("path", .value (.str (String.ofList text)))]) "path" (.str (String.ofList text)) := rfl
  have hhas : fields.Has "path" (.str (String.ofList text)) := by
    obtain ⟨behind', -, hfields⟩ := Option.bind_eq_some_iff.mp hfields
    split at hfields
    · cases hfields
      exact hown
    · exact has_of_inlineFields hown hfields
    · cases hfields
  have hread := ModuleDefinition.path_of_decode (Fields.sorted_fieldsJson fields).nodup
    hhas.lookup_fieldsJson hdecode
  rw [hread] at hpath
  have hsame : text = d.path.text.toList := by
    rw [← hpath, Path.text_ofText, String.toList_ofList]
  rw [hsame, ← List.cons_append, ← htext] at hstring
  have hline : '"' ∉ [' ', '\x7d', ','] := by decide
  exact ⟨hpath ▸ Path.isText_ofText _, isVerbatim_of_basicString hline hstring⟩

/-! ## Lines in an array -/

/-- The lines of a listing behind the bracket of an array, each with the break in front. -/
def arrayLines : List ModuleDefinition → List Char
  | [] => []
  | d :: registered =>
    '\n' :: ' ' :: ' ' :: ((listingTable d).toList ++ ',' :: arrayLines registered)

variable {registered : List ModuleDefinition}

/-- Behind every line there is another one, or the one that closes the array. -/
theorem exists_arrayLines (registered : List ModuleDefinition) (tail : List Char) :
    ∃ more, arrayLines registered ++ '\n' :: tail = '\n' :: more := by
  cases registered with
  | nil => exact ⟨_, rfl⟩
  | cons d registered => exact ⟨_, rfl⟩

theorem arrayLines_cons_append (d : ModuleDefinition) (registered : List ModuleDefinition)
    (tail : List Char) : arrayLines (d :: registered) ++ tail = '\n' :: ' ' :: ' ' ::
      ((listingTable d).toList ++ ',' :: (arrayLines registered ++ tail)) := by
  simp [arrayLines]

theorem dropVoid_comma (rest : List Char) : dropVoid false (',' :: rest) = some (',' :: rest) := rfl

/-- The first line of several. -/
theorem arrayItems_cons (d : ModuleDefinition) (depth count : ℕ) (behind : List Char) :
    arrayItems (value? (depth + 1)) (count + 1)
        ('\n' :: ' ' :: ' ' :: ((listingTable d).toList ++ ',' :: behind)) =
      (value? (depth + 1) ((listingTable d).toList ++ ',' :: behind)).bind fun (item, rest) =>
        (dropVoid false rest).bind fun
          | ']' :: rest => some ([item], rest)
          | ',' :: rest => (arrayItems (value? (depth + 1)) count rest).bind fun (items, rest) =>
              some (item :: items, rest)
          | _ => none := by
  rw [toList_listingTable_append]
  refine arrayItems_succ ?_ (by simp)
  rfl

theorem arrayItems_arrayLines {count : ℕ} (hcount : registered.length < count)
    (habs : ∀ d ∈ registered, d.path.isAbsolute) (hverbatim : ∀ d ∈ registered, d.IsVerbatim)
    (depth : ℕ) (tail : List Char) :
    arrayItems (value? (depth + 1)) count (arrayLines registered ++ '\n' :: ']' :: tail) =
      some ((registered.map ModuleDefinition.bare).map ModuleDefinition.encode, tail) := by
  induction registered generalizing count with
  | nil =>
      obtain ⟨count, rfl⟩ := Nat.exists_eq_add_of_lt hcount
      rfl
  | cons d registered ih =>
      rw [List.forall_mem_cons] at habs hverbatim
      obtain ⟨count, rfl⟩ : ∃ fewer, count = fewer + 1 := ⟨count - 1, by omega⟩
      have hlater := ih (by simpa using hcount) habs.2 hverbatim.2
      rw [arrayLines_cons_append, arrayItems_cons, value?_listingTable habs.1 hverbatim.1,
        Option.bind_some]
      simp only [dropVoid_comma, Option.bind_some, hlater, List.map_cons]

/-- What the first line of several is read as comes first, and behind a comma the rest is
read from there on. -/
theorem exists_of_arrayItems_cons {count : ℕ} {behind rest : List Char} {items : List Json}
    (hitems : arrayItems (value? (depth + 1)) (count + 1)
      ('\n' :: ' ' :: ' ' :: ((listingTable d).toList ++ ',' :: behind)) = some (items, rest)) :
    ∃ item others behind', value? (depth + 1) ((listingTable d).toList ++ ',' :: behind) =
        some (item, behind') ∧ items = item :: others ∧
      ∀ next, behind' = ',' :: next →
        arrayItems (value? (depth + 1)) count next = some (others, rest) := by
  rw [arrayItems_cons] at hitems
  obtain ⟨⟨item, behind'⟩, hitem, hitems⟩ := Option.bind_eq_some_iff.mp hitems
  obtain ⟨text, htext, hitems⟩ := Option.bind_eq_some_iff.mp hitems
  refine ⟨item, items.tail, behind', hitem, ?_, ?_⟩
  · split at hitems
    · cases hitems
      rfl
    · obtain ⟨⟨others, rest'⟩, -, hitems⟩ := Option.bind_eq_some_iff.mp hitems
      cases hitems
      rfl
    · cases hitems
  · rintro next rfl
    obtain rfl := Option.some.inj ((dropVoid_comma next).symm.trans htext)
    obtain ⟨⟨others, rest'⟩, hothers, hitems⟩ := Option.bind_eq_some_iff.mp hitems
    cases hitems
    exact hothers

theorem isVerbatim_of_arrayItems {count : ℕ} {tail rest : List Char} {items : List Json}
    (habs : ∀ d ∈ registered, d.path.isAbsolute)
    (hitems : arrayItems (value? (depth + 1)) count (arrayLines registered ++ '\n' :: tail) =
      some (items, rest))
    (hread : items.mapM ModuleDefinition.decode = .ok (registered.map ModuleDefinition.bare)) :
    ∀ d ∈ registered, d.IsVerbatim := by
  induction registered generalizing count items rest with
  | nil => simp
  | cons d registered ih =>
      rw [List.forall_mem_cons] at habs ⊢
      cases count with
      | zero => cases hitems
      | succ count =>
          rw [arrayLines_cons_append] at hitems
          obtain ⟨item, others, behind, hitem, rfl, hothers⟩ := exists_of_arrayItems_cons hitems
          rw [List.mapM_cons, bind_eq_ok_iff] at hread
          obtain ⟨first, hfirst, hread⟩ := hread
          obtain ⟨later, hlater, hread⟩ := bind_eq_ok_iff.mp hread
          obtain ⟨rfl, rfl⟩ := List.cons.inj (Except.ok.inj hread)
          have hd : d.IsVerbatim := by
            obtain ⟨more, hmore⟩ := exists_arrayLines registered tail
            rw [hmore] at hitem
            exact isVerbatim_of_value? habs.1 hitem hfirst rfl
          -- the first table ends where it should, so the next line is read from its start
          rw [value?_listingTable habs.1 hd] at hitem
          obtain ⟨rfl, rfl⟩ := Prod.mk.inj (Option.some.inj hitem)
          exact ⟨hd, ih habs.2 (hothers _ rfl) hlater⟩

/-! ## Pasting a listing -/

/-- A listing in the place where a message shows it, without the dots behind it. -/
def pasted (registered : List ModuleDefinition) : String :=
  "modules = [\n" ++ listing registered ++ "\n]"

theorem toList_listing (hne : registered ≠ []) :
    '\n' :: (listing registered).toList = arrayLines registered := by
  induction registered with
  | nil => exact absurd rfl hne
  | cons d registered ih =>
      have hline : (listingLine d).toList = ' ' :: ' ' :: ((listingTable d).toList ++ [',']) := by
        rw [listingLine_eq]
        simp
      cases registered with
      | nil =>
          rw [listing, List.map_cons, List.map_nil, String.intercalate_singleton, hline]
          rfl
      | cons next others =>
          have hlater := ih (by simp)
          rw [arrayLines, ← hlater, listing, List.map_cons,
            String.intercalate_cons_of_ne_nil (by simp), String.toList_append,
            String.toList_append, hline]
          simp [listing]

/-- What stands in front of the lines. -/
def arrayOpening : List Char :=
  ['m', 'o', 'd', 'u', 'l', 'e', 's', ' ', '=', ' ', '[']

theorem toList_pasted (hne : registered ≠ []) :
    (pasted registered).toList = arrayOpening ++ (arrayLines registered ++ ['\n', ']']) := by
  rw [← toList_listing hne]
  simp [pasted, arrayOpening]

theorem keyValue_array (text : List Char) :
    keyValue (some ∘ dropBlanks) (value? maxDepth) (arrayOpening ++ text) =
      (arrayItems (value? 79) (text.length + 1) text).map fun (items, rest) =>
        ((["modules"], .arr items), rest) := by
  have hkey : key? maxParts (arrayOpening ++ text) =
      some (["modules"], '=' :: ' ' :: '[' :: text) := by
    rfl
  have hequals : (some ∘ dropBlanks) ('=' :: ' ' :: '[' :: text) =
    some ('=' :: ' ' :: '[' :: text) := rfl
  have hskip : (some ∘ dropBlanks) (' ' :: '[' :: text) = some ('[' :: text) := rfl
  have hvalue : value? maxDepth ('[' :: text) =
      (arrayItems (value? 79) (text.length + 1) text).map fun (items, rest) =>
        (.arr items, rest) := by
    rfl
  simp only [keyValue, hkey, hequals, hskip, hvalue, Option.bind_eq_bind, Option.bind_some]
  cases arrayItems (value? 79) (text.length + 1) text <;> rfl

/-- The first line of a document that starts with an array of modules. -/
theorem readLines_array (lines : ℕ) (text : List Char) :
    readLines (lines + 1) ⟨[], []⟩ (arrayOpening ++ text) =
      (arrayItems (value? 79) (text.length + 1) text).bind fun (items, rest) =>
        (endLine false rest).bind fun rest =>
          readLines lines ⟨[("modules", .value (.arr items))], []⟩ rest := by
  have hstart : dropVoid false (arrayOpening ++ text) = some (arrayOpening ++ text) := rfl
  have hline : readLine ⟨[], []⟩ (arrayOpening ++ text) =
      (keyValue (some ∘ dropBlanks) (value? maxDepth) (arrayOpening ++ text)).bind
        fun read => (Fields.define read.1.2 read.1.1 []).bind fun fields =>
          (endLine false read.2).bind fun rest => some (⟨fields, []⟩, rest) := by
    rfl
  rw [readLines]
  simp only [hstart, Option.bind_eq_bind, Option.bind_some]
  split
  · next hempty => cases hempty
  · rw [hline, keyValue_array]
    cases arrayItems (value? 79) (text.length + 1) text with
    | none => rfl
    | some read =>
        obtain ⟨items, rest⟩ := read
        have hdefine : Fields.define (.arr items) ["modules"] [] =
          some [("modules", .value (.arr items))] := rfl
        simp only [Option.map_some, Option.bind_some, hdefine]
        cases endLine false rest <;> rfl

theorem parse?_pasted (hne : registered ≠ []) : ∃ lines, Toml.parse? (pasted registered) =
    ((arrayItems (value? 79) ((arrayLines registered ++ ['\n', ']']).length + 1)
      (arrayLines registered ++ ['\n', ']'])).bind fun (items, rest) =>
        (endLine false rest).bind fun rest =>
          readLines (lines + 1) ⟨[("modules", .value (.arr items))], []⟩ rest).map fun fields =>
            .obj (Fields.fieldsJson fields) := by
  refine ⟨(['o', 'd', 'u', 'l', 'e', 's', ' ', '=', ' ', '['] ++
    (arrayLines registered ++ ['\n', ']'])).length, ?_⟩
  rw [Toml.parse?, toList_pasted hne, ← readLines_array]
  rfl

theorem length_le_length_arrayLines (registered : List ModuleDefinition) :
    registered.length ≤ (arrayLines registered).length := by
  induction registered with
  | nil => exact Nat.le_refl _
  | cons d registered ih =>
      simp only [arrayLines, List.length_cons, List.length_append]
      omega

/-- The configuration that a text spells as a document. -/
theorem readDocument_eq_ok_iff {text : String} {config : Config} :
    (Config.documentValue text >>= Config.ofJson) = .ok config ↔
      ∃ value, Toml.parse? text = some value ∧ Config.decode value = .ok config := by
  rw [bind_eq_ok_iff]
  simp only [Config.documentValue, Config.ofJson, mapError_eq_ok_iff]
  cases Toml.parse? text <;> simp

/-- A listing that is pasted is read back exactly if all paths are text without a character
that stands for something else between double quotes: a quote, a backslash or a control
character. -/
theorem read_pasted_iff (habs : ∀ d ∈ registered, d.path.isAbsolute) :
    (Config.documentValue (pasted registered) >>= Config.ofJson) =
        .ok { Config.empty with modules := registered.map ModuleDefinition.bare } ↔
      ∀ d ∈ registered, d.IsVerbatim := by
  rcases eq_or_ne registered [] with rfl | hne
  · have hnone : (Config.documentValue (pasted []) >>= Config.ofJson) = .ok Config.empty := by
      decide +kernel
    exact iff_of_true hnone (by simp)
  obtain ⟨lines, hparse⟩ := parse?_pasted hne
  rw [readDocument_eq_ok_iff, hparse]
  constructor
  · rintro ⟨value, hvalue, hconfig⟩
    obtain ⟨fields, hfields, rfl⟩ := Option.map_eq_some_iff.mp hvalue
    obtain ⟨⟨items, rest⟩, hitems, hfields⟩ := Option.bind_eq_some_iff.mp hfields
    obtain ⟨rest', -, hfields⟩ := Option.bind_eq_some_iff.mp hfields
    have hstart : Fields.Has [("modules", .value (.arr items))] "modules" (.arr items) := rfl
    -- whatever the paths have added to the document, the modules are those of the array
    have hhas : fields.Has "modules" (.arr items) := has_of_readLines hstart hfields
    rw [Config.decode_eq_ok_iff (Fields.sorted_fieldsJson fields).nodup] at hconfig
    have hmodules := hconfig.modules
    rw [hhas.lookup_fieldsJson, Decoder.reads_some] at hmodules
    exact isVerbatim_of_arrayItems habs hitems hmodules
  · intro hverbatim
    have hlength : registered.length < (arrayLines registered ++ ['\n', ']']).length + 1 := by
      have hle := length_le_length_arrayLines registered
      rw [List.length_append]
      omega
    have htext : ∀ d ∈ registered.map ModuleDefinition.bare, d.path.isText :=
      List.forall_mem_map.mpr fun d hd => (hverbatim d hd).1
    have hmodules := Decoder.list_map fun d hd => ModuleDefinition.decode_encode (htext d hd)
    rw [arrayItems_arrayLines hlength habs hverbatim]
    refine ⟨_, rfl, ?_⟩
    rw [Config.decode_eq_ok_iff (Fields.sorted_fieldsJson _).nodup]
    exact ⟨rfl, rfl, rfl, rfl, rfl, hmodules⟩

/-- The message about a specifier ends with a listing and dots.  Every line whose path is text
without a quote, backslash or control character is one inline table and a comma, and that
table is read as the kind and the path.  The lines of a listing are read back as its kinds and
paths, in their order, exactly if they are all of this sort. -/
theorem listing_read_back_iff (name : String) (location : Option Position)
    (registered : List ModuleDefinition) (habs : ∀ d ∈ registered, d.path.isAbsolute) :
    (∃ front, (dynamicSpecifier name location registered).message =
        front ++ "modules = [\n" ++ String.intercalate "\n" (registered.map listingLine) ++
          "\n  ...\n]") ∧
      (∀ d ∈ registered, d.IsVerbatim →
        listingLine d = "  " ++ listingTable d ++ "," ∧
          Toml.value? Toml.maxDepth (listingTable d).toList = some (d.bare.encode, [])) ∧
      ((Config.documentValue (pasted registered) >>= Config.ofJson) =
          .ok { Config.empty with modules := registered.map ModuleDefinition.bare } ↔
        ∀ d ∈ registered, d.IsVerbatim) := by
  refine ⟨⟨_, rfl⟩, fun d hd hverbatim => ⟨listingLine_eq d, ?_⟩, read_pasted_iff habs⟩
  have htable := value?_listingTable (habs d hd) hverbatim 79 []
  rwa [List.append_nil] at htable

/-- Two files with plain names, one of them with a blank. -/
theorem listing_read_back_iff_plain :
    (Config.documentValue (pasted [⟨.esModule, "/w/index.mjs", none⟩,
        ⟨.data, "/w/a b.bin", some (.bytes [0])⟩]) >>= Config.ofJson) =
      .ok { Config.empty with
        modules := [⟨.esModule, "/w/index.mjs", none⟩, ⟨.data, "/w/a b.bin", none⟩] } := by
  exact (listing_read_back_iff "index.mjs" none _ (by decide +kernel)).2.2.mpr (by decide +kernel)

/-- A quote in a name ends the text too early, and a backslash makes another path of it. -/
theorem listing_misread :
    (Config.documentValue (pasted [⟨.esModule, "/w/a\"b.mjs", none⟩]) >>= Config.ofJson) =
        .error (.malformed "toml" "Invalid TOML syntax: ") ∧
      (Config.documentValue (pasted [⟨.text, "/w/a\\bc", none⟩]) >>= Config.ofJson) =
        .ok { Config.empty with modules := [⟨.text, "/w/a\x08c", none⟩] } := by
  decide +kernel

end ModuleError

end ModuleDiscovery
