import ModuleDiscovery.Proofs.Json.Fields
import ModuleDiscovery.Toml.Document

/-!
# What is read stays

A key that has been given a value keeps it to the end of its table, whatever stands behind
it: later keys and headers put something in the place of tables only (`Fields.Has.define`,
`Fields.Has.openTable`, `Fields.Has.openElement`).
-/

namespace ModuleDiscovery.Toml

open Json

namespace Fields

variable {fields fields' : Fields} {key : String} {value : Json}

/-- Whether a key has a value that is finished. -/
def Has (fields : Fields) (key : String) (value : Json) : Prop :=
  fields.lookup key = some (.value value)

theorem Has.append (hhas : fields.Has key value) (more : Fields) :
    Has (fields ++ more) key value := by
  rw [Has, List.lookup_append, hhas, Option.some_or]

theorem lookup_replace {other : String} (hne : key ≠ other) (node : Node) (fields : Fields) :
    (replace other node fields).lookup key = fields.lookup key := by
  induction fields with
  | nil => rfl
  | cons field fields ih =>
      obtain ⟨k, n⟩ := field
      rw [replace]
      split_ifs with heq
      · rw [lookup_cons, lookup_cons, if_neg hne, if_neg (heq ▸ hne)]
      · rw [lookup_cons, lookup_cons, ih]

/-- Where something else than a value stands it may be replaced. -/
theorem Has.replace (hhas : fields.Has key value) {other : String} {node : Node}
    (hother : fields.lookup other = some node) (hnode : ∀ v, node ≠ .value v) (new : Node) :
    Has (replace other new fields) key value := by
  have hne : key ≠ other := by
    rintro rfl
    exact hnode value (Option.some.inj (hother.symm.trans hhas))
  rw [Has, lookup_replace hne, hhas]

/-- So may a table with what became of it. -/
theorem Has.replace_of_map (hhas : fields.Has key value) {other : String} {old : Node}
    {inner : Option Fields} {new : Fields → Node} (hother : fields.lookup other = some old)
    (hold : ∀ v, old ≠ .value v)
    (hmap : (inner.map fun inner => Fields.replace other (new inner) fields) = some fields') :
    fields'.Has key value := by
  obtain ⟨inner, -, rfl⟩ := Option.map_eq_some_iff.mp hmap
  exact hhas.replace hother hold (new inner)

theorem Has.define (hhas : fields.Has key value) {v : Json} {path : List String}
    (hdefine : define v path fields = some fields') : fields'.Has key value := by
  unfold Fields.define at hdefine
  split at hdefine
  · cases hdefine
  · split at hdefine
    · obtain rfl := Option.some.inj hdefine
      exact hhas.append _
    · cases hdefine
  · split at hdefine
    · obtain ⟨inner, -, rfl⟩ := Option.map_eq_some_iff.mp hdefine
      exact hhas.append _
    · next hother => exact hhas.replace_of_map hother (by simp) hdefine
    · next hother =>
        split_ifs at hdefine
        exact hhas.replace_of_map hother (by simp) hdefine
    · next hother =>
        split_ifs at hdefine
        exact hhas.replace_of_map hother (by simp) hdefine
    · cases hdefine

theorem Has.into (hhas : fields.Has key value) {next : Fields → Option Fields} {other : String}
    (hinto : openTable.into next other fields = some fields') : fields'.Has key value := by
  unfold openTable.into at hinto
  split at hinto
  · obtain ⟨inner, -, rfl⟩ := Option.map_eq_some_iff.mp hinto
    exact hhas.append _
  · next hother => exact hhas.replace_of_map hother (by simp) hinto
  · next hother => exact hhas.replace_of_map hother (by simp) hinto
  · cases hinto

theorem Has.openTable (hhas : fields.Has key value) {path : List String}
    (hopen : openTable path fields = some fields') : fields'.Has key value := by
  unfold Fields.openTable at hopen
  split at hopen
  · cases hopen
  · split at hopen
    · obtain rfl := Option.some.inj hopen
      exact hhas.append _
    · next hother =>
        obtain rfl := Option.some.inj hopen
        exact hhas.replace hother (by simp) _
    · cases hopen
  · exact hhas.into hopen

theorem Has.openElement (hhas : fields.Has key value) {path : List String}
    (hopen : openElement path fields = some fields') : fields'.Has key value := by
  unfold Fields.openElement at hopen
  split at hopen
  · cases hopen
  · split at hopen
    · obtain rfl := Option.some.inj hopen
      exact hhas.append _
    · next hother =>
        obtain rfl := Option.some.inj hopen
        exact hhas.replace hother (by simp) _
    · cases hopen
  · exact hhas.into hopen

/-- In the table that is open, or in another one. -/
theorem Has.within (hhas : fields.Has key value) {v : Json} {path header : List String}
    (hwithin : within (Fields.define v path) header fields = some fields') :
    fields'.Has key value := by
  cases header with
  | nil => exact hhas.define hwithin
  | cons other header =>
      unfold Fields.within at hwithin
      split at hwithin
      · next hother => exact hhas.replace_of_map hother (by simp) hwithin
      · next hother => exact hhas.replace_of_map hother (by simp) hwithin
      · cases hwithin

/-! ## Fields as JSON -/

theorem sorted_fieldsJson (fields : Fields) : Sorted (fieldsJson fields) := by
  induction fields with
  | nil => exact List.Pairwise.nil
  | cons field fields ih =>
      rw [fieldsJson]
      exact ih.insertField _ _

theorem Has.lookup_fieldsJson (hhas : fields.Has key value) :
    (fieldsJson fields).lookup key = some value := by
  induction fields with
  | nil => cases hhas
  | cons field fields ih =>
      obtain ⟨k, node⟩ := field
      rw [Has, lookup_cons] at hhas
      rw [fieldsJson, lookup_insertField]
      split_ifs with hkey
      · rw [if_pos hkey] at hhas
        obtain rfl := Option.some.inj hhas
        rfl
      · rw [if_neg hkey] at hhas
        exact ih hhas

end Fields

/-! ## Tables -/

variable {key : String} {value : Json}

theorem has_of_inlineFields {reader : List Char → Option (Json × List Char)} {count : ℕ}
    {fields fields' : Fields} {text rest : List Char} (hhas : fields.Has key value)
    (hread : inlineFields reader count fields text = some (fields', rest)) :
    fields'.Has key value := by
  induction count generalizing fields text with
  | zero => cases hread
  | succ count ih =>
      rw [inlineFields] at hread
      obtain ⟨text', htext', hread⟩ := Option.bind_eq_some_iff.mp hread
      split at hread
      · cases hread
        exact hhas
      · obtain ⟨⟨⟨path, v⟩, rest'⟩, -, hread⟩ := Option.bind_eq_some_iff.mp hread
        obtain ⟨more, hmore, hread⟩ := Option.bind_eq_some_iff.mp hread
        have hkept := hhas.define hmore
        obtain ⟨behind, -, hread⟩ := Option.bind_eq_some_iff.mp hread
        split at hread
        · cases hread
          exact hkept
        · exact ih hkept hread
        · cases hread

theorem has_of_readLine {r r' : Reading} {text rest : List Char} (hhas : r.fields.Has key value)
    (hread : readLine r text = some (r', rest)) : r'.fields.Has key value := by
  unfold readLine at hread
  split at hread
  · obtain ⟨⟨header, behind⟩, -, hread⟩ := Option.bind_eq_some_iff.mp hread
    obtain ⟨fields, hfields, hread⟩ := Option.bind_eq_some_iff.mp hread
    obtain ⟨behind', -, hread⟩ := Option.bind_eq_some_iff.mp hread
    cases hread
    exact hhas.openElement hfields
  · obtain ⟨⟨header, behind⟩, -, hread⟩ := Option.bind_eq_some_iff.mp hread
    obtain ⟨fields, hfields, hread⟩ := Option.bind_eq_some_iff.mp hread
    obtain ⟨behind', -, hread⟩ := Option.bind_eq_some_iff.mp hread
    cases hread
    exact hhas.openTable hfields
  · obtain ⟨⟨⟨path, v⟩, behind⟩, -, hread⟩ := Option.bind_eq_some_iff.mp hread
    obtain ⟨fields, hfields, hread⟩ := Option.bind_eq_some_iff.mp hread
    obtain ⟨behind', -, hread⟩ := Option.bind_eq_some_iff.mp hread
    cases hread
    exact hhas.within hfields

theorem has_of_readLines {lines : ℕ} {r : Reading} {text : List Char} {fields : Fields}
    (hhas : r.fields.Has key value) (hread : readLines lines r text = some fields) :
    fields.Has key value := by
  induction lines generalizing r text with
  | zero => cases hread
  | succ lines ih =>
      rw [readLines] at hread
      obtain ⟨text', -, hread⟩ := Option.bind_eq_some_iff.mp hread
      split at hread
      · cases hread
        exact hhas
      · obtain ⟨⟨r', rest⟩, hline, hread⟩ := Option.bind_eq_some_iff.mp hread
        exact ih (has_of_readLine hhas hline) hread

/-! ## Strings, fields and items -/

variable {c : Char} {depth count : ℕ} {text text' : List Char}

/-- Two quotes in front could be those of an empty string or start a longer one. -/
theorem string?_quote_cons (hc : c ≠ '"') (text : List Char) :
    string? ('"' :: c :: text) =
      (basicString (c :: text)).map fun (s, rest) => (String.ofList s, rest) := by
  rw [string?]
  · rfl
  · rintro rest ⟨⟩
    exact hc rfl

theorem value?_quote_cons (hc : c ≠ '"') (depth : ℕ) (text : List Char) :
    value? depth ('"' :: c :: text) =
      (basicString (c :: text)).map fun (s, rest) => (.str (String.ofList s), rest) := by
  have hplain : value? depth ('"' :: c :: text) = plainValue? ('"' :: c :: text) := by
    cases depth <;> rfl
  rw [hplain, plainValue?, string?_quote_cons hc, Option.map_map]
  rfl

/-- A key with a string behind an equals sign and a blank. -/
theorem keyValue_string {behind : List Char} {path : List String}
    (hkey : key? maxParts text = some (path, '=' :: ' ' :: '"' :: c :: behind)) (hc : c ≠ '"')
    (depth : ℕ) :
    keyValue (dropVoid false) (value? depth) text =
      (basicString (c :: behind)).map fun (s, rest) => ((path, .str (String.ofList s)), rest) := by
  have hequals : dropVoid false ('=' :: ' ' :: '"' :: c :: behind) =
    some ('=' :: ' ' :: '"' :: c :: behind) := rfl
  have hvalue : dropVoid false (' ' :: '"' :: c :: behind) = some ('"' :: c :: behind) := rfl
  simp only [keyValue, hkey, hequals, hvalue, value?_quote_cons hc, Option.bind_eq_bind,
    Option.bind_some]
  cases basicString (c :: behind) <;> rfl

/-- One more field of an inline table. -/
theorem inlineFields_succ {reader : List Char → Option (Json × List Char)} {fields : Fields}
    (htext : dropVoid false text = some text') (hopen : text'.head? ≠ some '\x7d') :
    inlineFields reader (count + 1) fields text =
      (keyValue (dropVoid false) reader text').bind fun ((path, v), rest) =>
        (Fields.define v path fields).bind fun fields =>
          (dropVoid false rest).bind fun
            | '\x7d' :: rest => some (fields, rest)
            | ',' :: rest => inlineFields reader count fields rest
            | _ => none := by
  rw [inlineFields]
  simp only [htext, Option.bind_eq_bind, Option.bind_some]
  split
  · simp at hopen
  · rfl

/-- One more item of an array. -/
theorem arrayItems_succ {reader : List Char → Option (Json × List Char)}
    (htext : dropVoid false text = some text') (hopen : text'.head? ≠ some ']') :
    arrayItems reader (count + 1) text =
      (reader text').bind fun (item, rest) =>
        (dropVoid false rest).bind fun
          | ']' :: rest => some ([item], rest)
          | ',' :: rest => (arrayItems reader count rest).bind fun (items, rest) =>
              some (item :: items, rest)
          | _ => none := by
  rw [arrayItems]
  simp only [htext, Option.bind_eq_bind, Option.bind_some]
  split
  · simp at hopen
  · rfl

end ModuleDiscovery.Toml
