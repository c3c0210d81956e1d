import ModuleDiscovery.Proofs.Collect
import ModuleDiscovery.Proofs.SourceUrl.Marker
import ModuleDiscovery.Proofs.Walk.Origin
import ModuleDiscovery.Script.Source

/-!
# Which sources are stamped

A source that ends in a stamp should be left alone, and any other should be stamped, also if
its code talks about stamps.  But the marker is looked for in the whole source, so a string or a
comment that holds it keeps the stamp away, wherever it is (`Stamping`).  Both ways to a
JavaScript module go through that: the walk from an entrypoint, and the definitions that are
listed by hand.

## Main results

* `stamping_of_javaScript`: what is recorded of a source, by a walker and for a definition.
* `stamp_suppressed`: a marker in a string, and no stamp.
-/

namespace ModuleDiscovery

open Walk

namespace SourceUrl

variable {text : String} {line : List Char}

/-- What is recorded of a source at a place. -/
structure Stamping (text locator code : String) : Prop where
  kept : (∃ line ∈ lines text, marker.toList <:+: line) → code = text
  stamped : (∀ line ∈ lines text, ¬ marker.toList <:+: line) →
    code = text ++ "\n" ++ (marker ++ locator) ++ "\n"
  /-- A source that ends in a stamp, whatever it is for, is not changed. -/
  ended : ∀ line, lastLine? text = some line → marker.toList <+: line → code = text
  /-- The code ends in the stamp of its own place exactly if nothing kept that away, or the source
  had it. -/
  ends_iff : '\n' ∉ locator.toList →
    (lastLine? code = some (marker ++ locator).toList ↔
      (∀ line ∈ lines text, ¬ marker.toList <:+: line) ∨
        lastLine? text = some (marker ++ locator).toList)
  again : ∀ other, stamp code other = code

theorem mem_lines_of_lastLine? (hlast : lastLine? text = some line) : line ∈ lines text :=
  (List.mem_filter.mp (List.mem_of_getLast? hlast)).1

theorem isStamped_eq_false_iff :
    isStamped text = false ↔ ∀ line ∈ lines text, ¬ marker.toList <:+: line := by
  rw [← Bool.not_eq_true, isStamped_iff_line]
  push Not
  rfl

theorem stamping_stamp (text locator : String) : Stamping text locator (stamp text locator) where
  kept hline := stamp_of_isStamped (isStamped_iff_line.mpr hline) locator
  stamped hplain := stamp_of_not_isStamped (isStamped_eq_false_iff.mpr hplain) locator
  ended line hlast hmarker := by
    have hline := mem_lines_of_lastLine? hlast
    exact stamp_of_isStamped (isStamped_iff_line.mpr ⟨line, hline, hmarker.isInfix⟩) locator
  ends_iff hlocator := by
    rw [lastLine?_stamp_iff hlocator, isStamped_eq_false_iff]
  again other := stamp_stamp text locator other

end SourceUrl

open SourceUrl

variable {w : Walker} {calls : List (String × Path)} {root p : Path}
  {m : WorkerModule} {code : String} {mode : ParseMode}

theorem javaScript?_ofBytes (root : Path) (kind : ContentKind) (p : Path) (bytes : Bytes) :
    (WorkerModule.ofBytes root kind p bytes).javaScript? =
      kind.parseMode?.map (stamp (Utf8.decodeLossy bytes) (locator p), ·) := by
  cases kind <;> rfl

/-- A source that a walker holds is the code of a call or the text of a file. -/
theorem Walk.Held.stamping (hheld : Held w calls p m) (hcode : m.javaScript? = some (code, mode)) :
    ∃ text, (∃ call ∈ calls, ∃ entry, w.absolutize call.2 = .ok entry ∧
        sourceAt? w call.1 entry p = some ⟨text, p, mode⟩) ∧
      Stamping text (locator p) code := by
  obtain ⟨call, hcall, entry, habs, hrecord⟩ := hheld.record
  rw [javaScript?_of_recordAt? hrecord] at hcode
  obtain ⟨⟨text, path, sourceMode⟩, hsource, hpair⟩ := Option.map_eq_some_iff.mp hcode
  obtain rfl : path = p := path_of_sourceAt? hsource
  cases hpair
  exact ⟨text, ⟨call, hcall, entry, habs, hsource⟩, stamping_stamp text (locator path)⟩

theorem stamping_ofBytes {kind : ContentKind} {bytes : Bytes}
    (hcode : (WorkerModule.ofBytes root kind p bytes).javaScript? = some (code, mode)) :
    Stamping (Utf8.decodeLossy bytes) (locator p) code := by
  rw [javaScript?_ofBytes] at hcode
  obtain ⟨_, -, hpair⟩ := Option.map_eq_some_iff.mp hcode
  cases hpair
  exact stamping_stamp (Utf8.decodeLossy bytes) (locator p)

/-- A JavaScript source that a walker has recorded, over any calls, or that was built from a
definition, is the source it was made of if any line of that holds a marker, and else that
source with the stamp of its own place behind it. -/
theorem stamping_of_javaScript (m : WorkerModule) (code : String) (mode : ParseMode)
    (hcode : m.javaScript? = some (code, mode)) :
    (∀ (w : Walker) (calls : List (String × Path)), m ∈ (w.visitAll calls .fresh).modules →
      ∃ p text, m.name = moduleName w.root p ∧
        (∃ call ∈ calls, ∃ entry, w.absolutize call.2 = .ok entry ∧
          sourceAt? w call.1 entry p = some ⟨text, p, mode⟩) ∧
        Stamping text (locator p) code) ∧
    ∀ (root : Path) (runtime : Runtime) (d : ModuleDefinition) (log log' : List Event),
      (ModuleDefinition.toModule root runtime d).run log = (.ok m, log') →
        ∃ p bytes, m.name = moduleName root p ∧
          (fromWorkingDirectory runtime d.path = .ok p ∧
            (d.atPath p).bytesIn runtime = .ok bytes) ∧
          Stamping (Utf8.decodeLossy bytes) (locator p) code := by
  constructor
  · intro w calls hm
    obtain ⟨p, hheld⟩ := exists_held hm
    obtain ⟨text, hsource, hstamping⟩ := hheld.stamping hcode
    exact ⟨p, text, hheld.name_eq, hsource, hstamping⟩
  · intro root runtime d log log' hrun
    obtain ⟨p, bytes, hpath, hbytes, rfl⟩ := exists_of_run_toModule hrun
    have hname := WorkerModule.name_ofBytes root d.kind p bytes
    exact ⟨p, bytes, hname, ⟨hpath, hbytes⟩, stamping_ofBytes hcode⟩

/-- The file that a walk finds is empty and is stamped; a definition comes with the stamp of
another place, and stays as it is. -/
theorem stamping_of_javaScript_circle :
    let w := Walker.circle
    let d : ModuleDefinition := ⟨.commonJs, "/c.cjs", some (.text "//# sourceURL=webpack:c")⟩
    (∃ p text, moduleName w.root p = "b.js" ∧
        Stamping text (locator p) "\n//# sourceURL=file:///b.js\n") ∧
      ∃ p bytes, fromWorkingDirectory w.runtime d.path = .ok p ∧
        (d.atPath p).bytesIn w.runtime = .ok bytes ∧
          Stamping (Utf8.decodeLossy bytes) (locator p) "//# sourceURL=webpack:c" := by
  intro w d
  let found : WorkerModule := ⟨"b.js", .esModule "\n//# sourceURL=file:///b.js\n"⟩
  let built : WorkerModule := ⟨"c.cjs", .commonJs "//# sourceURL=webpack:c"⟩
  constructor
  · have hm : found ∈ (w.visitAll [("", "a.js")] .fresh).modules := by decide +kernel
    obtain ⟨hwalked, -⟩ := stamping_of_javaScript found _ _ rfl
    obtain ⟨p, text, hname, -, hstamping⟩ := hwalked w _ hm
    exact ⟨p, text, hname.symm, hstamping⟩
  · have hpath : fromWorkingDirectory w.runtime d.path = .ok "/c.cjs" := by decide +kernel
    have hmodule : .ofBytes w.root .commonJs "/c.cjs" (Utf8.encode "//# sourceURL=webpack:c") =
        built := by
      decide +kernel
    have hrun : (ModuleDefinition.toModule w.root w.runtime d).run [] = (.ok built, []) := by
      rw [run_toModule hpath, ← hmodule]
      rfl
    obtain ⟨-, hlisted⟩ := stamping_of_javaScript built _ _ rfl
    obtain ⟨p, bytes, -, ⟨hp, hbytes⟩, hstamping⟩ := hlisted _ _ d _ _ hrun
    exact ⟨p, bytes, hp, hbytes, hstamping⟩

/-- The marker is in a string of the first line, and the last line has none. -/
theorem stamp_suppressed :
    let code := "const s = '//# sourceURL=';\nexport \x7b\x7d"
    let w : Walker := { Walker.circle with root := "/w", parser := Script.parse }
    (w.visitAll [(code, "/w/a.mjs")] .fresh).modules = [⟨"a.mjs", .esModule code⟩] ∧
      lastLine? code = some "export \x7b\x7d".toList ∧
      ¬ marker.toList <:+: "export \x7b\x7d".toList ∧
      lastLine? code ≠ some (marker ++ locator "/w/a.mjs").toList := by
  exact ⟨by decide +kernel, by decide +kernel, by decide +kernel, by decide +kernel⟩

end ModuleDiscovery
