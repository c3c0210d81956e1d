import ModuleDiscovery.Path.Basic
import ModuleDiscovery.ScriptId
import ModuleDiscovery.Text.Hex
import ModuleDiscovery.Text.Occurs

/-!
# Source URLs

JavaScript sources carry a last line `//# sourceURL=…` that tells a debugger
where they came from.  A file is located by a `file://` URL with its path
percent-encoded segment by segment; a segment of one byte and a colon, the way
drives are written, stays readable.  An inline script is located by its
identifier.
-/

namespace ModuleDiscovery

namespace SourceUrl

/-! ## Percent-encoding -/

/-- The characters that stand for themselves: ASCII letters and digits and `-_.~`. -/
def isUnreserved (c : Char) : Bool :=
  c.isAlphanum || c = '-' || c = '_' || c = '.' || c = '~'

/-- One byte as a percent sign and two digits. -/
def escapeByte (byte : UInt8) : List Char :=
  ['%', Hex.upperDigit (byte.toNat / 16), Hex.upperDigit (byte.toNat % 16)]

/-- One character, by itself or byte by byte. -/
def encodeChar (c : Char) : List Char :=
  if isUnreserved c then [c] else (String.utf8EncodeChar c).flatMap escapeByte

/-- Whether a segment is written like a drive: two bytes, the second a colon. -/
def isDrive : List Char → Bool
  | [c, ':'] => c.utf8Size = 1
  | _ => false

/-- One path segment in a URL. -/
def encodeSegment (segment : List Char) : List Char :=
  if isDrive segment then segment else segment.flatMap encodeChar

/-! ## Locators -/

/-- The path part of a URL. -/
def encodePath (path : Path) : List Char :=
  ['/'].intercalate ((path.slashed.toList.splitOn '/').map encodeSegment)

/-- Where the module at `path` comes from. -/
def locator (path : Path) : String :=
  if path.isScriptId then path.text
  else
    let encoded := encodePath path
    if encoded.head? = some '/' then "file://" ++ String.ofList encoded
    else "file:///" ++ String.ofList encoded

/-! ## Stamps -/

/-- The text before a locator in a stamp. -/
def marker : String := "//# sourceURL="

/-- Whether a source holds the marker anywhere. -/
def isStamped (code : String) : Bool :=
  occurs marker.toList code.toList

/-- The source with a stamp on a line of its own, unless it holds a marker. -/
def stamp (code locator : String) : String :=
  if isStamped code then code else code ++ "\n" ++ marker ++ locator ++ "\n"

end SourceUrl

end ModuleDiscovery
