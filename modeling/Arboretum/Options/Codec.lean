import Arboretum.Json.Describe
import Arboretum.Options.Basic

/-!
# The JSON form of option descriptors

Descriptors are written as objects with the keys `configurable`, `defaultValue` and
`editorLanguage`. Reading also accepts the three values in an array, and takes any object as an
object default: the form of a text default is an object too, so a text default does not read back.
-/

namespace Arboretum

namespace OptionsLanguage

/-- A language is read from its name, or from an object with its name as only key over `null`. -/
def ofJson? : Json → Option OptionsLanguage
  | .str name => ofName? name
  | .obj [(name, .null)] => ofName? name
  | _ => none

def describe : OptionsLanguage → String
  | .json => "Json"
  | .toml => "Toml"

end OptionsLanguage

namespace OptionsValue

def toJson : OptionsValue → Json
  | .object fields => .obj fields
  | .source text language => .ofFields [("text", .str text), ("language", .str language.name)]

/-- Every object is read as an object; there is no other form. -/
def ofJson? : Json → Option OptionsValue
  | .obj fields => some (.object fields)
  | _ => none

def describe : OptionsValue → String
  | .object fields => "Object(" ++ Text.braceList (Json.describeFields fields) ++ ")"
  | .source text language =>
    Text.record "Source" [("text", Text.quoted text), ("language", language.describe)]

end OptionsValue

namespace OptionsDescriptor

def toJson (d : OptionsDescriptor) : Json :=
  .ofFields [("configurable", .bool d.configurable), ("defaultValue", d.defaultValue.toJson),
    ("editorLanguage", .str d.editorLanguage.name)]

/-- A descriptor from its three parts. -/
def ofParts? (configurable defaultValue editorLanguage : Json) : Option OptionsDescriptor := do
  let configurable ← configurable.bool?
  let defaultValue ← OptionsValue.ofJson? defaultValue
  let editorLanguage ← OptionsLanguage.ofJson? editorLanguage
  return ⟨configurable, defaultValue, editorLanguage⟩

/-- Reads a descriptor; unknown keys are ignored. -/
def ofJson? : Json → Option OptionsDescriptor
  | .obj fields => do
    ofParts? (← Fields.get? fields "configurable") (← Fields.get? fields "defaultValue")
      (← Fields.get? fields "editorLanguage")
  | .arr [configurable, defaultValue, editorLanguage] =>
    ofParts? configurable defaultValue editorLanguage
  | _ => none

def describe (d : OptionsDescriptor) : String :=
  Text.record "OptionsDescriptor" [("configurable", Text.truth d.configurable),
    ("default_value", d.defaultValue.describe), ("editor_language", d.editorLanguage.describe)]

end OptionsDescriptor

end Arboretum
