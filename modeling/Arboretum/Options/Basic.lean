import Arboretum.Json.Printer
import Arboretum.Json.Reader
import Arboretum.Text.Split
import Arboretum.Toml.Dates
import Arboretum.Toml.Reader

/-!
# Option negotiation

An adapter publishes a descriptor of its options: whether the host may set them, the default, and
the language in which the default is edited. `OptionsDescriptor.resolve` overlays user options on
the default; only top-level keys are merged.
-/

namespace Arboretum

/-- The language of an options text. -/
inductive OptionsLanguage where
  | json
  | toml
  deriving DecidableEq, Repr

/-- Why options are refused. -/
inductive OptionsError where
  | unknownLanguage (name : String)
  /-- Options given as a value that is no object. -/
  | notAnObject (value : Json)
  /-- A text that is not JSON, with the place where reading stopped. -/
  | malformedJson (line column : Nat)
  /-- A text that is not TOML, with the place where reading stopped. -/
  | malformedToml (line column : Nat)
  /-- A text that reads as a value other than an object. -/
  | evaluatesTo (value : Json)

/-- The wording for a text that is not TOML. -/
def tomlMessage (line column : Nat) : String :=
  "TOML parse error at line " ++ toString line ++ ", column " ++ toString column

namespace OptionsError

def message : OptionsError → String
  | .unknownLanguage name => "unknown options language: " ++ name
  | .notAnObject value => "options must be an object, got " ++ value.compact
  | .malformedJson line column =>
    "invalid JSON options: expected a value at line " ++ toString line ++ " column " ++
      toString column
  | .malformedToml line column => "invalid TOML options: " ++ tomlMessage line column
  | .evaluatesTo value => "options must evaluate to an object, got " ++ value.compact

end OptionsError

namespace OptionsLanguage

def name : OptionsLanguage → String
  | .json => "json"
  | .toml => "toml"

/-- A language by its exact name. -/
def ofName? (name : String) : Option OptionsLanguage :=
  if name = "json" then some .json else if name = "toml" then some .toml else none

/-- A language by its name in any ASCII case. -/
def parse (name : String) : Except OptionsError OptionsLanguage :=
  let lower := Text.toLowerAscii name
  match ofName? lower with
  | some language => .ok language
  | none => .error (.unknownLanguage lower)

end OptionsLanguage

/-- Options: an object, or a text that evaluates to one. -/
inductive OptionsValue where
  | object (fields : Fields)
  | source (text : String) (language : OptionsLanguage)

namespace OptionsValue

/-- Options from a JSON value; only objects are options. -/
def ofJson : Json → Except OptionsError OptionsValue
  | .obj fields => .ok (.object fields)
  | value => .error (.notAnObject value)

/-- The value of an options text that is not blank. -/
def readText (text : String) : OptionsLanguage → Except OptionsError Json
  | .json =>
    match Json.read text with
    | .ok value => .ok value
    | .error rest =>
      let (line, column) := placeOf text rest
      .error (.malformedJson line column)
  | .toml =>
    let refuse (rest : List Char) : Except OptionsError Json :=
      let (line, column) := placeOf text rest
      .error (.malformedToml line column)
    match Toml.read text with
    | .ok entries =>
      match Toml.adoptEntries? entries with
      | some entries => .ok (.obj (Toml.fieldsToJson entries))
      | none => refuse []
    | .error rest => refuse rest

/-- The fields the options stand for; a blank text stands for no fields. -/
def evaluate : OptionsValue → Except OptionsError Fields
  | .object fields => .ok fields
  | .source text language =>
    if (Text.trimChars text.toList).isEmpty then .ok []
    else do
      match ← readText text language with
      | .obj fields => .ok fields
      | value => .error (.evaluatesTo value)

end OptionsValue

/-- How the options of an adapter are presented and negotiated. -/
structure OptionsDescriptor where
  /-- Whether the host may supply options at all. -/
  configurable : Bool
  defaultValue : OptionsValue
  /-- The language in which the default is edited. -/
  editorLanguage : OptionsLanguage

namespace OptionsDescriptor

/-- Options the host may set, over an object; a default that is no object counts as empty. -/
def ofDefault (value : Json) : OptionsDescriptor :=
  ⟨true, .object (value.fields?.getD []), .json⟩

/-- Options the host may not set. -/
def fixed (value : Json) : OptionsDescriptor := { ofDefault value with configurable := false }

/-- Options the host may set, over a text. -/
def ofSource (text : String) (language : OptionsLanguage) : OptionsDescriptor :=
  ⟨true, .source text language, language⟩

/-- No default options. -/
def empty : OptionsDescriptor := ofDefault (.obj [])

/-- The options in force: those of the user over the default. User options are not even evaluated
when the host may not set any. -/
def resolve (descriptor : OptionsDescriptor) (user : Option OptionsValue) :
    Except OptionsError Fields := do
  let defaults ← descriptor.defaultValue.evaluate
  match user with
  | none => .ok defaults
  | some user =>
    if descriptor.configurable then do
      let given ← user.evaluate
      .ok (Fields.overlay defaults given)
    else .ok defaults

end OptionsDescriptor

end Arboretum
