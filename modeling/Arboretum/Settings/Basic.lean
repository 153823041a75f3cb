import Arboretum.Options.Basic
import Arboretum.Toml.Printer

/-!
# Settings

The settings file: a preferred language and parser, a log filter, and options by parser. It is TOML;
`Settings.read` and `Settings.write` are its two directions.
-/

namespace Arboretum

structure Settings where
  /-- The language for files whose extension says nothing. -/
  language : Option String := none
  /-- The preferred parser. -/
  parser : Option String := none
  /-- The log filter. -/
  log : Option String := none
  /-- Options by parser, in key order throughout. -/
  options : List (String × List (String × Toml)) := []

namespace Settings

def entry? (entries : List (String × Toml)) (key : String) : Option Toml :=
  (entries.find? fun e => e.1 = key).map Prod.snd

/-- A text under a key, if there is one; a value of another kind is refused. -/
def textEntry? (entries : List (String × Toml)) (key : String) : Option (Option String) :=
  match entry? entries key with
  | none => some none
  | some (.str s) => some (some s)
  | some _ => none

/-- The options of one parser. A date in place of a table counts as the table with its text. -/
def parserOptions? : Toml → Option (List (String × Toml))
  | .table entries =>
    (Toml.adoptEntries? entries).map fun entries => Toml.sortEntries (Toml.sortedEntries entries)
  | .datetime d => some [(TomlDatetime.reservedKey, .str d.text)]
  | _ => none

def optionsEntry? (entries : List (String × Toml)) :
    Option (List (String × List (String × Toml))) :=
  match entry? entries "options" with
  | none => some []
  | some (.table tables) => do
    let options ← tables.mapM fun t => (parserOptions? t.2).map fun o => (t.1, o)
    some (options.mergeSort fun a b => a.1 ≤ b.1)
  | some _ => none

/-- Settings from the entries of a document; unknown keys are ignored. -/
def ofEntries? (entries : List (String × Toml)) : Option Settings := do
  let language ← textEntry? entries "language"
  let parser ← textEntry? entries "parser"
  let log ← textEntry? entries "log"
  let options ← optionsEntry? entries
  return { language, parser, log, options }

/-- Settings from the text of a file, or the characters at which reading stopped. -/
def read (text : String) : Except (List Char) Settings := do
  let entries ← Toml.read text
  match ofEntries? entries with
  | some settings => .ok settings
  | none => .error text.toList

/-- The message for a text that cannot be read. -/
def readMessage (text : String) (rest : List Char) : String :=
  let (line, column) := placeOf text rest
  tomlMessage line column

/-- The options of a parser, as JSON. -/
def optionsFor? (settings : Settings) (parser : String) : Option Json :=
  (settings.options.find? fun o => o.1 = parser).map fun o => .obj (Toml.fieldsToJson o.2)

/-- The plain entries, in the order of writing. -/
def plainEntries (settings : Settings) : List (String × Toml) :=
  [("language", settings.language), ("parser", settings.parser), ("log", settings.log)].filterMap
    fun e => e.2.map fun s => (e.1, Toml.str s)

/-- The blocks of the options of one parser. -/
def optionBlocks (parser : String) (entries : List (String × Toml)) : List Toml.Block :=
  let path := ["options", parser]
  Toml.tableBlock path entries :: Toml.entryBlocks path entries

/-- The text of a settings file. -/
def write (settings : Settings) : String :=
  Toml.joinBlocks (⟨none, Toml.pairLines settings.plainEntries⟩ ::
    settings.options.flatMap fun o => optionBlocks o.1 o.2)

/-- Equality of settings, up to the equality of TOML values. -/
def same (a b : Settings) : Bool :=
  a.language == b.language && a.parser == b.parser && a.log == b.log &&
    a.options.length == b.options.length &&
    (a.options.zip b.options).all fun (x, y) => x.1 == y.1 && Toml.sameEntries x.2 y.2

def toJson (settings : Settings) : Json :=
  .ofFields ([("language", .ofOption settings.language), ("parser", .ofOption settings.parser),
    ("log", .ofOption settings.log)] ++
    if settings.options.isEmpty then []
    else [("options", .ofFields (settings.options.map fun o =>
      (o.1, .obj (Toml.fieldsToJson o.2))))])

end Settings

end Arboretum
