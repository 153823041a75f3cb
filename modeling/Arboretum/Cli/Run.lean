import Arboretum.Catalog.Basic
import Arboretum.Cli.Choice
import Arboretum.Json.Pointer
import Arboretum.Ui.Style
import Arboretum.Ui.Table

/-!
# Running commands

A command sees its surroundings and leaves a report: what it prints, its exit code and the file it
writes. Results are for people, or one line of JSON for programs.
-/

namespace Arboretum

namespace Cli

/-- What a command sees of the world. -/
structure Surroundings where
  /-- What is at a path. -/
  entry : (path : String) → FileEntry
  grammars : Grammars
  theme : Theme := .plain
  /-- Leave out lines that only decorate. -/
  quiet : Bool := false

/-- Whether the value of a switch in the environment turns it on. -/
def switchedOn (value : String) : Bool := value == "1" || Text.sameIgnoringCase value "true"

/-- A piece of output. -/
inductive Line where
  | text (line : String)
  /-- How long the work took, which is known only when it is done. -/
  | timing
  deriving DecidableEq, Repr

/-- What a command leaves. -/
structure Report where
  exit : Nat := 0
  output : List Line := []
  errors : List String := []
  /-- A file to write: path and contents. -/
  written : Option (String × String) := none
  deriving DecidableEq, Repr

/-- Lines, each ended. -/
def endLines (lines : List String) : String := String.join (lines.map (· ++ "\n"))

/-- The output as text. -/
def Report.stdout (report : Report) (theme : Theme) (elapsed : String) : String :=
  endLines (report.output.map fun
    | .text line => line
    | .timing => theme.dim.apply Icon.clock ++ " " ++ elapsed)

def Report.stderr (report : Report) : String := endLines report.errors

namespace Surroundings

/-- A line that only decorates. -/
def decoration (env : Surroundings) (line : Line) : List Line := if env.quiet then [] else [line]

def header (env : Surroundings) (title : String) : List Line :=
  env.decoration (.text (Icon.tree ++ " " ++ env.theme.header.apply title))

def status (env : Surroundings) (icon label value : String) : Line :=
  .text (icon ++ " " ++ env.theme.dim.apply label ++ ": " ++ value)

end Surroundings

/-! ## Results -/

/-- The line of a result for programs. -/
def successLine (command : String) (data : Json) : String :=
  "\x7b\"ok\":true,\"command\":" ++ JsonText.quote command ++ ",\"data\":" ++ data.compact ++ "\x7d"

def failureLine (command message : String) : String :=
  "\x7b\"ok\":false,\"command\":" ++ JsonText.quote command ++ ",\"error\":" ++
    JsonText.quote message ++ "\x7d"

def succeed (command : String) (data : Json) : Report :=
  { output := [.text (successLine command data)] }

/-- The report on a failed command. -/
def fail (env : Surroundings) (json : Bool) (command : String) (failure : Failure) : Report :=
  if json then { exit := 1, output := [.text (failureLine command failure.message)] }
  else { exit := 1, errors := [Icon.cross ++ " " ++ env.theme.error.apply failure.message] }

/-! ## Commands -/

def parserData (p : Parser) : Json :=
  .ofFields (p.toFields.filter fun f => f.1 ≠ "icon")

def languageData (l : Language) : Json :=
  .ofFields [("id", .str l.id), ("label", .str l.label), ("icon", .ofOption l.icon),
    ("extensions", .arr (l.extensions.map .str)), ("parsers", .arr (l.parsers.map parserData))]

def runLanguages (env : Surroundings) (registry : Registry) (json : Bool) : Report :=
  if json then succeed "languages" (.arr (registry.languages.map languageData))
  else { output := env.header "Languages" ++ [.text (languagesTable registry.languages)] }

/-- Reads and parses a file with the parser chosen for it. -/
def parseFile (env : Surroundings) (registry : Registry) (settings : Settings) (file : String)
    (selection : Selection) : Except Failure (Language × Parser × String × Json) := do
  let (language, parser) ← choose registry settings (some file) selection.language selection.parser
  let code ← match (env.entry file).read with
    | .ok code => .ok code
    | .error e => .error (Failure.unreadable file e)
  let options ← userOptions settings parser selection
  let tree ← lift (parser.parse code options selection.engineVersion)
  return (language, parser, code, tree)

def runParse (env : Surroundings) (registry : Registry) (settings : Settings) (json : Bool)
    (file : String) (selection : Selection) : Except Failure Report := do
  let (language, parser, _, tree) ← parseFile env registry settings file selection
  if json then return succeed "parse" tree
  else
    return { output := env.header (file ++ " (" ++ language.label ++ ")") ++
      env.decoration (.text (env.theme.info.apply Icon.info ++ " " ++
        env.theme.dim.apply "Parser" ++ ": " ++ parser.id)) ++
      env.decoration .timing ++ [.text tree.pretty] }

def runVersion (env : Surroundings) (registry : Registry) (settings : Settings) (json : Bool)
    (selection : Selection) : Except Failure Report := do
  let (_, parser) ← choose registry settings none selection.language selection.parser
  let version ← lift (parser.version selection.engineVersion)
  if json then
    return succeed "version" (.ofFields [("parser", .str parser.id), ("version", .str version)])
  else return { output := [env.status Icon.package parser.id version] }

/-- The answer of a hook; a hook that the parser does not have answers nothing. -/
def hookAnswer {α : Type} : Except Error (Option α) → Except Failure (Option α)
  | .ok answer => .ok answer
  | .error (.unsupported _ _) => .ok none
  | .error e => .error (.adapter e)

/-- A location as one line, its parts in reading order. -/
def locationText (location : Location) : String := (Json.obj location.toFields).compact

def runLocate (env : Surroundings) (registry : Registry) (settings : Settings) (json : Bool)
    (file pointer : String) (selection : Selection) : Except Failure Report := do
  let (_, parser, code, tree) ← parseFile env registry settings file selection
  match tree.pointer? pointer with
  | none => .error (.noNode pointer)
  | some node =>
    let title ← hookAnswer (parser.nodeTitle node)
    let location ← hookAnswer (parser.location node)
    let snippet := location.bind (·.slice code)
    if json then
      return succeed "locate" (.ofFields [("pointer", .str pointer), ("title", .ofOption title),
        ("location", (location.map Location.toJson).getD .null), ("snippet", .ofOption snippet)])
    else
      let node := env.status Icon.tree "Node" (title.getD pointer)
      match location with
      | some location =>
        return { output := [node, env.status Icon.pin "Location" (locationText location)] ++
          (snippet.map fun s => Line.text (env.theme.muted.apply s)).toList }
      | none =>
        return { output := [node],
                 errors := [Icon.warning ++ " " ++
                   env.theme.warn.apply "node carries no location"] }

/-! ## The settings file -/

/-- The settings file when none is named. -/
def defaultSettingsPath : String := "astlens.toml"

/-- The settings a new file has. -/
def starter : Settings := { log := some "astlens=info" }

/-- The settings in force; a missing file stands for none. -/
def loadSettings (env : Surroundings) (path : String) : Except Failure Settings :=
  let entry := env.entry path
  if !entry.isThere then .ok {}
  else
    match entry.read with
    | .error e => .error (.settingsFile e)
    | .ok text =>
      match Settings.read text with
      | .ok settings => .ok settings
      | .error rest => .error (.settingsText (Settings.readMessage text rest))

/-- The file to write for settings: path and contents. A file that is there is only overwritten by
force. -/
def writeSettings (env : Surroundings) (path : String) (settings : Settings) (force : Bool) :
    Except Failure (String × String) :=
  let here := env.entry path
  if here.isThere && !force then .error (.settingsExist path)
  else
    match here.refusal? (env.entry (Path.directory path)) (Path.endsWithSlash path) with
    | some e => .error (.settingsFile e)
    | none => .ok (path, settings.write)

def runInit (env : Surroundings) (json : Bool) (path : String) (force : Bool) :
    Except Failure Report := do
  let target ← writeSettings env path starter force
  let note := Icon.check ++ " " ++ env.theme.success.apply ("Wrote " ++ path)
  let report : Report :=
    if json then succeed "init" (.ofFields [("path", .str path)])
    else { output := env.decoration (.text note) }
  return { report with written := some target }

/-! ## Everything together -/

/-- Runs a command under settings. -/
def runCommand (env : Surroundings) (settings : Settings) (invocation : Invocation)
    (settingsPath : String) : Except Failure Report :=
  let json := invocation.json
  let registry := Catalog.registry env.grammars
  match invocation.command with
  | .languages => .ok (runLanguages env registry json)
  | .parse file selection => runParse env registry settings json file selection
  | .version selection => runVersion env registry settings json selection
  | .locate file pointer selection => runLocate env registry settings json file pointer selection
  | .init force => runInit env json settingsPath force

/-- Runs an invocation: the settings are read first, whatever the command. -/
def runInvocation (env : Surroundings) (invocation : Invocation) : Report :=
  let path := invocation.config.getD defaultSettingsPath
  match loadSettings env path with
  | .error failure => fail env invocation.json "config" failure
  | .ok settings =>
    match runCommand env settings invocation path with
    | .ok report => report
    | .error failure => fail env invocation.json invocation.command.name failure

/-- The name and version of the program. -/
def programVersion : String := "astlens 0.0.1"

/-- How to call the program. -/
def usage : String := "usage: astlens [OPTIONS] <COMMAND>"

/-- Runs a command line. -/
def run (env : Surroundings) (args : List String) : Report :=
  match parse args with
  | .ok invocation => runInvocation env invocation
  | .error .version => { output := [.text programVersion] }
  | .error .help => { output := [.text usage] }
  | .error .usage => { exit := 2, errors := [usage] }

end Cli

end Arboretum
