import Arboretum.Adapter.Registry
import Arboretum.Cli.Arguments
import Arboretum.Cli.Failure
import Arboretum.Settings.Basic

/-!
# The choice of a parser

Options of the command line come first, then the extension of the file, then the settings. Nothing
is loaded to choose.
-/

namespace Arboretum

namespace Cli

/-- The answer of the registry, as an answer to a command. -/
def lift {α : Type} : Except Error α → Except Failure α
  | .ok a => .ok a
  | .error e => .error (.adapter e)

/-- The language that options, file or settings name, in this order. -/
def chooseLanguage (registry : Registry) (settings : Settings) (file language : Option String) :
    Except Failure Language :=
  match language with
  | some id => lift (registry.language id)
  | none =>
    match file.bind registry.languageFor? with
    | some language => .ok language
    | none =>
      match settings.language with
      | some id => lift (registry.language id)
      | none => .error .noLanguage

/-- The parser of a language: the one asked for, which must be one of its own; else the preferred
one of the settings if it is one of its own; else the first. -/
def chooseParser (registry : Registry) (settings : Settings) (language : Language)
    (parser : Option String) : Except Failure Parser :=
  match (parser <|> settings.parser).filter fun id => (language.parser? id).isSome with
  | some id => lift (registry.parser language.id id)
  | none =>
    match parser with
    | some id => .error (.adapter (.unknownParser language.id id))
    | none =>
      match language.defaultParser? with
      | some p => .ok p
      | none => .error (.noParsers language.id)

/-- The language and parser for a command. A parser that is asked for without a language brings its
own language along. -/
def choose (registry : Registry) (settings : Settings) (file language parser : Option String) :
    Except Failure (Language × Parser) :=
  match language, parser with
  | none, some id =>
    match registry.findParser? id with
    | some found => .ok found
    | none => .error (.unknownParser id)
  | _, _ => do
    let chosen ← chooseLanguage registry settings file language
    let p ← chooseParser registry settings chosen parser
    return (chosen, p)

/-- The user options for a parser: the text of the command line, else those of the settings. -/
def userOptions (settings : Settings) (parser : Parser) (selection : Selection) :
    Except Failure (Option OptionsValue) :=
  match selection.options with
  | some text => .ok (some (.source text (if selection.optionsToml then .toml else .json)))
  | none =>
    match settings.optionsFor? parser.id with
    | none => .ok none
    | some value =>
      match OptionsValue.ofJson value with
      | .ok options => .ok (some options)
      | .error cause => .error (.adapter (.invalidOptions cause))

end Cli

end Arboretum
