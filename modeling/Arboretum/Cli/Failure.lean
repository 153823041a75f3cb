import Arboretum.Adapter.Error
import Arboretum.Cli.Files

/-!
# Failures of commands

Why a command ends without a result. The wording is a chain of messages, the outermost first.
-/

namespace Arboretum

namespace Cli

inductive Failure where
  | adapter (error : Error)
  /-- No language has a parser with this id. -/
  | unknownParser (id : String)
  /-- Neither options, file nor settings name a language. -/
  | noLanguage
  | noParsers (language : String)
  | unreadable (file : String) (error : FileError)
  | noNode (pointer : String)
  /-- The settings file cannot be read or written. -/
  | settingsFile (error : FileError)
  /-- The settings file is not well-formed. -/
  | settingsText (message : String)
  | settingsExist (path : String)

namespace Failure

def chain : Failure → List String
  | .adapter error => error.chain
  | .unknownParser id => ["Unknown parser " ++ id]
  | .noLanguage => ["cannot infer the language; pass --language"]
  | .noParsers language => [language ++ " has no parsers"]
  | .unreadable file error => ["failed to read " ++ file, error.message]
  | .noNode pointer => ["no node at " ++ pointer]
  | .settingsFile error => [error.message]
  | .settingsText message => [message]
  | .settingsExist path =>
    ["config already exists at " ++ path ++ " (use --force to overwrite)"]

def message (failure : Failure) : String := String.intercalate ": " failure.chain

end Failure

end Cli

end Arboretum
