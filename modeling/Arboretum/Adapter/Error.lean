import Arboretum.Engine.Diagnostic
import Arboretum.Options.Basic

/-!
# Failures of adapters

Every way a call on an adapter or on the registry can fail, as a cause with its data. The wording is
in `Error.message`; `Error.chain` also spells out the causes behind a failed load or lookup.
-/

namespace Arboretum

/-- Why an engine could not be acquired. -/
inductive LoadCause where
  /-- A bundled engine has another version than the requested one. -/
  | otherVersion (name bundled requested : String)
  /-- A bundled engine has no version of its own, so none can be requested. -/
  | noVersion (name requested : String)
  /-- A source reported messages, the outermost first. -/
  | reported (message : String) (inner : List String)
  /-- The acquisition ended without an outcome. -/
  | abandoned
  deriving DecidableEq, Repr

def LoadCause.message : LoadCause → String
  | .otherVersion name bundled requested =>
    name ++ " bundles version " ++ bundled ++ ", not " ++ requested
  | .noVersion name requested => name ++ " cannot provide version " ++ requested
  | .reported message _ => message
  | .abandoned => "engine acquisition task ended without a result"

/-- Why the version of a package could not be looked up. -/
inductive MetadataCause where
  /-- A manifest that cannot be read, with the place where reading stopped. -/
  | malformed (line column : Nat)
  /-- A manifest of another package. -/
  | describes (name package : String)
  /-- A manifest file that does not exist. -/
  | missingFile
  | reported (message : String) (inner : List String)
  deriving DecidableEq, Repr

/-- The wording for a file that does not exist. -/
def noSuchFile : String := "No such file or directory (os error 2)"

def MetadataCause.message : MetadataCause → String
  | .malformed line column =>
    "expected a manifest at line " ++ toString line ++ " column " ++ toString column
  | .describes name package => "manifest describes `" ++ name ++ "`, not `" ++ package ++ "`"
  | .missingFile => noSuchFile
  | .reported message _ => message

/-- Messages behind the outermost one. -/
def LoadCause.inner : LoadCause → List String
  | .reported _ inner => inner
  | _ => []

def MetadataCause.inner : MetadataCause → List String
  | .reported _ inner => inner
  | _ => []

/-- The hooks an adapter may have. -/
inductive Capability where
  | nodeTitle
  | valueHint
  | location
  deriving DecidableEq, Repr

def Capability.name : Capability → String
  | .nodeTitle => "nodeTitle"
  | .valueHint => "valueHint"
  | .location => "location"

/-- A failed call. -/
inductive Error where
  | engineLoad (package : String) (cause : LoadCause)
  | engineParse (adapter : String) (diagnostic : Diagnostic)
  | unsupported (adapter : String) (operation : Capability)
  | versionNotOverridable (adapter version : String)
  | invalidOptions (cause : OptionsError)
  | metadata (package : String) (cause : MetadataCause)
  | unknownLanguage (id : String)
  | unknownParser (language parser : String)
  | duplicateId (id : String)

namespace Error

def message : Error → String
  | .engineLoad package cause => "Failed to load engine " ++ package ++ ": " ++ cause.message
  | .engineParse adapter diagnostic => adapter ++ ": " ++ diagnostic.text
  | .unsupported adapter operation =>
    "Parser " ++ adapter ++ " does not support " ++ operation.name
  | .versionNotOverridable adapter version =>
    "Parser " ++ adapter ++ " does not allow selecting version " ++ version
  | .invalidOptions cause => "Invalid options: " ++ cause.message
  | .metadata package cause =>
    "Failed to resolve version of " ++ package ++ ": " ++ cause.message
  | .unknownLanguage id => "Unknown language: " ++ id
  | .unknownParser language parser =>
    "Unknown parser " ++ parser ++ " for language " ++ language
  | .duplicateId id => "Duplicate id in registry: " ++ id

/-- The message, followed by those of the causes behind it. -/
def chain : Error → List String
  | .engineLoad package cause =>
    (Error.engineLoad package cause).message :: cause.message :: cause.inner
  | .metadata package cause =>
    (Error.metadata package cause).message :: cause.message :: cause.inner
  | e => [e.message]

end Error

end Arboretum
