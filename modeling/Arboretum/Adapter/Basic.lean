import Arboretum.Adapter.Metadata
import Arboretum.Location.Strategy
import Arboretum.Options.Codec

/-!
# Parser adapters

An adapter is a plain configuration over an engine: identity, options, the parse operation, optional
hooks, and where its version comes from. Variants are made by copying an adapter and changing what
differs. `Parser` is the contract hosts see; `Adapter.toParser` fulfils it over a bundled engine.
-/

namespace Arboretum

/-- Which hooks an adapter has. -/
structure Capabilities where
  nodeTitle : Bool := false
  valueHint : Bool := false
  location : Bool := false
  deriving DecidableEq, Repr

namespace Capabilities

def supports (c : Capabilities) : Capability → Bool
  | .nodeTitle => c.nodeTitle
  | .valueHint => c.valueHint
  | .location => c.location

def toJson (c : Capabilities) : Json :=
  .ofFields [("nodeTitle", .bool c.nodeTitle), ("valueHint", .bool c.valueHint),
    ("location", .bool c.location)]

def describe (c : Capabilities) : String :=
  Text.record "Capabilities" [("node_title", Text.truth c.nodeTitle),
    ("value_hint", Text.truth c.valueHint), ("location", Text.truth c.location)]

end Capabilities

/-- An adapter over the engine of a package. -/
structure Adapter where
  id : String
  label : String
  icon : Option String := none
  link : Option String := none
  /-- The language of the source the adapter accepts. -/
  editorLanguage : String
  package : String
  options : OptionsDescriptor := .empty
  versionSource : VersionSource := .engine
  /-- Whether the host may choose the release. -/
  versionOverridable : Bool := true
  /-- The parse operation over the engine. -/
  parse : (engine : Engine) → (code : String) → (options : Json) → Except Diagnostic Json :=
    fun engine => engine.parse
  nodeTitle : Option (Json → Option String) := none
  valueHint : Option (String → Json → Option String) := none
  location : Option Strategy := none

namespace Adapter

def capabilities (a : Adapter) : Capabilities :=
  ⟨a.nodeTitle.isSome, a.valueHint.isSome, a.location.isSome⟩

/-- A requested release is refused unless the host may choose one. -/
def checkOverride (a : Adapter) : Option String → Except Error Unit
  | some version =>
    if a.versionOverridable then .ok () else .error (.versionNotOverridable a.id version)
  | none => .ok ()

/-- What a parse needs before the engine: the release is allowed and the options are in order. -/
def prepare (a : Adapter) (user : Option OptionsValue) (requested : Option String) :
    Except Error Json := do
  a.checkOverride requested
  match a.options.resolve user with
  | .ok fields => .ok (.obj fields)
  | .error cause => .error (.invalidOptions cause)

/-- The parse operation on a loaded engine; a diagnostic is reported under the adapter's id. -/
def parseWith (a : Adapter) (engine : Engine) (code : String) (options : Json) :
    Except Error Json :=
  match a.parse engine code options with
  | .ok tree => .ok tree
  | .error diagnostic => .error (.engineParse a.id diagnostic)

/-- The version an engine of the requested release is taken to have. -/
def reported (engine : Engine) (requested : Option String) : Option String :=
  engine.version <|> requested

def titleOf (a : Adapter) (node : Json) : Except Error (Option String) :=
  match a.nodeTitle with
  | some hook => .ok (hook node)
  | none => .error (.unsupported a.id .nodeTitle)

def hintOf (a : Adapter) (key : String) (value : Json) : Except Error (Option String) :=
  match a.valueHint with
  | some hook => .ok (hook key value)
  | none => .error (.unsupported a.id .valueHint)

def locationOf (a : Adapter) (node : Json) : Except Error (Option Location) :=
  match a.location with
  | some strategy => .ok (strategy.resolve node)
  | none => .error (.unsupported a.id .location)

/-- The adapter under a new identity. -/
def derive (a : Adapter) (id label : String) : Adapter := { a with id, label }

/-- A parse operation in two phases: the tree of the first, with the answer of an entry point put
under a key of its root. Each phase has its own options, under the given keys; `pick` selects what
is kept of the answer. It is assumed that the tree is an object, as every tree of a grammar is.
Nothing else has a place for the key, and is given back without the answer. -/
def twoPhase (first second entry target : String) (pick : Json → Json) (engine : Engine)
    (code : String) (options : Json) : Except Diagnostic Json := do
  let tree ← engine.parse code (options.getD first)
  let answer ← engine.invoke entry code (options.getD second)
  match tree with
  | .obj fields => .ok (.obj (Fields.insert fields target (pick answer)))
  | other => .ok other

def describe (a : Adapter) : String :=
  Text.record "ParserAdapter" [("id", Text.quoted a.id), ("label", Text.quoted a.label),
    ("editor_language", Text.quoted a.editorLanguage), ("package", Text.quoted a.package),
    ("options", a.options.describe), ("version_source", a.versionSource.describe),
    ("version_overridable", Text.truth a.versionOverridable),
    ("capabilities", a.capabilities.describe),
    ("location", Text.optional (a.location.map Strategy.describe))]

end Adapter

/-- The contract of a parser towards its host. -/
structure Parser where
  id : String
  label : String
  editorLanguage : String
  icon : Option String := none
  link : Option String := none
  options : OptionsDescriptor
  capabilities : Capabilities
  versionOverridable : Bool := false
  /-- The version of a release. -/
  version : (requested : Option String) → Except Error String
  /-- Parses code with an engine of a release. -/
  parse : (code : String) → (user : Option OptionsValue) → (requested : Option String) →
    Except Error Json
  /-- A label for a node. -/
  nodeTitle : Json → Except Error (Option String) := fun _ => .error (.unsupported id .nodeTitle)
  /-- An annotation for a value under a key. -/
  valueHint : String → Json → Except Error (Option String) :=
    fun _ _ => .error (.unsupported id .valueHint)
  /-- The source range of a node. -/
  location : Json → Except Error (Option Location) := fun _ => .error (.unsupported id .location)

namespace Parser

def describe (p : Parser) : String :=
  Text.record "Parser" [("id", Text.quoted p.id), ("label", Text.quoted p.label),
    ("capabilities", p.capabilities.describe)]

/-- What a host is told about a parser. -/
def toFields (p : Parser) : List (String × Json) :=
  [("id", .str p.id), ("label", .str p.label), ("editorLanguage", .str p.editorLanguage),
   ("icon", .ofOption p.icon), ("link", .ofOption p.link), ("options", p.options.toJson),
   ("capabilities", p.capabilities.toJson), ("versionOverridable", .bool p.versionOverridable)]

end Parser

namespace Adapter

/-- The version of a release, over a bundled engine. -/
def versionFrom (a : Adapter) (source : Bundled) (requested : Option String) :
    Except Error String := do
  a.checkOverride requested
  let fetch (m : Metadata) : Except Error String := Metadata.result a.package (m.answer a.package)
  let load : Except Error Engine :=
    match source.acquire requested with
    | .ok engine => .ok engine
    | .error cause => .error (.engineLoad a.package cause)
  match a.versionSource, requested with
  | .metadata _, some version => .ok (versionText a.package version)
  | .metadata m, none => fetch m
  | .engine, _ => do
    let engine ← load
    .ok (versionText a.package ((reported engine requested).getD "unknown"))
  | .engineOrMetadata m, _ => do
    let engine ← load
    match reported engine requested with
    | some version => .ok (versionText a.package version)
    | none => fetch m

/-- A parse over a bundled engine. -/
def parseFrom (a : Adapter) (source : Bundled) (code : String) (user : Option OptionsValue)
    (requested : Option String) : Except Error Json := do
  let options ← a.prepare user requested
  match source.acquire requested with
  | .ok engine => a.parseWith engine code options
  | .error cause => .error (.engineLoad a.package cause)

/-- The parser of an adapter over a bundled engine. -/
def toParser (a : Adapter) (source : Bundled) : Parser where
  id := a.id
  label := a.label
  editorLanguage := a.editorLanguage
  icon := a.icon
  link := a.link
  options := a.options
  capabilities := a.capabilities
  versionOverridable := a.versionOverridable
  version := a.versionFrom source
  parse := a.parseFrom source
  nodeTitle := a.titleOf
  valueHint := a.hintOf
  location := a.locationOf

end Adapter

end Arboretum
