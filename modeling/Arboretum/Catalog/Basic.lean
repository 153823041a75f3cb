import Arboretum.Adapter.Registry
import Arboretum.Catalog.Kinds
import Arboretum.Catalog.Template
import Arboretum.Engine.Grammar

/-!
# The catalog

The built-in languages and their parsers. Every entry is configuration: a bundled grammar, options,
and the location strategy that fits the shape of the trees. The grammars themselves are a parameter.
-/

namespace Arboretum

/-- The grammars the catalog is built on. -/
inductive GrammarName where
  | css
  | javascript
  | typescript
  | python
  | rust
  | go
  deriving DecidableEq, Repr

namespace GrammarName

def name : GrammarName → String
  | .css => "css"
  | .javascript => "javascript"
  | .typescript => "typescript"
  | .python => "python"
  | .rust => "rust"
  | .go => "go"

/-- The package a grammar is published in. -/
def package (g : GrammarName) : String := "tree-sitter-" ++ g.name

end GrammarName

/-- A grammar for each name. -/
abbrev Grammars := GrammarName → Grammar

/-- An adapter with the bundled engine it runs on. -/
structure CatalogEntry where
  adapter : Adapter
  source : Bundled

namespace Catalog

/-- The release series of the bundled grammars. -/
def series : String := "0.23"

/-- The engine of a grammar as a bundled source. -/
def bundled (grammars : Grammars) (g : GrammarName) (version : Option String) (shape : Shape) :
    Bundled :=
  ⟨g.package, .ok ((grammars g).engine g.package version shape)⟩

/-- The manifest of a bundled grammar. -/
def manifest (g : GrammarName) : Metadata :=
  .manifest (some
    ("\x7b \"name\": \"" ++ g.package ++ "\", \"version\": \"" ++ series ++ "\" \x7d"))

def iconOf (g : GrammarName) : String :=
  "i-vscode-icons:file-type-" ++ match g with
    | .javascript => "js-official"
    | .typescript => "typescript-official"
    | g => g.name

def linkOf (g : GrammarName) : String := "https://github.com/tree-sitter/" ++ g.package

/-- An adapter with what all adapters over a grammar share. -/
def base (g : GrammarName) (id label : String) : Adapter where
  id := id
  label := label
  icon := some (iconOf g)
  link := some (linkOf g)
  editorLanguage := g.name
  package := g.package

/-- The kind a number stands for; numbers have 16 bits, and those past the kinds stand for none. -/
def kindName? (kinds : KindTable) (value : Json) : Option String := do
  let id ← value.nat?
  if twoPow 16 ≤ id then none
  else if kinds.count ≤ id then none
  else kinds.name? id

/-- The title of a node with a numeric kind. -/
def kindTitle (kinds : KindTable) (node : Json) : Option String := do
  kindName? kinds (← node.get? "type")

/-- The annotation of a numeric kind. -/
def kindHint (kinds : KindTable) (key : String) (value : Json) : Option String :=
  if key = "type" then (kindName? kinds value).map ("NodeKind." ++ ·) else none

/-- The type of a node as its title. -/
def typeTitle (node : Json) : Option String := do
  (← node.get? "type").str?

def cssTree : Adapter :=
  { base .css "csstree" "csstree" with
    options := .ofDefault (.obj [("positions", .bool true)])
    location := some (.structured .locOffset) }

def cssCst : Adapter :=
  { base .css "css-cst" "tree-sitter-css (cst)" with
    options := .ofSource "includeAnonymous = false\n" .toml
    versionSource := .metadata (manifest .css)
    nodeTitle := some (kindTitle (.ofNames Kinds.css))
    valueHint := some (kindHint (.ofNames Kinds.css))
    location := some (.structured .locOffset) }

def javascript : Adapter :=
  { base .javascript "tree-sitter-javascript" "tree-sitter-javascript" with
    options := .ofDefault (.obj [("loc", .bool true), ("sourceType", .str "module"),
      ("strict", .bool true)])
    location := some .startEnd }

/-- The query of the two-phase adapter by default: the names of declared functions. -/
def defaultQuery : String := "(function_declaration name: (identifier) @function.name)"

/-- The JavaScript adapter with a second phase: a query over the same code, whose captures are put
on the root. Queries name nodes of the bundled grammar, so its release is fixed. -/
def javascriptQuery : Adapter :=
  { javascript.derive "tree-sitter-javascript-query" "tree-sitter-javascript (query)" with
    versionOverridable := false
    options := .ofDefault (.obj [("parse", .obj [("strict", .bool false)]),
      ("query", .obj [("source", .str defaultQuery)])])
    parse := Adapter.twoPhase "parse" "query" queryEntry "captures" (·.getD "captures") }

def typescript : Adapter :=
  { base .typescript "tree-sitter-typescript" "tree-sitter-typescript" with
    options := .ofDefault (.obj [("range", .bool true), ("sourceType", .str "module")])
    versionSource := .engineOrMetadata (manifest .typescript)
    location := some (.offsets (.tuple "range")) }

def python : Adapter :=
  { base .python "tree-sitter-python" "tree-sitter-python" with
    options := .fixed (.obj [("loc", .bool true)])
    nodeTitle := some typeTitle
    location := some (.structured .loc) }

def rustCst : Adapter :=
  { base .rust "rust-cst" "tree-sitter-rust (cst)" with
    options := .ofSource
      "# Include punctuation and keywords as nodes\nincludeAnonymous = false\n" .toml
    nodeTitle := some (kindTitle (.ofNames Kinds.rust))
    valueHint := some (kindHint (.ofNames Kinds.rust))
    location := some (.structured .locOffset) }

def go : Adapter :=
  { base .go "tree-sitter-go" "tree-sitter-go" with
    options := .ofDefault (.obj [("strict", .bool false)])
    versionSource := .metadata (manifest .go)
    location := some .startEnd }

/-- The adapters over given grammars, with their engines. -/
def entries (grammars : Grammars) : List CatalogEntry :=
  let jsSource := bundled grammars .javascript (some series) .estree
  [⟨cssTree, bundled grammars .css (some series) .cssTree⟩,
   ⟨cssCst, bundled grammars .css none .cst⟩,
   ⟨javascript, jsSource⟩,
   ⟨javascriptQuery, jsSource⟩,
   ⟨typescript, bundled grammars .typescript none .estree⟩,
   ⟨python, bundled grammars .python (some series) .estree⟩,
   ⟨rustCst, bundled grammars .rust (some series) .cst⟩,
   ⟨go, bundled grammars .go none .estree⟩]

/-- The adapter with an id. -/
def entry? (grammars : Grammars) (id : String) : Option CatalogEntry :=
  (entries grammars).find? fun e => e.adapter.id = id

/-- The parser of an entry. -/
def parserOf (e : CatalogEntry) : Parser := e.adapter.toParser e.source

/-- A language over the entries for its grammar. -/
def languageOf (grammars : Grammars) (g : GrammarName) (label : String)
    (extensions : List String) (template : String) : Language where
  id := g.name
  label := label
  icon := some (iconOf g)
  extensions := extensions
  template := some template
  parsers := ((entries grammars).filter fun e => e.adapter.editorLanguage = g.name).map parserOf

/-- The built-in languages, in the order of presentation. -/
def languages (grammars : Grammars) : List Language :=
  [languageOf grammars .css "CSS" ["css"] Template.css,
   languageOf grammars .javascript "JavaScript" ["js", "mjs", "cjs", "jsx"] Template.javascript,
   languageOf grammars .typescript "TypeScript" ["ts", "mts", "cts"] Template.typescript,
   languageOf grammars .python "Python" ["py", "pyi"] Template.python,
   languageOf grammars .rust "Rust" ["rs"] Template.rust,
   languageOf grammars .go "Go" ["go"] Template.go]

/-- The registry of the built-in languages; their ids are unique. -/
def registry (grammars : Grammars) : Registry :=
  match Registry.ofLanguages (languages grammars) with
  | .ok registry => registry
  | .error _ => {}

end Catalog

end Arboretum
