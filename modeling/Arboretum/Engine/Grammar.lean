import Arboretum.Engine.Basic
import Arboretum.Shape.Convert
import Arboretum.Tree.Errors

/-!
# Grammars as engines

A grammar reads any code as a tree and answers queries over it. `Grammar.engine` makes an engine of
a grammar and a shape; besides parsing it has one entry point, which runs a query.
-/

namespace Arboretum

/-- A node found by a query, under the name the query gives it. -/
structure Capture where
  name : String
  kind : String
  startByte : Nat
  stopByte : Nat
  deriving DecidableEq, Repr

/-- Why a query is refused; row and column are from zero. -/
structure QueryError where
  message : String
  row : Nat
  column : Nat
  offset : Nat
  deriving DecidableEq, Repr

structure Grammar where
  /-- The tree of a code. It is assumed that every code has one: the tables of the grammar suit the
  parser that runs them, and neither a time limit nor a request from outside stops it. -/
  read : (code : String) → Tree
  /-- The captures of a query over a code, in the order of the matches. -/
  search : (code query : String) → Except QueryError (List Capture)

/-- The name of the entry point for queries. -/
def queryEntry : String := "query"

namespace Capture

/-- A capture as JSON, with its text and character offsets. -/
def toJson (capture : Capture) (source : List Char) (index : CharIndex) : Json :=
  .ofFields [("name", .str capture.name), ("type", .str capture.kind),
    ("text", .str (String.ofList
      ((Text.bytesBetween? source capture.startByte capture.stopByte).getD []))),
    ("start", .ofNat (index.offset capture.startByte)),
    ("end", .ofNat (index.offset capture.stopByte))]

end Capture

def QueryError.report (e : QueryError) : Diagnostic :=
  .located ("invalid query: " ++ e.message) (e.row + 1) (e.column + 1) e.offset

namespace Grammar

/-- Parses a code into a tree of the given shape. Under `strict` the first error is reported
instead, before any report on the depth of the tree. -/
def parse (grammar : Grammar) (shape : Shape) (code : String) (options : Json) :
    Except Diagnostic Json := do
  let options ← ShapeOptions.ofJson options
  let tree := grammar.read code
  let source := code.toList
  let rejected := if options.strict then tree.firstError source else none
  match rejected with
  | some diagnostic => .error diagnostic
  | none => (Layout.ofSource source shape options).convert tree

/-- Runs the query under `source` over a code. -/
def query (grammar : Grammar) (code : String) (options : Json) : Except Diagnostic Json :=
  match (options.get? "source").bind Json.str? with
  | none => .error (.plain "query requires a `source` string")
  | some source =>
    match grammar.search code source with
    | .error e => .error e.report
    | .ok captures =>
      let chars := code.toList
      let index := CharIndex.ofSource chars
      .ok (.obj [("captures", .arr (captures.map fun c => c.toJson chars index))])

/-- The engine of a grammar. -/
def engine (grammar : Grammar) (package : String) (version : Option String) (shape : Shape) :
    Engine where
  package := package
  version := version
  parse := grammar.parse shape
  entryPoints := [queryEntry]
  invoke entry code options :=
    if entry = queryEntry then grammar.query code options
    else .error (Engine.noEntryPoint package entry)

end Grammar

end Arboretum
