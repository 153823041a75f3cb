import Arboretum.Engine.Grammar

/-!
# Recorded trees

A recording keeps what a grammar answered about one code: its tree, as rows in pre-order, and maybe
the answer to one query. Recordings serve as a grammar for the codes they were made of.

A row is an array: the kind and its number, flags (1 named, 2 missing, 4 error, 8 error within), the
byte range, row and column of both ends, the role in the parent, and the number of children.
-/

namespace Arboretum

/-- The answer to a query. -/
structure QueryAnswer where
  query : String
  answer : Except QueryError (List Capture)

structure Recording where
  /-- The name of the grammar. -/
  grammar : String
  tree : Tree
  query : Option QueryAnswer

namespace Recording

/-- Whether a flag is set. -/
def flag (flags value : Nat) : Bool := flags / value % 2 = 1

/-- The role of a node; `null` for none. -/
def role? : Json → Option (Option String)
  | .null => some none
  | .str field => some (some field)
  | _ => none

def row? : Json → Option (NodeInfo × Nat)
  | .arr [kind, kindId, flags, startByte, stopByte, startRow, startColumn, stopRow, stopColumn,
      field, children] => do
    let flags ← flags.nat?
    return ({
      kind := ← kind.str?
      kindId := ← kindId.nat?
      named := flag flags 1
      missing := flag flags 2
      error := flag flags 4
      hasError := flag flags 8
      startByte := ← startByte.nat?
      stopByte := ← stopByte.nat?
      startPoint := ⟨← startRow.nat?, ← startColumn.nat?⟩
      stopPoint := ⟨← stopRow.nat?, ← stopColumn.nat?⟩
      field := ← role? field }, ← children.nat?)
  | _ => none

def capture? : Json → Option Capture
  | .arr [name, kind, startByte, stopByte] => do
    return ⟨← name.str?, ← kind.str?, ← startByte.nat?, ← stopByte.nat?⟩
  | _ => none

def queryError? (v : Json) : Option QueryError := do
  return ⟨← (v.getD "message").str?, ← (v.getD "row").nat?, ← (v.getD "column").nat?,
    ← (v.getD "offset").nat?⟩

def queryAnswer? (v : Json) : Option QueryAnswer := do
  let query ← (v.getD "source").str?
  match v.getD "error" with
  | .null =>
    let captures ← (← (v.getD "captures").items?).mapM capture?
    return ⟨query, .ok captures⟩
  | e => return ⟨query, .error (← queryError? e)⟩

/-- Reads a recording; a query is optional. -/
def ofJson? (v : Json) : Option Recording := do
  let grammar ← (v.getD "grammar").str?
  let rows ← (← (v.getD "tree").items?).mapM row?
  let tree ← Tree.ofPreorder? rows
  let query := queryAnswer? (v.getD "query")
  return ⟨grammar, tree, query⟩

/-- The tree of a code nothing is known of: a single error. -/
def unread (code : String) : Tree :=
  .node { kind := "ERROR", kindId := 65535, named := true, missing := false, error := true,
          hasError := true, startByte := 0, stopByte := code.utf8ByteSize,
          startPoint := ⟨0, 0⟩, stopPoint := ⟨0, code.utf8ByteSize⟩, field := none } []

/-- The grammar of some name that recordings of codes make up. A query that was not recorded finds
nothing. -/
def grammarOf (recordings : List (String × Recording)) (name : String) : Grammar where
  read code :=
    match recordings.find? fun r => r.1 == code && r.2.grammar == name with
    | some r => r.2.tree
    | none => unread code
  search code query :=
    let answers := recordings.filterMap fun r =>
      if r.1 == code && r.2.grammar == name then r.2.query else none
    match answers.find? fun q => q.query == query with
    | some q => q.answer
    | none => .ok []

end Recording

end Arboretum
