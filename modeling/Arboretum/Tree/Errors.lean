import Arboretum.Tree.Cursor

/-!
# Errors of a tree

`Tree.firstError` describes the first place of a source that a grammar could not read. A cursor
looks for it in pre-order and enters only those nodes that are marked as holding an error
(`Cursor.errorFrom`).
-/

namespace Arboretum

namespace Cursor

/-- The first child, when the node is marked as holding an error. -/
def markedChild? (cursor : Cursor) : Option Cursor :=
  if cursor.node.info.hasError then cursor.firstChild? else none

theorem ahead_markedChild {cursor child : Cursor} (h : cursor.markedChild? = some child) :
    child.ahead < cursor.ahead := by
  unfold markedChild? at h
  split at h
  · exact ahead_firstChild h
  · cases h

/-- The first error or missing node from the cursor on. What is below a node without a mark is
passed over. -/
def errorFrom (cursor : Cursor) : Option NodeInfo :=
  if cursor.node.info.faulty then some cursor.node.info
  else match _h : cursor.markedChild? with
    | some child => child.errorFrom
    | none =>
      match _h : cursor.pass? with
      | some next => next.errorFrom
      | none => none
termination_by cursor.ahead
decreasing_by
  · exact ahead_markedChild _h
  · exact Nat.lt_of_lt_of_le (ahead_pass _h) cursor.after_le_ahead

end Cursor

namespace Tree

/-- The first error or missing node of a tree. -/
def findError (tree : Tree) : Option NodeInfo := (Cursor.ofTree tree).errorFrom

/-- What is wrong at an error or missing node. -/
def errorMessage (info : NodeInfo) (source : List Char) : String :=
  if info.missing then "missing `" ++ info.kind ++ "`"
  else match info.chars source with
    | c :: _ => "unexpected token `" ++ String.ofList [c] ++ "`"
    | [] => "unexpected end of input"

/-- The first error of a tree, described. -/
def firstError (tree : Tree) (source : List Char) : Option Diagnostic :=
  if tree.info.hasError then
    tree.findError.map fun info =>
      info.report (CharIndex.ofSource source) (errorMessage info source)
  else none

end Tree

end Arboretum
