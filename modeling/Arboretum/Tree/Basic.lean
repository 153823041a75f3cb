import Arboretum.Engine.Diagnostic
import Arboretum.Text.CharIndex

/-!
# Concrete trees

The tree of a source text as a grammar reads it: every node with its kind, its byte range and its
points, anonymous nodes too. A tree is given by its nodes in pre-order, each with its number of
children (`Tree.ofPreorder?`).
-/

namespace Arboretum

/-- What is known of a node apart from its children. -/
structure NodeInfo where
  kind : String
  kindId : Nat
  /-- Named in the grammar, as against punctuation and keywords. -/
  named : Bool
  /-- Inserted by the grammar where the source lacks it. -/
  missing : Bool
  /-- A stretch of source that could not be read. -/
  error : Bool
  /-- An error or missing node is within. -/
  hasError : Bool
  startByte : Nat
  stopByte : Nat
  startPoint : Point
  stopPoint : Point
  /-- The name of the node's role in its parent. -/
  field : Option String
  deriving DecidableEq, Repr

/-- A node and its children. -/
inductive Tree where
  | node (info : NodeInfo) (children : List Tree)

namespace Tree

def info : Tree → NodeInfo
  | .node info _ => info

def children : Tree → List Tree
  | .node _ children => children

/-- The tree with the given nodes in pre-order, each with its number of children. Reading from the
last node to the first, the trees finished so far begin with the children of the next node. -/
def ofPreorder? (nodes : List (NodeInfo × Nat)) : Option Tree :=
  match nodes.foldr (fun (info, count) trees => .node info (trees.take count) :: trees.drop count)
      [] with
  | [tree] => some tree
  | _ => none

mutual

/-- The nodes in pre-order. -/
def preorder : Tree → List NodeInfo
  | .node info children => info :: preorderList children

def preorderList : List Tree → List NodeInfo
  | [] => []
  | t :: rest => preorder t ++ preorderList rest

end

end Tree

/-- An error or missing node: a place the grammar could not read. -/
def NodeInfo.faulty (info : NodeInfo) : Bool := info.error || info.missing

/-- The characters of a node in a source; none when its range does not fall between characters. -/
def NodeInfo.chars (info : NodeInfo) (source : List Char) : List Char :=
  (Text.bytesBetween? source info.startByte info.stopByte).getD []

/-- A message at the beginning of a node. -/
def NodeInfo.report (info : NodeInfo) (index : CharIndex) (message : String) : Diagnostic :=
  .located message (info.startPoint.row + 1) (index.column info.startByte info.startPoint + 1)
    (index.offset info.startByte)

end Arboretum
