import Arboretum.Shape.Options
import Arboretum.Tree.Cursor

/-!
# Tree shapes

A tree is handed out as JSON in one of three shapes: `estree` with offsets on every node and lines
and columns on request, `cssTree` with positions on request, and `cst` with numeric kinds and
positions always. `Layout.convert` copies the kept nodes of a tree in order; a node that is not
kept drops everything below it, and a tree of more than `maxDepth` levels is refused at the first
node that lies too deep.

The copy is made by a cursor that walks the tree depth first and a stack of frames, one for each
node on the way down to the cursor (`Layout.descend`, `Layout.enter`, `Layout.climb`).
-/

namespace Arboretum

/-- The shape of an emitted tree. -/
inductive Shape where
  | estree
  | cssTree
  | cst
  deriving DecidableEq, Repr

def Shape.name : Shape → String
  | .estree => "estree"
  | .cssTree => "css-tree"
  | .cst => "cst"

def Shape.ofName? (name : String) : Option Shape :=
  [Shape.estree, .cssTree, .cst].find? fun shape => shape.name == name

/-- The most levels an emitted tree may have. -/
def maxDepth : Nat := 1024

/-- How nodes of one source are laid out. -/
structure Layout where
  source : List Char
  index : CharIndex
  shape : Shape
  options : ShapeOptions

namespace Layout

def ofSource (source : List Char) (shape : Shape) (options : ShapeOptions) : Layout :=
  ⟨source, CharIndex.ofSource source, shape, options⟩

/-- Whether a node other than the root is kept. -/
def keeps (layout : Layout) (info : NodeInfo) : Bool :=
  info.named || layout.options.includeAnonymous

/-- Line from one and column from `base`. -/
def lineColumn (layout : Layout) (byte : Nat) (point : Point) (base : Nat) :
    List (String × Json) :=
  [("line", .ofNat (point.row + 1)), ("column", .ofNat (layout.index.column byte point + base))]

/-- Offset, line from one and column from `base`. -/
def position (layout : Layout) (byte : Nat) (point : Point) (base : Nat) : Json :=
  .ofFields (("offset", .ofNat (layout.index.offset byte)) :: layout.lineColumn byte point base)

/-- The fields that say what and where a node is. -/
def placeFields (layout : Layout) (info : NodeInfo) : List (String × Json) :=
  match layout.shape with
  | .estree =>
    let start := layout.index.offset info.startByte
    let stop := layout.index.offset info.stopByte
    [("type", .str info.kind), ("start", .ofNat start), ("end", .ofNat stop)] ++
      (if layout.options.loc then
        [("loc", .ofFields
          [("start", .ofFields (layout.lineColumn info.startByte info.startPoint 0)),
           ("end", .ofFields (layout.lineColumn info.stopByte info.stopPoint 0))])]
      else []) ++
      (if layout.options.range then [("range", .arr [.ofNat start, .ofNat stop])] else [])
  | .cssTree =>
    [("type", .str info.kind)] ++
      (if layout.options.positions then
        [("loc", .ofFields
          [("source", .str (layout.options.source.getD "<unknown>")),
           ("start", layout.position info.startByte info.startPoint 1),
           ("end", layout.position info.stopByte info.stopPoint 1)])]
      else [])
  | .cst =>
    [("type", .ofNat info.kindId), ("named", .bool info.named),
     ("loc", .ofFields
      [("start", layout.position info.startByte info.startPoint 0),
       ("end", layout.position info.stopByte info.stopPoint 0)])]

/-- The field a node is in. -/
def roleFields (field : Option String) : List (String × Json) :=
  (field.map fun field => ("field", Json.str field)).toList

/-- The key of a leaf's text. -/
def textKey : Shape → String
  | .cssTree => "value"
  | _ => "text"

/-- The emitted children of a node, or its text if it has none. Anonymous leaves carry text in the
shape `cst` only. -/
def contentFields (layout : Layout) (info : NodeInfo) (children : List Json) :
    List (String × Json) :=
  if !children.isEmpty then [("children", .arr children)]
  else if info.named || layout.shape == .cst then
    [(textKey layout.shape, .str (String.ofList (info.chars layout.source)))]
  else []

/-- The report on a node that lies too deep. -/
def tooDeep (layout : Layout) (info : NodeInfo) : Diagnostic :=
  info.report layout.index ("tree nesting exceeds " ++ toString maxDepth ++ " levels")

/-! ## The walk -/

/-- A node whose children are still being emitted. -/
structure Frame where
  info : NodeInfo
  /-- What is known of the node before its children. -/
  fields : List (String × Json)
  children : Array Json

/-- The frame of a node in a field, with no children yet. -/
def opened (layout : Layout) (info : NodeInfo) (field : Option String) : Frame :=
  ⟨info, layout.placeFields info ++ roleFields field, #[]⟩

/-- The emitted node of a frame. -/
def closed (layout : Layout) (frame : Frame) : Json :=
  .ofFields (frame.fields ++ layout.contentFields frame.info frame.children.toList)

/-- Puts an emitted child into a frame. -/
def Frame.add (frame : Frame) (child : Json) : Frame :=
  { frame with children := frame.children.push child }

/-- The frame of the cursor's node, when it is put on `height` frames; there is room for
`maxDepth`. -/
def push (layout : Layout) (height : Nat) (cursor : Cursor) : Except Diagnostic Frame :=
  let info := cursor.node.info
  if maxDepth ≤ height then .error (layout.tooDeep info) else .ok (layout.opened info info.field)

/-- Moves on to the first kept node among the cursor's own and its siblings behind. If there is
none, the cursor is left on the last of them. -/
def seekKept (layout : Layout) (cursor : Cursor) : Bool × Cursor :=
  if layout.keeps cursor.node.info then (true, cursor)
  else match _h : cursor.nextSibling? with
    | some next => layout.seekKept next
    | none => (false, cursor)
termination_by cursor.after
decreasing_by exact Nat.lt_of_le_of_lt (Cursor.after_le_ahead _) (Cursor.ahead_nextSibling _h)

theorem seekKept_ahead {layout : Layout} {cursor found : Cursor} {kept : Bool}
    (h : layout.seekKept cursor = (kept, found)) : found.ahead ≤ cursor.ahead := by
  fun_induction seekKept with
  | case1 =>
    cases h
    exact Nat.le_refl _
  | case2 cursor _ next hnext ih =>
    have hlt := Cursor.ahead_nextSibling hnext
    have hle := Cursor.after_le_ahead cursor
    have hfound := ih h
    omega
  | case3 =>
    cases h
    exact Nat.le_refl _

mutual

/-- The cursor is on the node of the top frame and has seen none of its children. -/
def descend (layout : Layout) (cursor : Cursor) (top : Frame) (stack : List Frame) :
    Except Diagnostic Json :=
  match _h : cursor.firstChild? with
  | some child => layout.enter child top stack
  | none => layout.climb cursor top stack
termination_by 3 * cursor.ahead + stack.length + 1
decreasing_by
  · have := Cursor.ahead_firstChild _h
    omega
  · have := cursor.after_le_ahead
    omega

/-- The cursor is on a child of the top frame's node and has seen those before it. -/
def enter (layout : Layout) (cursor : Cursor) (top : Frame) (stack : List Frame) :
    Except Diagnostic Json :=
  match _h : layout.seekKept cursor with
  | (true, kept) => do
    let frame ← layout.push (stack.length + 1) kept
    layout.descend kept frame (top :: stack)
  | (false, last) => layout.climb last.parent top stack
termination_by 3 * cursor.ahead + stack.length + 3
decreasing_by
  · have := seekKept_ahead _h
    simp only [List.length_cons]
    omega
  · have := seekKept_ahead _h
    have := last.after_parent
    have := last.after_le_ahead
    omega

/-- The cursor is on the node of the top frame and has seen all its children. -/
def climb (layout : Layout) (cursor : Cursor) (top : Frame) (stack : List Frame) :
    Except Diagnostic Json :=
  match stack with
  | [] => .ok (layout.closed top)
  | below :: rest =>
    let below := below.add (layout.closed top)
    match _h : cursor.nextSibling? with
    | some next => layout.enter next below rest
    | none => layout.climb cursor.parent below rest
termination_by 3 * cursor.after + stack.length
decreasing_by
  · have := Cursor.ahead_nextSibling _h
    simp only [List.length_cons]
    omega
  · have := cursor.after_parent
    simp only [List.length_cons]
    omega

end

/-- Emits a whole tree. The root is always kept and is in no field. -/
def convert (layout : Layout) (tree : Tree) : Except Diagnostic Json :=
  layout.descend (.ofTree tree) (layout.opened tree.info none) []

end Layout

end Arboretum
