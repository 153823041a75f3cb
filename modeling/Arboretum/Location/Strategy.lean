import Arboretum.Location.Basic
import Arboretum.Text.Quoted

/-!
# Location strategies

Each adapter declares where its nodes carry their source range: two number fields, one field with a
pair of numbers, or two points inside a nested object. `Strategy.resolve` reads a range off a node;
a node without usable data has no location.
-/

namespace Arboretum

/-- Where the two offsets of a node are. -/
inductive OffsetFields where
  /-- Two number fields of the node. -/
  | pair (start stop : String)
  /-- One field with a pair of numbers. -/
  | tuple (field : String)
  deriving DecidableEq, Repr

/-- What the points of a nested location look like. -/
inductive PointShape where
  /-- Points with `line` and `column`. -/
  | lineColumn
  /-- Points with an offset under the given key. -/
  | offset (field : String)
  deriving DecidableEq, Repr

/-- Where a nested location object is: `container` is a dotted path from the node. -/
structure StructuredPath where
  container : String
  start : String
  stop : String
  point : PointShape
  deriving DecidableEq, Repr

/-- The rule by which an adapter locates nodes. -/
inductive Strategy where
  | offsets (fields : OffsetFields)
  | structured (path : StructuredPath)
  deriving DecidableEq, Repr

namespace StructuredPath

/-- Points with line and column under `loc`. -/
def loc : StructuredPath := ⟨"loc", "start", "end", .lineColumn⟩

/-- Points with an offset under `loc`. -/
def locOffset : StructuredPath := ⟨"loc", "start", "end", .offset "offset"⟩

/-- The keys from the node to the object with the points. -/
def segments (path : StructuredPath) : List String := Text.parts '.' path.container

/-- The first of the keys. -/
def firstKey (path : StructuredPath) : String := path.segments.head?.getD path.container

/-- Follows the keys behind the first one, from the value under that. -/
def lookup (path : StructuredPath) (root : Json) : Option Json :=
  (path.segments.drop 1).foldlM Json.get? root

end StructuredPath

namespace Strategy

/-- Offsets under `start` and `end`. -/
def startEnd : Strategy := .offsets (.pair "start" "end")

/-- The largest offset, `2 ^ 64 - 1`. -/
def maxOffset : Nat := twoPow 64 - 1

/-- A number as an offset: whole and not negative. A double of exactly `2 ^ 64` is taken down to
the largest offset, a larger one is refused. -/
def asOffset : Json → Option Nat
  | .num (.int n) => if 0 ≤ n then some n.toNat else none
  | .num (.float x) => do
    let n ← x.toNat?
    if n ≤ twoPow 64 then some (min n maxOffset) else none
  | _ => none

/-- A range of offsets that is not inverted. -/
def ordered (start stop : Nat) : Option Location :=
  if start ≤ stop then some (.offsets start stop) else none

/-- A range of points that is not inverted. -/
def orderedPoints (start stop : Nat × Nat) : Option Location :=
  if stop.1 < start.1 || (stop.1 == start.1 && stop.2 < start.2) then none
  else some (.lineColumn start.1 start.2 stop.1 stop.2)

/-- Line and column of a point. -/
def lineColumn (point : Json) : Option (Nat × Nat) := do
  let line ← asOffset (← point.get? "line")
  let column ← asOffset (← point.get? "column")
  return (line, column)

/-- Reads two points of a nested location. -/
def resolvePoints : PointShape → (start stop : Json) → Option Location
  | .offset field, start, stop => do
    let s ← asOffset (← start.get? field)
    let e ← asOffset (← stop.get? field)
    ordered s e
  | .lineColumn, start, stop => do
    let s ← lineColumn start
    let e ← lineColumn stop
    orderedPoints s e

/-- The source range of a node, if it carries one. -/
def resolve : Strategy → (node : Json) → Option Location
  | .offsets (.pair start stop), .obj fields => do
    let s ← asOffset (← Fields.get? fields start)
    let e ← asOffset (← Fields.get? fields stop)
    ordered s e
  | .offsets (.tuple field), .obj fields => do
    match ← Fields.get? fields field with
    | .arr [start, stop] => ordered (← asOffset start) (← asOffset stop)
    | _ => none
  | .structured path, .obj fields => do
    let container ← path.lookup (← Fields.get? fields path.firstKey)
    resolvePoints path.point (← container.get? path.start) (← container.get? path.stop)
  | _, _ => none

end Strategy

/-! ## Descriptions -/

def PointShape.describe : PointShape → String
  | .lineColumn => "LineColumn"
  | .offset field => "Offset(" ++ Text.quoted field ++ ")"

/-- A strategy spelled out with its field names. -/
def Strategy.describe : Strategy → String
  | .offsets (.pair start stop) =>
    "Offsets(" ++
      Text.record "Pair" [("start", Text.quoted start), ("end", Text.quoted stop)] ++ ")"
  | .offsets (.tuple field) => "Offsets(Tuple(" ++ Text.quoted field ++ "))"
  | .structured path =>
    "Structured(" ++ Text.record "StructuredPath"
      [("container", Text.quoted path.container), ("start", Text.quoted path.start),
       ("end", Text.quoted path.stop), ("point", path.point.describe)] ++ ")"

end Arboretum
