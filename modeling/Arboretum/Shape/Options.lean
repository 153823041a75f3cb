import Arboretum.Engine.Diagnostic

/-!
# Shape options

What the options of an engine say about the tree it emits. Unknown keys are ignored, known keys
with a value of the wrong type are refused.
-/

namespace Arboretum

/-- The options every shape understands. -/
structure ShapeOptions where
  /-- Keep anonymous nodes. -/
  includeAnonymous : Bool := false
  /-- Refuse sources with errors. -/
  strict : Bool := false
  /-- Lines and columns under `loc`. -/
  loc : Bool := false
  /-- Offsets under `range`. -/
  range : Bool := false
  /-- Positions under `loc`. -/
  positions : Bool := false
  /-- The name of the source in positions. -/
  source : Option String := none
  deriving DecidableEq, Repr

namespace ShapeOptions

/-- A key with a value of the wrong type. -/
def mistyped (key expected : String) (got : Json) : Diagnostic :=
  .plain ("invalid option `" ++ key ++ "`: expected " ++ expected ++ ", got " ++ got.typeName)

/-- A flag; off when absent or null. -/
def flag (fields : Fields) (key : String) : Except Diagnostic Bool :=
  match Fields.get? fields key with
  | none => .ok false
  | some .null => .ok false
  | some (.bool b) => .ok b
  | some other => .error (mistyped key "boolean" other)

/-- The name of the source; none when absent or null. -/
def sourceName (fields : Fields) : Except Diagnostic (Option String) :=
  match Fields.get? fields "source" with
  | none => .ok none
  | some .null => .ok none
  | some (.str s) => .ok (some s)
  | some other => .error (mistyped "source" "string" other)

/-- Reads the options; `null` stands for none. -/
def ofJson : Json → Except Diagnostic ShapeOptions
  | .null => .ok {}
  | .obj fields => do
    let source ← sourceName fields
    let includeAnonymous ← flag fields "includeAnonymous"
    let strict ← flag fields "strict"
    let loc ← flag fields "loc"
    let range ← flag fields "range"
    let positions ← flag fields "positions"
    return { includeAnonymous, strict, loc, range, positions, source }
  | other => .error (.plain ("options must be an object, got " ++ other.typeName))

end ShapeOptions

end Arboretum
