import Arboretum.Json.Reader
import Arboretum.Text.Split

/-!
# Pointers into JSON values

A pointer is a path of segments, each after a slash; the empty pointer is the value itself. In a
segment `~1` stands for a slash and `~0` for a tilde.
-/

namespace Arboretum

namespace Pointer

/-- A segment with its escapes resolved. -/
def unescape : List Char → List Char
  | '~' :: '1' :: rest => '/' :: unescape rest
  | '~' :: '0' :: rest => '~' :: unescape rest
  | c :: rest => c :: unescape rest
  | [] => []

/-- A position in an array: decimal digits without leading zeros. -/
def index? (segment : List Char) : Option Nat :=
  match segment with
  | [] => none
  | ['0'] => some 0
  | '0' :: _ => none
  | digits => if digits.all Char.isDigit then some (JsonText.digitsValue digits) else none

/-- The segments of a pointer. -/
def segments? (pointer : String) : Option (List (List Char)) :=
  match pointer.toList with
  | [] => some []
  | '/' :: rest => some ((Text.splitOn '/' rest).map unescape)
  | _ => none

/-- The value a segment leads to. -/
def enter? (segment : List Char) : Json → Option Json
  | .obj fields => Fields.get? fields (String.ofList segment)
  | .arr items => (index? segment).bind (items[·]?)
  | _ => none

end Pointer

/-- The value at a pointer. -/
def Json.pointer? (value : Json) (pointer : String) : Option Json := do
  let segments ← Pointer.segments? pointer
  segments.foldlM (fun v segment => Pointer.enter? segment v) value

end Arboretum
