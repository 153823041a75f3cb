import Arboretum.Json.Basic
import Arboretum.Text.CharIndex
import Arboretum.Text.Lines

/-!
# Source ranges

A `Location` is a range of character offsets or a pair of line/column points. `Location.slice`
cuts the located text out of a source; it answers nothing when the range is inverted or reaches
outside the source.
-/

namespace Arboretum

/-- A resolved source range. -/
inductive Location where
  /-- Character offsets, the end excluded. -/
  | offsets (start stop : Nat)
  /-- Points as an engine reports them: lines from one, columns from zero. -/
  | lineColumn (startLine startColumn endLine endColumn : Nat)
  deriving DecidableEq, Repr

namespace Location

/-- The offsets, if the range is given by offsets. -/
def offsets? : Location → Option (Nat × Nat)
  | .offsets start stop => some (start, stop)
  | .lineColumn .. => none

/-- The two offsets of a range in a source, if its points exist, in numbers of some type. -/
def spanIn? {N : Type} [Add N] [DecidableEq N] [LE N] [DecidableLE N] (ofNat : Nat → N)
    (source : List Char) : Location → Option (N × N)
  | .offsets start stop => some (ofNat start, ofNat stop)
  | .lineColumn startLine startColumn endLine endColumn => do
    let start ← Text.offsetIn? ofNat source startLine startColumn
    let stop ← Text.offsetIn? ofNat source endLine endColumn
    return (start, stop)

/-- The two offsets of a range in a source, if its points exist. -/
def span? (source : List Char) (location : Location) : Option (Nat × Nat) :=
  location.spanIn? id source

/-- The characters of a source from offset `start` up to offset `stop`, cut out at the bytes of the
two. -/
def charsBetween? (source : List Char) (start stop : Nat) : Option (List Char) :=
  if stop < start then none
  else do
    let first ← Text.byteOf? source start
    let last ← Text.byteOf? source stop
    Text.bytesBetween? source first last

/-- The located characters. -/
def sliceChars (location : Location) (source : List Char) : Option (List Char) := do
  let (start, stop) ← location.span? source
  charsBetween? source start stop

/-- The located text. -/
def slice (location : Location) (source : String) : Option String :=
  (location.sliceChars source.toList).map String.ofList

/-- The fields of a range, in their own order. -/
def toFields : Location → List (String × Json)
  | .offsets start stop => [("start", .ofNat start), ("end", .ofNat stop)]
  | .lineColumn startLine startColumn endLine endColumn =>
    [("startLine", .ofNat startLine), ("startColumn", .ofNat startColumn),
     ("endLine", .ofNat endLine), ("endColumn", .ofNat endColumn)]

/-- A range as a JSON object. -/
def toJson (location : Location) : Json := .ofFields location.toFields

end Location

end Arboretum
