import Arboretum.Text.Split

/-!
# Lines and columns

A source has one line more than it has line feeds. `charOffset?` gives the character offset of a
line/column point, lines from one and columns from zero; a point exists when its line does and its
column is at most the width of that line.

The search for a point counts in numbers of some type, given by how it writes a natural number. On
natural numbers every sum is exact; on machine words (`wordOffset?`) sums wrap around.
-/

namespace Arboretum

namespace Text

/-- The lines of a source, without their line feeds. -/
def lines (source : List Char) : List (List Char) := splitOn '\n' source

/-- What is found at the line of a point. -/
structure PointSum (N : Type) where
  /-- The characters before the line and the column, added up. -/
  sum : N
  /-- Whether the line reaches to the column. -/
  onLine : Bool
  deriving DecidableEq, Repr

namespace PointSum

/-- The sum is the offset of the point if there is such a point. -/
def offset? {N : Type} (found : PointSum N) : Option N :=
  if found.onLine then some found.sum else none

end PointSum

section Search

variable {N : Type} [Add N] [DecidableEq N] [LE N] [DecidableLE N]

/-- Goes through lines for a point, of which the first has number `index + 1` and begins at
`offset`. At the line of the point the sum is made, whether or not the line reaches to the
column. -/
def pointSum? (ofNat : Nat → N) (line column : N) :
    (lines : List (List Char)) → (index offset : N) → Option (PointSum N)
  | [], _, _ => none
  | text :: rest, index, offset =>
    let width := ofNat text.length
    if index + ofNat 1 = line then some ⟨offset + column, column ≤ width⟩
    else pointSum? ofNat line column rest (index + ofNat 1) (offset + (width + ofNat 1))

/-- The offset of a point among lines. -/
def offsetFrom? (ofNat : Nat → N) (line column : N) (lines : List (List Char))
    (index offset : N) : Option N :=
  (pointSum? ofNat line column lines index offset).bind PointSum.offset?

/-- The offset of a point of a source. -/
def offsetIn? (ofNat : Nat → N) (source : List Char) (line column : Nat) : Option N :=
  offsetFrom? ofNat (ofNat line) (ofNat column) (lines source) (ofNat 0) (ofNat 0)

end Search

/-- The character offset of a line/column point. -/
def charOffset? (source : List Char) (line column : Nat) : Option Nat :=
  offsetIn? id source line column

/-- The offset of a point among lines on machine words. -/
def wordOffset? (line column : UInt64) (lines : List (List Char)) (index offset : UInt64) :
    Option UInt64 :=
  offsetFrom? UInt64.ofNat line column lines index offset

end Text

end Arboretum
