/-!
# Bytes and characters

Syntax trees give byte positions, their readers want character offsets. `charsBefore` counts the
characters that end at or before a byte; `CharIndex` answers the same question from a table, or
without one when every character is a single byte; `byteOf?` goes the other way. `bytesBetween?`
cuts a byte range that begins and ends between characters.
-/

namespace Arboretum

/-- A place in a source: row from zero, column in bytes. -/
structure Point where
  row : Nat
  column : Nat
  deriving DecidableEq, Repr

namespace Text

/-- Number of bytes of the UTF-8 form. -/
def byteLength : List Char → Nat
  | [] => 0
  | c :: cs => c.utf8Size + byteLength cs

/-- How many leading characters lie whole within the first `byte` bytes. -/
def charsBefore : List Char → (byte : Nat) → Nat
  | [], _ => 0
  | c :: cs, byte => if c.utf8Size ≤ byte then charsBefore cs (byte - c.utf8Size) + 1 else 0

/-- The characters behind the first `n` bytes, if a character begins or the text ends there. -/
def dropBytes? : List Char → (n : Nat) → Option (List Char)
  | cs, 0 => some cs
  | [], _ + 1 => none
  | c :: cs, n + 1 => if c.utf8Size ≤ n + 1 then dropBytes? cs (n + 1 - c.utf8Size) else none

/-- The characters of the first `n` bytes, if the last of them ends there. -/
def takeBytes? : List Char → (n : Nat) → Option (List Char)
  | _, 0 => some []
  | [], _ + 1 => none
  | c :: cs, n + 1 =>
    if c.utf8Size ≤ n + 1 then (takeBytes? cs (n + 1 - c.utf8Size)).map (c :: ·) else none

/-- The characters from byte `start` up to byte `stop`, when both lie between characters. -/
def bytesBetween? (cs : List Char) (start stop : Nat) : Option (List Char) :=
  if stop < start then none else (dropBytes? cs start).bind (takeBytes? · (stop - start))

/-- The byte at which each character begins, counted from `byte`, and last the byte at which the
text ends. -/
def byteStarts : (byte : Nat) → List Char → List Nat
  | byte, [] => [byte]
  | byte, c :: cs => byte :: byteStarts (byte + c.utf8Size) cs

/-- The byte of a character offset; the offset behind the last character has one too. -/
def byteOf? (cs : List Char) (offset : Nat) : Option Nat := (byteStarts 0 cs)[offset]?

end Text

/-- Maps byte positions of one source to character offsets. -/
structure CharIndex where
  /-- Length of the source in bytes. -/
  size : Nat
  /-- For every byte the index of its character, and last the number of characters; empty when
  every character is one byte. -/
  table : Array Nat
  deriving DecidableEq, Repr

namespace CharIndex

/-- For every byte the index of its character, counted from `i`, and last the count. -/
def owners : (i : Nat) → List Char → List Nat
  | i, [] => [i]
  | i, c :: cs => List.replicate c.utf8Size i ++ owners (i + 1) cs

/-- The index of a source. -/
def ofSource (source : List Char) : CharIndex :=
  if source.all fun c => c.toNat < 128 then ⟨source.length, #[]⟩
  else ⟨Text.byteLength source, (owners 0 source).toArray⟩

/-- The character offset of a byte; past the end, the number of characters. -/
def offset (index : CharIndex) (byte : Nat) : Nat :=
  if index.table.isEmpty then min byte index.size
  else index.table.getD (min byte (index.table.size - 1)) 0

/-- The character column of a point at `byte`, from zero. -/
def column (index : CharIndex) (byte : Nat) (point : Point) : Nat :=
  index.offset byte - index.offset (byte - point.column)

end CharIndex

end Arboretum
