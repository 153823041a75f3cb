import Arboretum.Number.Shortest
import Arboretum.Toml.Basic

/-!
# Writing TOML text

A document is a list of blocks (`Toml.Block`): the plain values of a table under its header, then
the blocks of the tables and arrays of tables within it, each group in key order. Arrays of two
and more items stand on lines of their own; strings take the plainest form that needs no escapes.
-/

namespace Arboretum

namespace TomlText

/-- The longest run of a character. -/
def longestRun (c : Char) (cs : List Char) : Nat :=
  (cs.foldl (fun (best, run) d =>
    let run := if d == c then run + 1 else 0
    (max best run, run)) (0, 0)).1

/-- Control characters that only an escape can write. -/
def needsEscape (c : Char) : Bool :=
  (c.toNat < 0x20 && c != '\t' && c != '\n') || c.toNat == 0x7f

/-- The kinds of string in TOML. -/
inductive StringForm where
  | basic
  | literal
  | longBasic
  | longLiteral
  deriving DecidableEq, Repr

/-- The plainest form for a text. -/
def stringForm (cs : List Char) : StringForm :=
  let escapes := cs.any needsEscape
  let backslash := cs.contains '\\'
  let newline := cs.contains '\n'
  let doubles := longestRun '"' cs
  let singles := longestRun '\'' cs
  if !escapes && !backslash && doubles == 0 && !newline then .basic
  else if !escapes && singles == 0 && !newline then .literal
  else if !escapes && !backslash && doubles ≤ 2 then .longBasic
  else if !escapes && singles ≤ 2 then .longLiteral
  else if newline then .longBasic
  else .basic

def upperHex (n : Nat) : List Char := (Nat.toDigits 16 n).map Char.toUpper

/-- A character of a basic string other than a quote. -/
def basicChar (long : Bool) (c : Char) : List Char :=
  if c == '\x08' then ['\\', 'b']
  else if c == '\t' then ['\\', 't']
  else if c == '\n' then if long then ['\n'] else ['\\', 'n']
  else if c == '\x0c' then ['\\', 'f']
  else if c == '\r' then ['\\', 'r']
  else if c == '\\' then ['\\', '\\']
  else if c.toNat < 0x20 || c.toNat == 0x7f then
    let digits := upperHex c.toNat
    '\\' :: 'u' :: List.replicate (4 - digits.length) '0' ++ digits
  else [c]

/-- The characters of a basic string; a long one may hold two quotes in a row, a short one none. -/
def basicChars (long : Bool) : (quotes : Nat) → List Char → List Char
  | _, [] => []
  | quotes, c :: rest =>
    if c == '"' then
      if quotes < (if long then 2 else 0) then '"' :: basicChars long (quotes + 1) rest
      else '\\' :: '"' :: basicChars long 0 rest
    else basicChar long c ++ basicChars long 0 rest

/-- A string value. -/
def writeString (s : String) : String :=
  let cs := s.toList
  let lead := if cs.contains '\n' then ['\n'] else []
  String.ofList <| match stringForm cs with
    | .basic => '"' :: basicChars false 0 cs ++ ['"']
    | .literal => '\'' :: cs ++ ['\'']
    | .longBasic => '"' :: '"' :: '"' :: lead ++ basicChars true 0 cs ++ ['"', '"', '"']
    | .longLiteral => '\'' :: '\'' :: '\'' :: lead ++ cs ++ ['\'', '\'', '\'']

def isBareKey (cs : List Char) : Bool :=
  !cs.isEmpty && cs.all fun c =>
    ('a' ≤ c && c ≤ 'z') || ('A' ≤ c && c ≤ 'Z') || ('0' ≤ c && c ≤ '9') || c == '-' || c == '_'

/-- A key, in quotes where it needs them. -/
def writeKey (key : String) : String :=
  let cs := key.toList
  let escapes := cs.any fun c => needsEscape c || c == '\n'
  if isBareKey cs then key
  else if !escapes && !cs.contains '\\' && !cs.contains '"' then
    String.ofList ('"' :: basicChars false 0 cs ++ ['"'])
  else if !escapes && !cs.contains '\'' then String.ofList ('\'' :: cs ++ ['\''])
  else String.ofList ('"' :: basicChars false 0 cs ++ ['"'])

/-- A float; not-a-number carries no sign. -/
def writeFloat : TomlFloat → String
  | .finite x => DecimalText.plain.write x
  | .infinite negative => if negative then "-inf" else "inf"
  | .nan => "nan"

end TomlText

open TomlText

namespace Toml

/-- Items of an array: one or none on the line, more of them on lines of their own. -/
def bracketItems (items : List String) : String :=
  if items.length ≤ 1 then "[" ++ String.intercalate ", " items ++ "]"
  else "[" ++ String.intercalate "," (items.map ("\n    " ++ ·)) ++ ",\n]"

mutual

/-- A value on the right of an equals sign; tables are inline. -/
def inline : Toml → String
  | .str s => writeString s
  | .int n => toString n
  | .float x => writeFloat x
  | .bool b => if b then "true" else "false"
  | .datetime d => d.text
  | .arr items => bracketItems (inlineList items)
  | .table entries =>
    if entries.isEmpty then "\x7b\x7d"
    else "\x7b " ++ String.intercalate ", " (inlinePairs entries) ++ " \x7d"

def inlineList : List Toml → List String
  | [] => []
  | v :: rest => inline v :: inlineList rest

def inlinePairs : List (String × Toml) → List String
  | [] => []
  | (k, v) :: rest => (writeKey k ++ " = " ++ inline v) :: inlinePairs rest

end

/-- An array whose items are all tables, and which is not empty, is written under headers. -/
def isTableArray : Toml → Bool
  | .arr items => !items.isEmpty && items.all isTable
  | _ => false

/-- A block of a document: an optional header line and pairs below it. -/
structure Block where
  header : Option String
  pairs : List String

/-- Whether an entry gets headers of its own. -/
def hasHeader (v : Toml) : Bool := v.isTable || v.isTableArray

def pairLines (entries : List (String × Toml)) : List String :=
  (entries.filter fun e => !e.2.hasHeader).map fun e => writeKey e.1 ++ " = " ++ e.2.inline

def headerPath (path : List String) : String := String.intercalate "." (path.map writeKey)

/-- The block of a table: a header is left out when the table holds tables only. -/
def tableBlock (path : List String) (entries : List (String × Toml)) : Block :=
  let pairs := pairLines entries
  ⟨if entries.isEmpty || !pairs.isEmpty then some ("[" ++ headerPath path ++ "]") else none, pairs⟩

def elementBlock (path : List String) (entries : List (String × Toml)) : Block :=
  ⟨some ("[[" ++ headerPath path ++ "]]"), pairLines entries⟩

mutual

/-- The blocks of a value under a path; a plain value has none. -/
def blocks (path : List String) : Toml → List Block
  | .table entries => tableBlock path entries :: entryBlocks path entries
  | .arr items => if (Toml.arr items).isTableArray then elementBlocks path items else []
  | _ => []

/-- The blocks of the entries of a table, in the order in which the entries stand. -/
def entryBlocks (path : List String) : List (String × Toml) → List Block
  | [] => []
  | (k, v) :: rest => blocks (path ++ [k]) v ++ entryBlocks path rest

/-- The blocks of the elements of an array of tables. -/
def elementBlocks (path : List String) : List Toml → List Block
  | [] => []
  | .table entries :: rest =>
    elementBlock path entries :: (entryBlocks path entries ++ elementBlocks path rest)
  | _ :: rest => elementBlocks path rest

end

/-- A block as lines. -/
def Block.lines (b : Block) : List String := b.header.toList ++ b.pairs

/-- The text of blocks: every header but one at the beginning has an empty line before it. -/
def joinBlocks (blocks : List Block) : String :=
  let shown := blocks.filter fun b => b.header.isSome || !b.pairs.isEmpty
  String.intercalate "\n" (shown.map fun b => String.join (b.lines.map (· ++ "\n")))

end Toml

end Arboretum
