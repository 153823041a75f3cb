import Arboretum.Toml.Document
import Arboretum.Toml.Scalar

/-!
# Reading TOML text

`Toml.read` reads a whole document: pairs, sections, comments and blank lines. Arrays and inline
tables may be nested 79 deep, and a dotted key has fewer than 80 parts.
-/

namespace Arboretum

namespace TomlText

/-- Nesting allowed for arrays and inline tables. -/
def maxDepth : Nat := 79

/-- A dotted key has fewer parts than this. -/
def maxKeyParts : Nat := 80

def isBareKeyChar (c : Char) : Bool :=
  ('a' ≤ c && c ≤ 'z') || ('A' ≤ c && c ≤ 'Z') || ('0' ≤ c && c ≤ '9') || c == '-' || c == '_'

/-- One part of a key: bare or in quotes. -/
def keyPart : List Char → Option (String × List Char)
  | '"' :: rest => basicString rest
  | '\'' :: rest => literalString rest
  | cs =>
    match cs.takeWhile isBareKeyChar with
    | [] => none
    | part => some (String.ofList part, cs.drop part.length)

/-- The parts of a dotted key, with blanks around them skipped. -/
def keyParts : (fuel : Nat) → List Char → Option (List String × List Char)
  | 0, _ => none
  | fuel + 1, cs => do
    let (part, rest) ← keyPart (skipBlank cs)
    match skipBlank rest with
    | '.' :: rest => do
      let (parts, rest) ← keyParts fuel rest
      some (part :: parts, rest)
    | rest => some ([part], rest)

/-- A dotted key: the parts before the last, and the last. -/
def dottedKey (cs : List Char) : Option ((List String × String) × List Char) := do
  let (parts, rest) ← keyParts (cs.length + 1) cs
  if parts.length < maxKeyParts then
    let key ← parts.getLast?
    some ((parts.dropLast, key), rest)
  else none

/-- Drops a comment, if there is one, up to the end of its line. -/
def skipComment : List Char → List Char
  | '#' :: rest => rest.dropWhile isPlain
  | cs => cs

/-- The end of a line or of the text. -/
def lineEnd? : List Char → Option (List Char)
  | [] => some []
  | cs => newline? cs

/-- Blanks, a comment and the end of the line. -/
def restOfLine? (cs : List Char) : Option (List Char) := lineEnd? (skipComment (skipBlank cs))

/-- Blanks, comments and line ends between the items of an array. -/
def skipGap : (fuel : Nat) → List Char → Option (List Char)
  | 0, cs => some cs
  | fuel + 1, cs =>
    match skipBlank cs with
    | '#' :: rest =>
      match newline? (rest.dropWhile isPlain) with
      | some rest => skipGap fuel rest
      | none => none
    | '\n' :: rest => skipGap fuel rest
    | '\r' :: '\n' :: rest => skipGap fuel rest
    | rest => some rest

mutual

/-- A value, with `depth` levels of nesting left. -/
def value : (fuel depth : Nat) → List Char → Option (Toml × List Char)
  | 0, _, _ => none
  | fuel + 1, depth, cs =>
    match cs with
    | '"' :: _ => (stringValue cs).map fun (s, rest) => (.str s, rest)
    | '\'' :: _ => (stringValue cs).map fun (s, rest) => (.str s, rest)
    | 't' :: 'r' :: 'u' :: 'e' :: rest => some (.bool true, rest)
    | 'f' :: 'a' :: 'l' :: 's' :: 'e' :: rest => some (.bool false, rest)
    | '[' :: rest =>
      match depth with
      | 0 => none
      | depth + 1 => elements fuel depth [] rest
    | '\x7b' :: rest =>
      match depth with
      | 0 => none
      | depth + 1 =>
        match skipBlank rest with
        | '\x7d' :: rest => some (.table [], rest)
        | rest => inlinePairs fuel depth [] rest
    | cs => numeral cs

/-- The items of an array up to and with the closing bracket; a comma may follow the last one. -/
def elements : (fuel depth : Nat) → (acc : List Toml) → List Char → Option (Toml × List Char)
  | 0, _, _, _ => none
  | fuel + 1, depth, acc, cs => do
    let cs ← skipGap (cs.length + 1) cs
    match cs with
    | ']' :: rest => some (.arr acc.reverse, rest)
    | cs => do
      let (v, rest) ← value fuel depth cs
      let rest ← skipGap (rest.length + 1) rest
      match rest with
      | ',' :: rest => elements fuel depth (v :: acc) rest
      | ']' :: rest => some (.arr (v :: acc).reverse, rest)
      | _ => none

/-- The pairs of an inline table up to and with the closing brace; they stand on one line. -/
def inlinePairs : (fuel depth : Nat) → (acc : List TomlPair) → List Char →
    Option (Toml × List Char)
  | 0, _, _, _ => none
  | fuel + 1, depth, acc, cs => do
    let ((path, key), rest) ← dottedKey cs
    let rest ← char '=' rest
    let (v, rest) ← value fuel depth (skipBlank rest)
    let acc := ⟨path, key, v⟩ :: acc
    match skipBlank rest with
    | ',' :: rest => inlinePairs fuel depth acc rest
    | '\x7d' :: rest => do
      let entries ← TomlEntries.addPairs [] acc.reverse
      some (.table (TomlItem.finishEntries entries), rest)
    | _ => none

end

/-- A line with content. -/
inductive Line where
  | pair (p : TomlPair)
  | header (h : TomlHeader)

def pairLine (cs : List Char) : Option (Line × List Char) := do
  let ((path, key), rest) ← dottedKey cs
  let rest ← char '=' rest
  let (v, rest) ← value (2 * rest.length + 2) maxDepth (skipBlank rest)
  let rest ← restOfLine? rest
  some (.pair ⟨path, key, v⟩, rest)

def headerLine : List Char → Option (Line × List Char)
  | '[' :: cs => do
    let ((path, key), rest) ← dottedKey cs
    let rest ← char ']' rest
    let rest ← char ']' rest
    let rest ← restOfLine? rest
    some (.header (.element path key), rest)
  | cs => do
    let ((path, key), rest) ← dottedKey cs
    let rest ← char ']' rest
    let rest ← restOfLine? rest
    some (.header (.table path key), rest)

/-- One line from its first character that is not blank: its content, if it has any, and the lines
behind it. -/
def readLine : List Char → Option (Option Line × List Char)
  | '#' :: rest => (lineEnd? (skipComment ('#' :: rest))).map fun rest => (none, rest)
  | '[' :: rest => (headerLine rest).map fun (line, rest) => (some line, rest)
  | cs =>
    match newline? cs with
    | some rest => some (none, rest)
    | none => (pairLine cs).map fun (line, rest) => (some line, rest)

/-- The lines with content of a whole text, or the beginning of the first line that cannot be
read. -/
def contentLines : (fuel : Nat) → (acc : List Line) → List Char → Except (List Char) (List Line)
  | 0, _, cs => .error cs
  | fuel + 1, acc, cs =>
    match skipBlank cs with
    | [] => .ok acc.reverse
    | cs =>
      match readLine cs with
      | none => .error cs
      | some (line, rest) => contentLines fuel (line.toList ++ acc) rest

/-- Gathers lines into the pairs before the first header, and sections. -/
def gather (lines : List Line) : List TomlPair × List TomlSection :=
  lines.foldr (fun line (pairs, sections) =>
    match line with
    | .pair p => (p :: pairs, sections)
    | .header h => ([], ⟨h, pairs⟩ :: sections)) ([], [])

/-- A byte order mark at the beginning is skipped. -/
def skipMark : List Char → List Char
  | '\ufeff' :: rest => rest
  | cs => cs

end TomlText

/-- The entries of a TOML document, or the characters from the line on at which reading stopped;
that is the end of the text when the lines do not fit together. -/
def Toml.read (text : String) : Except (List Char) (List (String × Toml)) := do
  let cs := TomlText.skipMark text.toList
  let lines ← TomlText.contentLines (cs.length + 1) [] cs
  let (pairs, sections) := TomlText.gather lines
  match buildDocument pairs sections with
  | some entries => .ok entries
  | none => .error []

end Arboretum
