import Arboretum.Json.Basic

/-!
# Reading JSON text

A reader takes the characters left and gives a value with the characters behind it, or the
characters at which it stopped. `Json.readRaw` keeps the fields of an object as written;
`Json.read` puts them in key order, the last of two fields with one key winning.
-/

namespace Arboretum

/-- The outcome of a reading step, or the characters at which it stopped. -/
abbrev Reading := Except (List Char)

namespace JsonText

def isBlank (c : Char) : Bool := c == ' ' || c == '\n' || c == '\t' || c == '\r'

def skipBlank (cs : List Char) : List Char := cs.dropWhile isBlank

/-- Containers may be nested this deep. -/
def maxDepth : Nat := 127

/-- The value of a run of decimal digits. -/
def digitsValue (cs : List Char) : Nat := cs.foldl (fun n c => 10 * n + (c.toNat - '0'.toNat)) 0

/-- The value of a hexadecimal digit of either case. -/
def hexValue? (c : Char) : Option Nat :=
  if '0' ≤ c && c ≤ '9' then some (c.toNat - '0'.toNat)
  else if 'a' ≤ c && c ≤ 'f' then some (c.toNat - 'a'.toNat + 10)
  else if 'A' ≤ c && c ≤ 'F' then some (c.toNat - 'A'.toNat + 10)
  else none

/-- Four hexadecimal digits. -/
def hex4 : List Char → Reading (Nat × List Char)
  | a :: b :: c :: d :: rest =>
    match hexValue? a, hexValue? b, hexValue? c, hexValue? d with
    | some a, some b, some c, some d => .ok (((a * 16 + b) * 16 + c) * 16 + d, rest)
    | _, _, _, _ => .error (a :: b :: c :: d :: rest)
  | cs => .error cs

/-- The character behind `\u`: a scalar value, or the first half of a pair with its second half. -/
def unicodeEscape (cs : List Char) : Reading (Char × List Char) := do
  let (n, rest) ← hex4 cs
  if 0xD800 ≤ n && n < 0xDC00 then
    match rest with
    | '\\' :: 'u' :: rest' =>
      let (m, rest'') ← hex4 rest'
      if 0xDC00 ≤ m && m < 0xE000 then
        return (Char.ofNat (0x10000 + (n - 0xD800) * 0x400 + (m - 0xDC00)), rest'')
      else .error rest
    | _ => .error rest
  else if 0xDC00 ≤ n && n < 0xE000 then .error cs
  else return (Char.ofNat n, rest)

/-- The character behind a backslash. -/
def escape : List Char → Reading (Char × List Char)
  | '"' :: rest => .ok ('"', rest)
  | '\\' :: rest => .ok ('\\', rest)
  | '/' :: rest => .ok ('/', rest)
  | 'b' :: rest => .ok ('\x08', rest)
  | 'f' :: rest => .ok ('\x0c', rest)
  | 'n' :: rest => .ok ('\n', rest)
  | 'r' :: rest => .ok ('\r', rest)
  | 't' :: rest => .ok ('\t', rest)
  | 'u' :: rest => unicodeEscape rest
  | cs => .error cs

/-- The characters of a string behind its opening quote, up to and with the closing one. -/
def stringBody : (fuel : Nat) → (acc : List Char) → List Char → Reading (String × List Char)
  | 0, _, cs => .error cs
  | _ + 1, acc, '"' :: rest => .ok (String.ofList acc.reverse, rest)
  | fuel + 1, acc, '\\' :: rest => do
    let (c, rest) ← escape rest
    stringBody fuel (c :: acc) rest
  | fuel + 1, acc, c :: rest =>
    if c.toNat < 0x20 then .error (c :: rest) else stringBody fuel (c :: acc) rest
  | _ + 1, _, [] => .error []

def stringText (cs : List Char) : Reading (String × List Char) := stringBody (cs.length + 1) [] cs

/-- The parts of a number literal. -/
structure Literal where
  negative : Bool
  whole : List Char
  fraction : List Char
  exponent : Int
  /-- Neither fraction nor exponent is written. -/
  integral : Bool

def wholePart : List Char → Reading (List Char × List Char)
  | '0' :: c :: rest => if c.isDigit then .error (c :: rest) else .ok (['0'], c :: rest)
  | ['0'] => .ok (['0'], [])
  | cs =>
    match cs.takeWhile Char.isDigit with
    | [] => .error cs
    | ds => .ok (ds, cs.dropWhile Char.isDigit)

def fractionPart : List Char → Reading (Option (List Char) × List Char)
  | '.' :: cs =>
    match cs.takeWhile Char.isDigit with
    | [] => .error cs
    | ds => .ok (some ds, cs.dropWhile Char.isDigit)
  | cs => .ok (none, cs)

def exponentDigits (negative : Bool) (cs : List Char) : Reading (Option Int × List Char) :=
  match cs.takeWhile Char.isDigit with
  | [] => .error cs
  | ds =>
    let e : Int := digitsValue ds
    .ok (some (if negative then -e else e), cs.dropWhile Char.isDigit)

def exponentPart : List Char → Reading (Option Int × List Char)
  | c :: cs =>
    if c == 'e' || c == 'E' then
      match cs with
      | '+' :: cs => exponentDigits false cs
      | '-' :: cs => exponentDigits true cs
      | cs => exponentDigits false cs
    else .ok (none, c :: cs)
  | [] => .ok (none, [])

def literal (cs : List Char) : Reading (Literal × List Char) := do
  let (negative, cs) := match cs with
    | '-' :: cs => (true, cs)
    | cs => (false, cs)
  let (whole, cs) ← wholePart cs
  let (fraction, cs) ← fractionPart cs
  let (exponent, cs) ← exponentPart cs
  let isWhole := fraction.isNone && exponent.isNone
  return (⟨negative, whole, fraction.getD [], exponent.getD 0, isWhole⟩, cs)

/-- The number a literal stands for: a whole number in the 64-bit ranges is kept as such, any other
number is the nearest double; `none` past the greatest double. A negative zero is a double. -/
def Literal.number? (l : Literal) : Option JsonNumber :=
  let n := digitsValue l.whole
  let float := (Binary64.ofDecimal? l.negative (digitsValue (l.whole ++ l.fraction))
    (l.exponent - l.fraction.length)).map JsonNumber.float
  if l.integral then
    if l.negative then
      if 0 < n && n ≤ twoPow 63 then some (.int (-n)) else float
    else if n < twoPow 64 then some (.int n) else float
  else float

def number (cs : List Char) : Reading (Json × List Char) := do
  let (l, rest) ← literal cs
  match l.number? with
  | some n => return (.num n, rest)
  | none => .error rest

mutual

/-- A value, with `depth` levels of nesting left. -/
def value : (fuel depth : Nat) → List Char → Reading (Json × List Char)
  | 0, _, cs => .error cs
  | fuel + 1, depth, cs =>
    match skipBlank cs with
    | 'n' :: 'u' :: 'l' :: 'l' :: rest => .ok (.null, rest)
    | 't' :: 'r' :: 'u' :: 'e' :: rest => .ok (.bool true, rest)
    | 'f' :: 'a' :: 'l' :: 's' :: 'e' :: rest => .ok (.bool false, rest)
    | '"' :: rest => do
      let (s, rest) ← stringText rest
      return (.str s, rest)
    | '[' :: rest =>
      match depth with
      | 0 => .error rest
      | depth + 1 =>
        match skipBlank rest with
        | ']' :: rest => .ok (.arr [], rest)
        | rest => elements fuel depth [] rest
    | '\x7b' :: rest =>
      match depth with
      | 0 => .error rest
      | depth + 1 =>
        match skipBlank rest with
        | '\x7d' :: rest => .ok (.obj [], rest)
        | rest => members fuel depth [] rest
    | rest => number rest

/-- The elements of an array from one of them on, up to and with the closing bracket. -/
def elements : (fuel depth : Nat) → (acc : List Json) → List Char → Reading (Json × List Char)
  | 0, _, _, cs => .error cs
  | fuel + 1, depth, acc, cs => do
    let (v, rest) ← value fuel depth cs
    match skipBlank rest with
    | ',' :: rest => elements fuel depth (v :: acc) rest
    | ']' :: rest => return (.arr (v :: acc).reverse, rest)
    | rest => .error rest

/-- The fields of an object from one of them on, up to and with the closing brace. -/
def members : (fuel depth : Nat) → (acc : List (String × Json)) → List Char →
    Reading (Json × List Char)
  | 0, _, _, cs => .error cs
  | fuel + 1, depth, acc, cs =>
    match skipBlank cs with
    | '"' :: rest => do
      let (key, rest) ← stringText rest
      match skipBlank rest with
      | ':' :: rest => do
        let (v, rest) ← value fuel depth rest
        match skipBlank rest with
        | ',' :: rest => members fuel depth ((key, v) :: acc) rest
        | '\x7d' :: rest => return (.obj ((key, v) :: acc).reverse, rest)
        | rest => .error rest
      | rest => .error rest
    | rest => .error rest

end

end JsonText

namespace Json

mutual

/-- Puts the fields of every object in key order, the last of two fields with one key winning. -/
def normalize : Json → Json
  | .arr items => .arr (normalizeList items)
  | .obj fields => .obj (Fields.ofList (normalizeFields fields))
  | .null => .null
  | .bool b => .bool b
  | .num n => .num n
  | .str s => .str s

def normalizeList : List Json → List Json
  | [] => []
  | v :: rest => normalize v :: normalizeList rest

def normalizeFields : List (String × Json) → List (String × Json)
  | [] => []
  | (k, v) :: rest => (k, normalize v) :: normalizeFields rest

end

/-- Reads a whole text as one value whose objects keep their fields as written. -/
def readRaw (text : String) : Except (List Char) Json := do
  let cs := text.toList
  let (v, rest) ← JsonText.value (2 * cs.length + 2) JsonText.maxDepth cs
  match JsonText.skipBlank rest with
  | [] => return v
  | rest => .error rest

/-- Reads a whole text as one value. -/
def read (text : String) : Except (List Char) Json := (readRaw text).map normalize

end Json

/-- Line and column, both from one, of the place where the characters `rest` of `text` begin. -/
def placeOf (text : String) (rest : List Char) : Nat × Nat :=
  let before := text.toList.take (text.length - rest.length)
  let line := before.count '\n' + 1
  let column := (before.reverse.takeWhile (· != '\n')).length + 1
  (line, column)

end Arboretum
