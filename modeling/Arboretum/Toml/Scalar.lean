import Arboretum.Json.Reader
import Arboretum.Toml.Basic

/-!
# TOML scalars

Readers for the scalar values of TOML: numbers, dates and times, truth values and the four kinds of
strings. Each takes the characters left and gives the value with the characters behind it.
-/

namespace Arboretum

namespace TomlText

def isBlank (c : Char) : Bool := c == ' ' || c == '\t'

def skipBlank (cs : List Char) : List Char := cs.dropWhile isBlank

/-- A line feed, with or without a carriage return before it. -/
def newline? : List Char → Option (List Char)
  | '\n' :: rest => some rest
  | '\r' :: '\n' :: rest => some rest
  | _ => none

/-- Characters that may stand in comments and, quotes and backslashes apart, in strings. -/
def isPlain (c : Char) : Bool := c == '\t' || (0x20 ≤ c.toNat && c.toNat ≠ 0x7f)

/-! ## Digits -/

/-- Digits behind the first one; an underscore may stand between two digits. -/
def moreDigits (isDigit : Char → Bool) : List Char → Option (List Char × List Char)
  | '_' :: c :: rest =>
    if isDigit c then (moreDigits isDigit rest).map fun (ds, rest) => (c :: ds, rest) else none
  | ['_'] => none
  | c :: rest =>
    if isDigit c then (moreDigits isDigit rest).map fun (ds, rest) => (c :: ds, rest)
    else some ([], c :: rest)
  | [] => some ([], [])

/-- Digits with underscores between them, which are dropped. -/
def digits (isDigit : Char → Bool) : List Char → Option (List Char × List Char)
  | c :: rest =>
    if isDigit c then (moreDigits isDigit rest).map fun (ds, rest) => (c :: ds, rest) else none
  | [] => none

/-- A sign, if there is one. -/
def sign : List Char → Bool × List Char
  | '-' :: rest => (true, rest)
  | '+' :: rest => (false, rest)
  | cs => (false, cs)

/-- A decimal without leading zeros. -/
def decimal : List Char → Option (List Char × List Char)
  | '0' :: rest => some (['0'], rest)
  | cs => digits Char.isDigit cs

def radixValue (radix : Nat) (ds : List Char) : Nat :=
  ds.foldl (fun n c => radix * n + (JsonText.hexValue? c).getD 0) 0

def inRadix (radix : Nat) (c : Char) : Bool :=
  match JsonText.hexValue? c with
  | some n => n < radix
  | none => false

def radixInteger (radix : Nat) (cs : List Char) : Option (Int × List Char) := do
  let (ds, rest) ← digits (inRadix radix) cs
  let n := radixValue radix ds
  if n < twoPow 63 then some ((n : Int), rest) else none

/-- A whole number in the signed 64-bit range. -/
def integer : List Char → Option (Int × List Char)
  | '0' :: 'x' :: rest => radixInteger 16 rest
  | '0' :: 'o' :: rest => radixInteger 8 rest
  | '0' :: 'b' :: rest => radixInteger 2 rest
  | cs => do
    let (negative, cs) := sign cs
    let (ds, rest) ← decimal cs
    let n := JsonText.digitsValue ds
    if negative then if n ≤ twoPow 63 then some (-(n : Int), rest) else none
    else if n < twoPow 63 then some ((n : Int), rest) else none

/-- An exponent behind its mark. -/
def exponent (cs : List Char) : Option (Int × List Char) := do
  let (negative, cs) := sign cs
  let (ds, rest) ← digits Char.isDigit cs
  let e : Int := JsonText.digitsValue ds
  some (if negative then -e else e, rest)

def isExponentMark (c : Char) : Bool := c == 'e' || c == 'E'

/-- The fraction and exponent of a float: at least one of the two. -/
def floatTail : List Char → Option ((List Char × Int) × List Char)
  | '.' :: rest => do
    let (fraction, rest) ← digits Char.isDigit rest
    match rest with
    | c :: rest' =>
      if isExponentMark c then
        let (e, rest) ← exponent rest'
        some ((fraction, e), rest)
      else some ((fraction, 0), rest)
    | [] => some ((fraction, 0), [])
  | c :: rest =>
    if isExponentMark c then do
      let (e, rest) ← exponent rest
      some (([], e), rest)
    else none
  | [] => none

/-- A float of digits. Past the greatest double, a positive one is refused and a negative one is
infinite. -/
def finiteFloat (cs : List Char) : Option (TomlFloat × List Char) := do
  let (negative, cs) := sign cs
  let (whole, cs) ← decimal cs
  let ((fraction, e), rest) ← floatTail cs
  match Binary64.ofDecimal? negative (JsonText.digitsValue (whole ++ fraction))
      (e - fraction.length) with
  | some x => some (.finite x, rest)
  | none => if negative then some (.infinite true, rest) else none

/-- Infinity and not-a-number, signed or not. -/
def specialFloat (cs : List Char) : Option (TomlFloat × List Char) :=
  let (negative, cs) := sign cs
  match cs with
  | 'i' :: 'n' :: 'f' :: rest => some (.infinite negative, rest)
  | 'n' :: 'a' :: 'n' :: rest => some (.nan, rest)
  | _ => none

/-! ## Dates and times -/

/-- Exactly `n` decimal digits. -/
def fixedDigits (n : Nat) (cs : List Char) : Option (Nat × List Char) :=
  let ds := cs.take n
  if ds.length = n && ds.all Char.isDigit then some (JsonText.digitsValue ds, cs.drop n) else none

/-- Two digits in a range. -/
def twoDigits (lo hi : Nat) (cs : List Char) : Option (Nat × List Char) := do
  let (n, rest) ← fixedDigits 2 cs
  if lo ≤ n && n ≤ hi then some (n, rest) else none

/-- A given character. -/
def char (c : Char) : List Char → Option (List Char)
  | d :: rest => if c == d then some rest else none
  | [] => none

def isLeapYear (year : Nat) : Bool := year % 4 == 0 && (year % 100 != 0 || year % 400 == 0)

def daysInMonth (year month : Nat) : Nat :=
  if month == 2 then if isLeapYear year then 29 else 28
  else if month == 4 || month == 6 || month == 9 || month == 11 then 30
  else 31

def date (cs : List Char) : Option (TomlDate × List Char) := do
  let (year, cs) ← fixedDigits 4 cs
  let cs ← char '-' cs
  let (month, cs) ← twoDigits 1 12 cs
  let cs ← char '-' cs
  let (day, cs) ← twoDigits 1 31 cs
  if day ≤ daysInMonth year month then some (⟨year, month, day⟩, cs) else none

/-- Fractions of a second in nanoseconds; digits past the ninth are dropped. -/
def secondFraction : List Char → Option (Nat × List Char)
  | '.' :: rest =>
    match rest.takeWhile Char.isDigit with
    | [] => none
    | ds =>
      let kept := ds.take 9
      some (JsonText.digitsValue kept * tenPow (9 - kept.length), rest.dropWhile Char.isDigit)
  | cs => some (0, cs)

/-- A time of day whose hour is at most `lastHour`. -/
def time (lastHour : Nat) (cs : List Char) : Option (TomlTime × List Char) := do
  let (hour, cs) ← twoDigits 0 lastHour cs
  let cs ← char ':' cs
  let (minute, cs) ← twoDigits 0 59 cs
  let cs ← char ':' cs
  let (second, cs) ← twoDigits 0 60 cs
  -- a point that no digit follows belongs to what comes next
  let (nanosecond, cs) := (secondFraction cs).getD (0, cs)
  some (⟨hour, minute, second, nanosecond⟩, cs)

def clockOffset (negative : Bool) (cs : List Char) : Option (TomlOffset × List Char) := do
  let (hour, cs) ← twoDigits 0 23 cs
  let cs ← char ':' cs
  let (minute, cs) ← twoDigits 0 59 cs
  let m : Int := hour * 60 + minute
  some (.minutes (if negative then -m else m), cs)

def offset : List Char → Option (TomlOffset × List Char)
  | 'Z' :: rest => some (.utc, rest)
  | 'z' :: rest => some (.utc, rest)
  | '+' :: rest => clockOffset false rest
  | '-' :: rest => clockOffset true rest
  | _ => none

def isTimeMark (c : Char) : Bool := c == 'T' || c == 't' || c == ' '

/-- The time behind a date, with its mark and an optional offset. -/
def timeOfDay : List Char → Option ((TomlTime × Option TomlOffset) × List Char)
  | c :: cs =>
    if isTimeMark c then do
      let (t, cs) ← time 23 cs
      match offset cs with
      | some (o, cs) => some ((t, some o), cs)
      | none => some ((t, none), cs)
    else none
  | [] => none

/-- A date, a date with a time, or a time. -/
def datetime (cs : List Char) : Option (TomlDatetime × List Char) :=
  match date cs with
  | some (d, rest) =>
    match timeOfDay rest with
    | some ((t, o), rest) => some (⟨some d, some t, o⟩, rest)
    | none => some (⟨some d, none, none⟩, rest)
  | none => (time 23 cs).map fun (t, rest) => (⟨none, some t, none⟩, rest)

/-- A number, date or time. -/
def numeral (cs : List Char) : Option (Toml × List Char) :=
  ((datetime cs).map fun (d, rest) => (Toml.datetime d, rest))
    <|> ((finiteFloat cs).map fun (x, rest) => (Toml.float x, rest))
    <|> ((specialFloat cs).map fun (x, rest) => (Toml.float x, rest))
    <|> ((integer cs).map fun (n, rest) => (Toml.int n, rest))

/-! ## Strings -/

/-- A scalar value of exactly `n` hexadecimal digits. -/
def hexChar (n : Nat) (cs : List Char) : Option (Char × List Char) :=
  let ds := cs.take n
  if ds.length = n && ds.all (inRadix 16) then
    let code := radixValue 16 ds
    if code < 0xD800 || (0xE000 ≤ code && code < 0x110000) then some (Char.ofNat code, cs.drop n)
    else none
  else none

/-- The character behind a backslash. -/
def escape : List Char → Option (Char × List Char)
  | 'b' :: rest => some ('\x08', rest)
  | 't' :: rest => some ('\t', rest)
  | 'n' :: rest => some ('\n', rest)
  | 'f' :: rest => some ('\x0c', rest)
  | 'r' :: rest => some ('\r', rest)
  | '"' :: rest => some ('"', rest)
  | '\\' :: rest => some ('\\', rest)
  | 'u' :: rest => hexChar 4 rest
  | 'U' :: rest => hexChar 8 rest
  | _ => none

/-- A basic string behind its opening quote. -/
def basicBody : (fuel : Nat) → (acc : List Char) → List Char → Option (String × List Char)
  | 0, _, _ => none
  | _ + 1, acc, '"' :: rest => some (String.ofList acc.reverse, rest)
  | fuel + 1, acc, '\\' :: rest => do
    let (c, rest) ← escape rest
    basicBody fuel (c :: acc) rest
  | fuel + 1, acc, c :: rest => if isPlain c then basicBody fuel (c :: acc) rest else none
  | _ + 1, _, [] => none

def basicString (cs : List Char) : Option (String × List Char) := basicBody (cs.length + 1) [] cs

/-- A literal string behind its opening quote. -/
def literalString (cs : List Char) : Option (String × List Char) :=
  let body := cs.takeWhile fun c => isPlain c && c != '\''
  match cs.drop body.length with
  | '\'' :: rest => some (String.ofList body, rest)
  | _ => none

/-- The characters behind a backslash that ends a line: further blanks and line ends are skipped. -/
def skipFold : (fuel : Nat) → List Char → List Char
  | 0, cs => cs
  | fuel + 1, cs =>
    match newline? cs with
    | some rest => skipFold fuel rest
    | none =>
      match cs with
      | c :: rest => if isBlank c then skipFold fuel rest else cs
      | [] => []

/-- What follows a run of quotes in a text with long delimiters: three to five quotes close the
text and keep up to two of themselves, one or two belong to the text. -/
def quoteRun (quote : Char) (cs : List Char) : Nat × List Char :=
  let n := (cs.takeWhile (· == quote)).length
  (n, cs.drop n)

/-- A basic string over several lines, behind its opening delimiter. -/
def longBasicBody : (fuel : Nat) → (acc : List Char) → List Char → Option (String × List Char)
  | 0, _, _ => none
  | _ + 1, _, [] => none
  | fuel + 1, acc, '"' :: rest =>
    let (n, rest) := quoteRun '"' ('"' :: rest)
    if n < 3 then longBasicBody fuel (List.replicate n '"' ++ acc) rest
    else
      let kept := min (n - 3) 2
      some (String.ofList (List.replicate kept '"' ++ acc).reverse,
        List.replicate (n - 3 - kept) '"' ++ rest)
  | fuel + 1, acc, '\\' :: rest =>
    match newline? (skipBlank rest) with
    | some rest => longBasicBody fuel acc (skipFold rest.length rest)
    | none => do
      let (c, rest) ← escape rest
      longBasicBody fuel (c :: acc) rest
  | fuel + 1, acc, c :: rest =>
    match newline? (c :: rest) with
    | some rest => longBasicBody fuel ('\n' :: acc) rest
    | none => if isPlain c then longBasicBody fuel (c :: acc) rest else none

/-- A literal string over several lines, behind its opening delimiter. -/
def longLiteralBody : (fuel : Nat) → (acc : List Char) → List Char → Option (String × List Char)
  | 0, _, _ => none
  | _ + 1, _, [] => none
  | fuel + 1, acc, '\'' :: rest =>
    let (n, rest) := quoteRun '\'' ('\'' :: rest)
    if n < 3 then longLiteralBody fuel (List.replicate n '\'' ++ acc) rest
    else
      let kept := min (n - 3) 2
      some (String.ofList (List.replicate kept '\'' ++ acc).reverse,
        List.replicate (n - 3 - kept) '\'' ++ rest)
  | fuel + 1, acc, c :: rest =>
    match newline? (c :: rest) with
    | some rest => longLiteralBody fuel ('\n' :: acc) rest
    | none => if isPlain c then longLiteralBody fuel (c :: acc) rest else none

/-- The text of a long string begins behind a line end that follows its delimiter. -/
def skipNewline (cs : List Char) : List Char := (newline? cs).getD cs

/-- A string of any kind. -/
def stringValue : List Char → Option (String × List Char)
  | '"' :: '"' :: '"' :: rest => longBasicBody (rest.length + 1) [] (skipNewline rest)
  | '"' :: rest => basicString rest
  | '\'' :: '\'' :: '\'' :: rest => longLiteralBody (rest.length + 1) [] (skipNewline rest)
  | '\'' :: rest => literalString rest
  | _ => none

end TomlText

end Arboretum
