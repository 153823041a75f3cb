import Arboretum.Json.Basic

/-!
# TOML values

The values of a TOML document, with dates and times as they are written. `Toml.toJson` gives the
JSON reading of a value: a float that is not finite is `null`, and a date or time is an object with
its text under one reserved key.
-/

namespace Arboretum

/-- A TOML float: finite, infinite or not a number. -/
inductive TomlFloat where
  | finite (value : Binary64)
  | infinite (negative : Bool)
  | nan
  deriving DecidableEq, Repr

structure TomlDate where
  year : Nat
  month : Nat
  day : Nat
  deriving DecidableEq, Repr

structure TomlTime where
  hour : Nat
  minute : Nat
  second : Nat
  nanosecond : Nat
  deriving DecidableEq, Repr

/-- The distance from universal time. -/
inductive TomlOffset where
  | utc
  | minutes (value : Int)
  deriving DecidableEq, Repr

/-- A date, a time of day, or both with an optional offset. -/
structure TomlDatetime where
  date : Option TomlDate
  time : Option TomlTime
  offset : Option TomlOffset
  deriving DecidableEq, Repr

/-- A TOML value; the entries of a table are in the order in which they were written. -/
inductive Toml where
  | str (value : String)
  | int (value : Int)
  | float (value : TomlFloat)
  | bool (value : Bool)
  | datetime (value : TomlDatetime)
  | arr (items : List Toml)
  | table (entries : List (String × Toml))
  deriving Repr, Inhabited

/-- Two digits at least. -/
def padTo (width n : Nat) : String :=
  let digits := Nat.toDigits 10 n
  String.ofList (List.replicate (width - digits.length) '0' ++ digits)

namespace TomlDatetime

def dateText (d : TomlDate) : String :=
  padTo 4 d.year ++ "-" ++ padTo 2 d.month ++ "-" ++ padTo 2 d.day

/-- Fractions of a second are written without trailing zeros. -/
def timeText (t : TomlTime) : String :=
  let clock := padTo 2 t.hour ++ ":" ++ padTo 2 t.minute ++ ":" ++ padTo 2 t.second
  if t.nanosecond = 0 then clock
  else
    let digits := (padTo 9 t.nanosecond).toList
    clock ++ "." ++ String.ofList (digits.reverse.dropWhile (· == '0')).reverse

def offsetText : TomlOffset → String
  | .utc => "Z"
  | .minutes m =>
    let sign := if m < 0 then "-" else "+"
    sign ++ padTo 2 (m.natAbs / 60) ++ ":" ++ padTo 2 (m.natAbs % 60)

/-- The text of a date or time. -/
def text (d : TomlDatetime) : String :=
  (d.date.map dateText).getD "" ++
    (match d.time with
     | none => ""
     | some t => (if d.date.isSome then "T" else "") ++ timeText t) ++
    (d.offset.map offsetText).getD ""

/-- The key under which JSON keeps the text of a date or time. -/
def reservedKey : String := "$__toml_private_datetime"

end TomlDatetime

namespace Toml

mutual

/-- The JSON reading of a value. -/
def toJson : Toml → Json
  | .str s => .str s
  | .int n => .num (.int n)
  | .float (.finite x) => .num (.float x)
  | .float (.infinite _) => .null
  | .float .nan => .null
  | .bool b => .bool b
  | .datetime d => .obj [(TomlDatetime.reservedKey, .str d.text)]
  | .arr items => .arr (listToJson items)
  | .table entries => .obj (Fields.ofList (entriesToJson entries))

def listToJson : List Toml → List Json
  | [] => []
  | v :: rest => toJson v :: listToJson rest

def entriesToJson : List (String × Toml) → List (String × Json)
  | [] => []
  | (k, v) :: rest => (k, toJson v) :: entriesToJson rest

end

/-- The fields of a table as JSON. -/
def fieldsToJson (entries : List (String × Toml)) : Fields := Fields.ofList (entriesToJson entries)

def isTable : Toml → Bool
  | .table _ => true
  | _ => false

/-- Entries in key order. -/
def sortEntries (entries : List (String × Toml)) : List (String × Toml) :=
  entries.mergeSort fun a b => a.1 ≤ b.1

mutual

/-- Tables in key order throughout. -/
def sorted : Toml → Toml
  | .arr items => .arr (sortedList items)
  | .table entries => .table (sortEntries (sortedEntries entries))
  | v => v

def sortedList : List Toml → List Toml
  | [] => []
  | v :: rest => sorted v :: sortedList rest

def sortedEntries : List (String × Toml) → List (String × Toml)
  | [] => []
  | (k, v) :: rest => (k, sorted v) :: sortedEntries rest

end

def sameFloat : TomlFloat → TomlFloat → Bool
  | .finite x, .finite y => x.sameValue y
  | .infinite a, .infinite b => a == b
  | _, _ => false

mutual

/-- Equality of values: not a number differs from itself, and the two zeros are equal. Tables are
compared entry by entry. -/
def same : Toml → Toml → Bool
  | .str a, .str b => a == b
  | .int a, .int b => a == b
  | .float a, .float b => sameFloat a b
  | .bool a, .bool b => a == b
  | .datetime a, .datetime b => a == b
  | .arr a, .arr b => sameList a b
  | .table a, .table b => sameEntries a b
  | _, _ => false

def sameList : List Toml → List Toml → Bool
  | [], [] => true
  | a :: as, b :: bs => same a b && sameList as bs
  | _, _ => false

def sameEntries : List (String × Toml) → List (String × Toml) → Bool
  | [], [] => true
  | (k, a) :: as, (l, b) :: bs => k == l && same a b && sameEntries as bs
  | _, _ => false

end

end Toml

end Arboretum
