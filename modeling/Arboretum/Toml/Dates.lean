import Arboretum.Toml.Scalar

/-!
# Dates in the form of tables

A table whose first key is the reserved one of dates stands for the date or time that its text
spells, whatever else it holds. `Toml.adoptDates?` puts dates in the place of such tables, and fails
where the text spells none. A spelled time may be later than a written one: its hour may be 24, and
an offset may be any number of minutes up to a day.
-/

namespace Arboretum

namespace TomlText

/-- An offset of hours and minutes, of two digits each, up to a day. -/
def spelledOffset (negative : Bool) (cs : List Char) : Option (TomlOffset × List Char) := do
  let (hour, cs) ← fixedDigits 2 cs
  let cs ← char ':' cs
  let (minute, cs) ← fixedDigits 2 cs
  let m : Int := hour * 60 + minute
  if m ≤ 24 * 60 then some (.minutes (if negative then -m else m), cs) else none

/-- What follows a time behind a date: nothing or an offset, and then nothing. -/
def spelledEnd : List Char → Option (Option TomlOffset)
  | [] => some none
  | ['Z'] => some (some .utc)
  | ['z'] => some (some .utc)
  | c :: rest =>
    if c == '+' || c == '-' then
      match spelledOffset (c == '-') rest with
      | some (o, []) => some (some o)
      | _ => none
    else none

/-- The date or time that a whole text spells. -/
def spelledDatetime (cs : List Char) : Option TomlDatetime :=
  match date cs with
  | some (d, []) => some ⟨some d, none, none⟩
  | some (d, c :: rest) =>
    if isTimeMark c then do
      let (t, rest) ← time 24 rest
      let o ← spelledEnd rest
      some ⟨some d, some t, o⟩
    else none
  | none =>
    match time 24 cs with
    | some (t, []) => some ⟨none, some t, none⟩
    | _ => none

end TomlText

namespace Toml

/-- The date or time that a text value spells. -/
def spelledDate? : Toml → Option TomlDatetime
  | .str s => TomlText.spelledDatetime s.toList
  | _ => none

/-- The value under the reserved key, if that is the first key. -/
def reserved? : List (String × Toml) → Option Toml
  | (key, value) :: _ => if key = TomlDatetime.reservedKey then some value else none
  | [] => none

mutual

/-- The value with dates in the place of tables that stand for them. -/
def adoptDates? : Toml → Option Toml
  | .table entries =>
    match reserved? entries with
    | some value => (spelledDate? value).map .datetime
    | none => (adoptEntries? entries).map .table
  | .arr items => (adoptItems? items).map .arr
  | .str s => some (.str s)
  | .int n => some (.int n)
  | .float x => some (.float x)
  | .bool b => some (.bool b)
  | .datetime d => some (.datetime d)

def adoptItems? : List Toml → Option (List Toml)
  | [] => some []
  | v :: rest => do
    let v ← adoptDates? v
    let rest ← adoptItems? rest
    return v :: rest

def adoptEntries? : List (String × Toml) → Option (List (String × Toml))
  | [] => some []
  | (k, v) :: rest => do
    let v ← adoptDates? v
    let rest ← adoptEntries? rest
    return (k, v) :: rest

end

end Toml

end Arboretum
