import Arboretum.Text.Printable

/-!
# Quoted text and records

The notation in which values are described: texts in double quotes with escapes, optional values as
`Some(…)` and `None`, lists in brackets, and records with named fields.
-/

namespace Arboretum

namespace Text

/-- A character of a quoted text. -/
def quotedChar (c : Char) : List Char :=
  if c == '\t' then ['\\', 't']
  else if c == '\r' then ['\\', 'r']
  else if c == '\n' then ['\\', 'n']
  else if c == '"' then ['\\', '"']
  else if c == '\\' then ['\\', '\\']
  else if c == '\x00' then ['\\', '0']
  else if 0x20 ≤ c.toNat && c.toNat < 0x7f then [c]
  else if spelledOut.contains c then
    '\\' :: 'u' :: '\x7b' :: Nat.toDigits 16 c.toNat ++ ['\x7d']
  else [c]

/-- A text in double quotes. -/
def quoted (s : String) : String := String.ofList ('"' :: s.toList.flatMap quotedChar ++ ['"'])

/-- An optional description. -/
def optional : Option String → String
  | none => "None"
  | some s => "Some(" ++ s ++ ")"

/-- Descriptions in brackets. -/
def bracketList (items : List String) : String := "[" ++ String.intercalate ", " items ++ "]"

/-- Descriptions in braces. -/
def braceList (items : List String) : String :=
  "\x7b" ++ String.intercalate ", " items ++ "\x7d"

/-- A record with named fields. -/
def record (name : String) (fields : List (String × String)) : String :=
  name ++ " \x7b " ++ String.intercalate ", " (fields.map fun f => f.1 ++ ": " ++ f.2) ++ " \x7d"

/-- A truth value. -/
def truth (b : Bool) : String := if b then "true" else "false"

end Text

end Arboretum
