import Arboretum.Json.Basic
import Arboretum.Number.Shortest

/-!
# Writing JSON text

`Json.compact` writes without blanks, `Json.pretty` with two-space indentation. Objects are written
in the order of their fields.
-/

namespace Arboretum

namespace JsonText

/-- A digit below sixteen in lower case. -/
def hexDigit (n : Nat) : Char :=
  if n < 10 then Char.ofNat ('0'.toNat + n) else Char.ofNat ('a'.toNat + (n - 10))

/-- A character inside a string: quotes, backslashes and control characters are escaped. -/
def escaped (c : Char) : List Char :=
  if c == '"' then ['\\', '"']
  else if c == '\\' then ['\\', '\\']
  else if c == '\x08' then ['\\', 'b']
  else if c == '\x0c' then ['\\', 'f']
  else if c == '\n' then ['\\', 'n']
  else if c == '\r' then ['\\', 'r']
  else if c == '\t' then ['\\', 't']
  else if c.toNat < 0x20 then
    ['\\', 'u', '0', '0', hexDigit (c.toNat / 16), hexDigit (c.toNat % 16)]
  else [c]

/-- A string in quotes. -/
def quote (s : String) : String :=
  String.ofList ('"' :: s.toList.flatMap escaped ++ ['"'])

end JsonText

/-- The text of a number. -/
def JsonNumber.write : JsonNumber → String
  | .int n => toString n
  | .float x => DecimalText.json.write x

namespace Json

mutual

/-- Text without blanks. -/
def compact : Json → String
  | .null => "null"
  | .bool true => "true"
  | .bool false => "false"
  | .num n => n.write
  | .str s => JsonText.quote s
  | .arr items => "[" ++ String.intercalate "," (compactList items) ++ "]"
  | .obj fields => "\x7b" ++ String.intercalate "," (compactFields fields) ++ "\x7d"

def compactList : List Json → List String
  | [] => []
  | v :: rest => compact v :: compactList rest

def compactFields : List (String × Json) → List String
  | [] => []
  | (k, v) :: rest => (JsonText.quote k ++ ":" ++ compact v) :: compactFields rest

end

def indentation (level : Nat) : String := String.ofList (List.replicate (2 * level) ' ')

/-- Items on lines of their own between brackets; empty brackets stay together. -/
def bracketed (openWith closeWith : String) (level : Nat) (items : List String) : String :=
  if items.isEmpty then openWith ++ closeWith
  else
    let separator := ",\n" ++ indentation (level + 1)
    openWith ++ "\n" ++ indentation (level + 1) ++ String.intercalate separator items ++ "\n" ++
      indentation level ++ closeWith

mutual

/-- Text indented by two blanks a level, from a given level on. -/
def prettyAt (level : Nat) : Json → String
  | .null => "null"
  | .bool true => "true"
  | .bool false => "false"
  | .num n => n.write
  | .str s => JsonText.quote s
  | .arr items => bracketed "[" "]" level (prettyList (level + 1) items)
  | .obj fields => bracketed "\x7b" "\x7d" level (prettyFields (level + 1) fields)

def prettyList (level : Nat) : List Json → List String
  | [] => []
  | v :: rest => prettyAt level v :: prettyList level rest

def prettyFields (level : Nat) : List (String × Json) → List String
  | [] => []
  | (k, v) :: rest => (JsonText.quote k ++ ": " ++ prettyAt level v) :: prettyFields level rest

end

/-- Text indented by two blanks a level. -/
def pretty (v : Json) : String := prettyAt 0 v

end Json

end Arboretum
