import Arboretum.Number.Binary64

/-!
# JSON values

One value type for every tree, options object and node. Numbers are whole or binary64, as their
literals say. Objects are lists of fields; those built by `Fields.insert` and `Json.ofFields` have
strictly increasing keys (`Fields.Sorted`), so one object has one form.
-/

namespace Arboretum

/-- A number is whole, or a finite double. -/
inductive JsonNumber where
  | int (value : Int)
  | float (value : Binary64)
  deriving DecidableEq, Repr

/-- A JSON value. -/
inductive Json where
  | null
  | bool (value : Bool)
  | num (value : JsonNumber)
  | str (value : String)
  | arr (items : List Json)
  | obj (fields : List (String × Json))
  deriving Inhabited, Repr

/-- The fields of an object, in key order. -/
abbrev Fields := List (String × Json)

namespace Fields

/-- The value under a key. -/
def get? : Fields → String → Option Json
  | [], _ => none
  | (k, v) :: rest, key => if k = key then some v else get? rest key

/-- Puts a value under a key, replacing the one that is there and keeping the keys in order. -/
def insert : Fields → String → Json → Fields
  | [], key, value => [(key, value)]
  | (k, v) :: rest, key, value =>
    if key < k then (key, value) :: (k, v) :: rest
    else if key = k then (k, value) :: rest
    else (k, v) :: insert rest key value

/-- Removes a key. -/
def erase (fields : Fields) (key : String) : Fields :=
  fields.filter fun field => field.1 ≠ key

/-- Overlays the fields of `user` on `defaults`: the top-level keys of `user` win, and nested
objects are replaced whole. -/
def overlay (defaults user : Fields) : Fields :=
  user.foldl (fun acc field => insert acc field.1 field.2) defaults

/-- Fields in any order, later ones winning. -/
def ofList (fields : List (String × Json)) : Fields := overlay [] fields

/-- Strictly increasing keys. -/
def Sorted (fields : Fields) : Prop := fields.Pairwise fun a b => a.1 < b.1

end Fields

namespace Json

/-- An object from fields in any order, later ones winning. -/
def ofFields (fields : List (String × Json)) : Json := .obj (Fields.ofList fields)

def ofNat (n : Nat) : Json := .num (.int n)

/-- An optional text, absent as `null`. -/
def ofOption : Option String → Json
  | none => .null
  | some s => .str s

/-- The value under a key of an object; nothing for any other value. -/
def get? : Json → String → Option Json
  | .obj fields, key => Fields.get? fields key
  | _, _ => none

/-- The value under a key, `null` when there is none. -/
def getD (value : Json) (key : String) : Json := (value.get? key).getD .null

def fields? : Json → Option Fields
  | .obj fields => some fields
  | _ => none

def items? : Json → Option (List Json)
  | .arr items => some items
  | _ => none

def str? : Json → Option String
  | .str s => some s
  | _ => none

def bool? : Json → Option Bool
  | .bool b => some b
  | _ => none

/-- A whole number that is not negative. -/
def nat? : Json → Option Nat
  | .num (.int n) => if 0 ≤ n then some n.toNat else none
  | _ => none

/-- The name of a value's type, as diagnostics give it. -/
def typeName : Json → String
  | .null => "null"
  | .bool _ => "boolean"
  | .num _ => "number"
  | .str _ => "string"
  | .arr _ => "array"
  | .obj _ => "object"

/-- Follows object keys one after another. -/
def path? : Json → List String → Option Json
  | value, [] => some value
  | value, key :: rest => (value.get? key).bind (path? · rest)

end Json

end Arboretum
