import Arboretum.Json.Basic

/-!
# Diagnostics

What an engine reports about input it rejects, handed on unchanged.
-/

namespace Arboretum

/-- A message with an optional place: line and column from one, and a character offset. -/
structure Diagnostic where
  message : String
  line : Option Nat
  column : Option Nat
  offset : Option Nat
  deriving DecidableEq, Repr

namespace Diagnostic

/-- A message without a place. -/
def plain (message : String) : Diagnostic := ⟨message, none, none, none⟩

/-- A message with its place. -/
def located (message : String) (line column offset : Nat) : Diagnostic :=
  ⟨message, some line, some column, some offset⟩

/-- The message, followed by line and column when both are known. -/
def text (d : Diagnostic) : String :=
  match d.line, d.column with
  | some line, some column => d.message ++ " (" ++ toString line ++ ":" ++ toString column ++ ")"
  | _, _ => d.message

/-- A diagnostic as JSON; unknown parts are left out. -/
def toJson (d : Diagnostic) : Json :=
  let part (key : String) (n : Option Nat) : List (String × Json) :=
    (n.map fun n => (key, Json.ofNat n)).toList
  .ofFields ([("message", .str d.message)] ++ part "line" d.line ++ part "column" d.column ++
    part "offset" d.offset)

end Diagnostic

end Arboretum
