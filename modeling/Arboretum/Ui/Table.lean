import Arboretum.Adapter.Registry
import Arboretum.Text.Columns

/-!
# The table of languages

A box with rounded corners: a header, and one row for each parser. The language and its extensions
stand in the first row of the language only.
-/

namespace Arboretum

namespace Table

/-- A cell as its lines. -/
def cellLines (cell : String) : List (List Char) := Text.splitOn '\n' cell.toList

def cellWidth (cell : String) : Nat := ((cellLines cell).map Text.columns).foldl max 0

/-- The width of every column. -/
def widths : List (List String) → List Nat
  | [] => []
  | row :: rest =>
    let own := row.map cellWidth
    match widths rest with
    | [] => own
    | others => List.zipWith max own others

def rule (left middle right : String) (widths : List Nat) : String :=
  left ++ String.intercalate middle (widths.map fun w =>
    String.join (List.replicate (w + 2) "─")) ++ right

/-- A line of a cell, filled up to its column. -/
def pad (width : Nat) (line : List Char) : String :=
  String.ofList (line ++ List.replicate (width - Text.columns line) ' ')

/-- A row, as high as its highest cell. -/
def rowLines (widths : List Nat) (row : List String) : List String :=
  let cells := row.map cellLines
  let height := (cells.map List.length).foldl max 0
  (List.range height).map fun i =>
    "│" ++ String.join (List.zipWith (fun w cell => " " ++ pad w (cell.getD i []) ++ " │")
      widths cells)

/-- A box around a header and rows. -/
def render (header : List String) (rows : List (List String)) : String :=
  let ws := widths (header :: rows)
  String.intercalate "\n"
    ([rule "╭" "┬" "╮" ws] ++ rowLines ws header ++ [rule "├" "┼" "┤" ws] ++
      rows.flatMap (rowLines ws) ++ [rule "╰" "┴" "╯" ws])

end Table

/-- One row for each parser of a language. -/
def Language.rows (l : Language) : List (List String) :=
  l.parsers.zipIdx.map fun (p, i) =>
    if i = 0 then [l.label, p.id, p.label, String.intercalate ", " l.extensions]
    else ["", p.id, p.label, ""]

/-- The table of languages; empty without parsers. -/
def languagesTable (languages : List Language) : String :=
  let rows := languages.flatMap Language.rows
  if rows.isEmpty then ""
  else Table.render ["Language", "Parser", "Label", "Extensions"] rows

end Arboretum
