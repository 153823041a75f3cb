import Arboretum.Toml.Basic

/-!
# Building TOML tables

A document is a list of key/value pairs followed by sections, each with a header and pairs of its
own. `TomlItem` is a table under construction: it remembers which tables only came about on the way
to another one (`implicit`) and which by dotted keys (`dotted`), since that decides what later
headers and keys may extend.
-/

namespace Arboretum

/-- A part of a document under construction. -/
inductive TomlItem where
  | value (v : Toml)
  /-- A table, by whether it is implicit and whether dotted keys made it. -/
  | table (implicit dotted : Bool) (entries : List (String × TomlItem))
  /-- An array of tables, made by headers in double brackets. -/
  | tables (elements : List (List (String × TomlItem)))

/-- The entries of a table under construction, in the order of writing. -/
abbrev TomlEntries := List (String × TomlItem)

/-- A key/value pair; the key is dotted, its last part stands apart. -/
structure TomlPair where
  path : List String
  key : String
  value : Toml

/-- The header of a section. -/
inductive TomlHeader where
  | table (path : List String) (key : String)
  | element (path : List String) (key : String)

structure TomlSection where
  header : TomlHeader
  pairs : List TomlPair

namespace TomlEntries

def get? : TomlEntries → String → Option TomlItem
  | [], _ => none
  | (k, v) :: rest, key => if k = key then some v else get? rest key

/-- Replaces the item under a key where it stands. -/
def set (entries : TomlEntries) (key : String) (item : TomlItem) : TomlEntries :=
  entries.map fun e => if e.1 = key then (key, item) else e

def erase (entries : TomlEntries) (key : String) : TomlEntries :=
  entries.filter fun e => e.1 ≠ key

/-- Changes the table at the end of a path. Tables missing on the way are made, implicit; an array
of tables is entered at its last element; a value, or for dotted keys a table that is not implicit,
bars the way. The change is told whether the table it works on came about by dotted keys. -/
def modifyAt (byDots : Bool) (change : Bool → TomlEntries → Option TomlEntries) :
    (path : List String) → (dotted : Bool) → TomlEntries → Option TomlEntries
  | [], dotted, entries => change dotted entries
  | key :: path, _, entries =>
    match entries.get? key with
    | none => do
      let inner ← modifyAt byDots change path byDots []
      some (entries ++ [(key, .table true byDots inner)])
    | some (.value _) => none
    | some (.tables elements) => do
      let last ← elements.getLast?
      let inner ← modifyAt byDots change path false last
      some (entries.set key (.tables (elements.dropLast ++ [inner])))
    | some (.table implicit dotted inner) =>
      if byDots && !implicit then none
      else do
        let inner ← modifyAt byDots change path dotted inner
        some (entries.set key (.table implicit dotted inner))

/-- Adds a pair to a table that is no dotted one itself. A key may be given once, and dotted keys
may only extend tables that dotted keys made. -/
def addPair (entries : TomlEntries) (pair : TomlPair) : Option TomlEntries :=
  modifyAt true (fun dotted inner =>
    if dotted == pair.path.isEmpty then none
    else match inner.get? pair.key with
      | some _ => none
      | none => some (inner ++ [(pair.key, .value pair.value)])) pair.path false entries

def addPairs (entries : TomlEntries) (pairs : List TomlPair) : Option TomlEntries :=
  pairs.foldlM addPair entries

/-- Adds a section. A table may be opened once, but may have come about implicitly before. -/
def addSection (root : TomlEntries) (part : TomlSection) : Option TomlEntries :=
  match part.header with
  | .table path key =>
    modifyAt false (fun _ entries =>
      match entries.get? key with
      | none => do
        let inner ← addPairs [] part.pairs
        some (entries ++ [(key, .table false false inner)])
      | some (.table true false inner) => do
        let inner ← addPairs inner part.pairs
        some (entries.erase key ++ [(key, .table false false inner)])
      | some _ => none) path false root
  | .element path key =>
    modifyAt false (fun _ entries =>
      match entries.get? key with
      | none => do
        let inner ← addPairs [] part.pairs
        some (entries ++ [(key, .tables [inner])])
      | some (.tables elements) => do
        let inner ← addPairs [] part.pairs
        some (entries.set key (.tables (elements ++ [inner])))
      | some _ => none) path false root

end TomlEntries

namespace TomlItem

mutual

/-- The finished value. -/
def finish : TomlItem → Toml
  | .value v => v
  | .table _ _ entries => .table (finishEntries entries)
  | .tables elements => .arr (finishElements elements)

def finishEntries : List (String × TomlItem) → List (String × Toml)
  | [] => []
  | (k, v) :: rest => (k, finish v) :: finishEntries rest

def finishElements : List (List (String × TomlItem)) → List Toml
  | [] => []
  | entries :: rest => .table (finishEntries entries) :: finishElements rest

end

end TomlItem

/-- The entries of a document. -/
def buildDocument (pairs : List TomlPair) (sections : List TomlSection) :
    Option (List (String × Toml)) := do
  let root ← TomlEntries.addPairs [] pairs
  let root ← sections.foldlM TomlEntries.addSection root
  return TomlItem.finishEntries root

end Arboretum
