import Arboretum.Adapter.Basic
import Arboretum.Text.Path

/-!
# Languages and the registry

A language groups parsers for the same source. The registry lists languages, with unique ids of
languages and unique ids of parsers over all languages, and finds parsers by id or a language by
the extension of a file. Languages are found by id through an index, which is built while the ids
are checked.
-/

namespace Arboretum

/-- A group of parsers for one source language. -/
structure Language where
  id : String
  label : String
  icon : Option String := none
  /-- The file extensions this language is chosen for. -/
  extensions : List String := []
  /-- An example source. -/
  template : Option String := none
  parsers : List Parser := []

namespace Language

/-- The parser with an id. -/
def parser? (l : Language) (id : String) : Option Parser := l.parsers.find? fun p => p.id = id

/-- The parser for a host without preference. -/
def defaultParser? (l : Language) : Option Parser := l.parsers.head?

/-- Whether a file has one of the extensions, in any ASCII case. -/
def handles (l : Language) (path : String) : Bool :=
  match Path.extension? path with
  | some ext => l.extensions.any fun e => Text.sameIgnoringCase e ext
  | none => false

def describe (l : Language) : String :=
  Text.record "LanguageOption" [("id", Text.quoted l.id), ("label", Text.quoted l.label),
    ("extensions", Text.bracketList (l.extensions.map Text.quoted)),
    ("parsers", Text.bracketList (l.parsers.map fun p => Text.quoted p.id))]

end Language

/-- Positions in a list of a given length, by id. -/
abbrev Index (length : Nat) := List (String × Fin length)

/-- Languages with unique ids, and where each id is listed. -/
structure Registry where
  languages : List Language := []
  byId : Index languages.length := []

namespace Registry

/-- Adds ids to those seen; the first one seen before is refused. -/
def enroll : (seen ids : List String) → Except Error (List String)
  | seen, [] => .ok seen
  | seen, id :: rest =>
    if seen.contains id then .error (.duplicateId id) else enroll (id :: seen) rest

/-- Goes through positions of languages in order, with the index of those before and the ids of
their parsers: a language whose id is in the index is refused, then a parser whose id was seen. -/
def indexFrom (languages : List Language) : (positions : List (Fin languages.length)) →
    Index languages.length → (parserIds : List String) → Except Error (Index languages.length)
  | [], byId, _ => .ok byId
  | i :: rest, byId, parserIds =>
    match byId.lookup (languages.get i).id with
    | some _ => .error (.duplicateId (languages.get i).id)
    | none => do
      let parserIds ← enroll parserIds ((languages.get i).parsers.map Parser.id)
      indexFrom languages rest (((languages.get i).id, i) :: byId) parserIds

/-- The registry of some languages, if their ids are unique. -/
def ofLanguages (languages : List Language) : Except Error Registry := do
  let byId ← indexFrom languages (List.finRange languages.length) [] []
  return ⟨languages, byId⟩

/-- The language with an id. -/
def language (r : Registry) (id : String) : Except Error Language :=
  match r.byId.lookup id with
  | some i => .ok (r.languages.get i)
  | none => .error (.unknownLanguage id)

/-- A parser of a given language. -/
def parser (r : Registry) (languageId parserId : String) : Except Error Parser := do
  let l ← r.language languageId
  match l.parser? parserId with
  | some p => .ok p
  | none => .error (.unknownParser languageId parserId)

/-- A parser by its id alone, with its language. -/
def findParser? (r : Registry) (parserId : String) : Option (Language × Parser) :=
  r.languages.findSome? fun l => (l.parser? parserId).map fun p => (l, p)

/-- The language of a file by its extension. -/
def languageFor? (r : Registry) (path : String) : Option Language :=
  r.languages.find? fun l => l.handles path

end Registry

end Arboretum
