import Arboretum.Adapter.Error
import Arboretum.Json.Skip

/-!
# Manifests

The manifest of a package is a JSON object with a `version` and maybe a `name`. Neither may be
given twice. All other fields are passed over unread, so what they hold does not matter as long as
it has the form of JSON. An array of name and version is a manifest too.
-/

namespace Arboretum

/-- What a manifest says: an optional name and a version. -/
structure Manifest where
  name : Option String
  version : String
  deriving DecidableEq, Repr

namespace Manifest

open JsonText

/-- The fields met so far. -/
structure Draft where
  /-- The name, where `null` counts as given. -/
  name : Option (Option String) := none
  version : Option String := none

/-- The manifest of the fields, if the version is among them. -/
def Draft.manifest? (draft : Draft) : Option Manifest :=
  draft.version.map fun version => ⟨draft.name.join, version⟩

/-- Reads a string. -/
def readText (cs : List Char) : Reading (String × List Char) :=
  match skipBlank cs with
  | '"' :: rest => stringText rest
  | rest => .error rest

/-- Reads a string or `null`. -/
def readName (cs : List Char) : Reading (Option String × List Char) :=
  match skipBlank cs with
  | 'n' :: 'u' :: 'l' :: 'l' :: rest => .ok (none, rest)
  | rest => (readText rest).map fun (name, rest) => (some name, rest)

/-- Reads the value of a field. -/
def readField (key : String) (draft : Draft) (cs : List Char) : Reading (Draft × List Char) :=
  if key = "name" then
    if draft.name.isSome then .error cs
    else (readName cs).map fun (name, rest) => ({ draft with name := some name }, rest)
  else if key = "version" then
    if draft.version.isSome then .error cs
    else (readText cs).map fun (version, rest) => ({ draft with version := some version }, rest)
  else (skipValue cs).map fun rest => (draft, rest)

/-- Reads the fields from one of them on, up to and with the closing brace. -/
def readFields : (fuel : Nat) → Draft → List Char → Reading (Draft × List Char)
  | 0, _, cs => .error cs
  | fuel + 1, draft, cs => do
    let (key, rest) ← readText cs
    match skipBlank rest with
    | ':' :: rest => do
      let (draft, rest) ← readField key draft rest
      match skipBlank rest with
      | ',' :: rest => readFields fuel draft rest
      | '\x7d' :: rest => return (draft, rest)
      | rest => .error rest
    | rest => .error rest

/-- Reads name and version behind the opening bracket of an array. -/
def readPair (cs : List Char) : Reading (Manifest × List Char) := do
  let (name, rest) ← readName cs
  match skipBlank rest with
  | ',' :: rest => do
    let (version, rest) ← readText rest
    match skipBlank rest with
    | ']' :: rest => return (⟨name, version⟩, rest)
    | rest => .error rest
  | rest => .error rest

/-- Reads the fields behind the opening brace of an object. -/
def readObject (cs : List Char) : Reading (Manifest × List Char) := do
  let (draft, rest) ← readFields (cs.length + 1) {} cs
  match draft.manifest? with
  | some manifest => return (manifest, rest)
  | none => .error rest

/-- Reads a manifest in either form. -/
def readEither (cs : List Char) : Reading (Manifest × List Char) :=
  match skipBlank cs with
  | '[' :: rest => readPair rest
  | '\x7b' :: rest => readObject rest
  | rest => .error rest

/-- Reads a whole text as a manifest. -/
def read (text : String) : Reading Manifest := do
  let (manifest, rest) ← readEither text.toList
  match skipBlank rest with
  | [] => return manifest
  | rest => .error rest

/-- The version that the text of a manifest gives for a package. -/
def versionFor (package contents : String) : Except MetadataCause String :=
  match read contents with
  | .error rest =>
    let (line, column) := placeOf contents rest
    .error (.malformed line column)
  | .ok manifest =>
    match manifest.name with
    | some name =>
      if name = package then .ok manifest.version else .error (.describes name package)
    | none => .ok manifest.version

end Manifest

end Arboretum
