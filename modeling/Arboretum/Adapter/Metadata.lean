import Arboretum.Adapter.Manifest
import Arboretum.Engine.Basic

/-!
# Sources of engines and versions

A bundled engine can only be had in the version it has. The version of a package can also be read
from its manifest or asked of a service.
-/

namespace Arboretum

/-- The version of a package. -/
def versionText (package version : String) : String := package ++ "@" ++ version

/-- An engine that is part of the program; building it may fail. -/
structure Bundled where
  name : String
  build : Except LoadCause Engine

namespace Bundled

def describe (source : Bundled) : String := "bundled:" ++ source.name

/-- Acquires the engine; only the bundled version may be requested. -/
def acquire (source : Bundled) (requested : Option String) : Except LoadCause Engine := do
  let engine ← source.build
  match requested, engine.version with
  | none, _ => .ok engine
  | some r, some v => if r = v then .ok engine else .error (.otherVersion source.name v r)
  | some r, none => .error (.noVersion source.name r)

end Bundled

/-- A side channel for the version of a package. -/
inductive Metadata where
  /-- A manifest in the program, or in a file that may be missing. It is assumed that a file is read
  in one go. A file whose reading lets other calls go on is a service here, whose answer is that of
  `readManifest` for what was read. -/
  | manifest (contents : Option String)
  /-- A service, by its name, whose answers come from outside. -/
  | remote (service : String)

namespace Metadata

/-- The answer of a manifest. -/
def readManifest (package : String) : Option String → Except MetadataCause String
  | some contents => Manifest.versionFor package contents
  | none => .error .missingFile

/-- The answer where none can come from outside: a service is out of reach. -/
def answer (package : String) : Metadata → Except MetadataCause String
  | .manifest contents => readManifest package contents
  | .remote service => .error (.reported (service ++ " cannot be reached") [])

/-- The result of a look-up with the given answer; blanks around a version are dropped. -/
def result (package : String) : Except MetadataCause String → Except Error String
  | .ok version => .ok (versionText package (Text.trim version))
  | .error cause => .error (.metadata package cause)

end Metadata

/-- Where the version of an adapter comes from. -/
inductive VersionSource where
  /-- The version that the loaded engine reports. -/
  | engine
  /-- A side channel; the engine is not loaded. -/
  | metadata (source : Metadata)
  /-- The engine, or the side channel if the engine reports none. -/
  | engineOrMetadata (source : Metadata)

def VersionSource.describe : VersionSource → String
  | .engine => "Engine"
  | .metadata _ => "Metadata(..)"
  | .engineOrMetadata _ => "EngineOrMetadata(..)"

end Arboretum
