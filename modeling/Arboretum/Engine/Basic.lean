import Arboretum.Engine.Diagnostic
import Arboretum.Text.Quoted

/-!
# Engines

An engine is the parser an adapter delegates to: it turns code and options into a JSON tree, may
report a version of its own, and may have further entry points under names.
-/

namespace Arboretum

structure Engine where
  /-- The package the engine is published in. -/
  package : String
  /-- The version the engine reports of itself. -/
  version : Option String
  parse : (code : String) → (options : Json) → Except Diagnostic Json
  /-- The names that `invoke` answers to. -/
  entryPoints : List String
  invoke : (entry code : String) → (options : Json) → Except Diagnostic Json

namespace Engine

/-- The report on an unknown entry point. -/
def noEntryPoint (package entry : String) : Diagnostic :=
  .plain (package ++ " has no entry point `" ++ entry ++ "`")

/-- An engine with no entry points besides `parse`. -/
def ofParse (package : String) (version : Option String)
    (parse : String → Json → Except Diagnostic Json) : Engine :=
  ⟨package, version, parse, [], fun entry _ _ => .error (noEntryPoint package entry)⟩

def describe (engine : Engine) : String :=
  Text.record "Engine" [("package", Text.quoted engine.package),
    ("version", Text.optional (engine.version.map Text.quoted))]

end Engine

end Arboretum
