import Arboretum.Cli.Run
import Arboretum.Engine.Recording
import Arboretum.Ui.Elapsed

/-!
# The command line program

Gathers what a command may need from the file system, runs it, and carries out its report. The tree
of a source file is taken from the recording beside it, under the file's name with `.tree.json`.
-/

namespace Arboretum

namespace Cli

/-- What is at a path. -/
def entryAt (path : String) : IO FileEntry := do
  try
    let bytes ← IO.FS.readBinFile path
    return match String.fromUTF8? bytes with
      | some contents => .text contents
      | none => .binary
  catch e =>
    return match e with
      | .inappropriateType none _ _ => .directory
      | .inappropriateType (some _) _ _ => .notDirectory
      | .invalidArgument _ 36 _ => .nameTooLong
      | _ => .missing

/-- The file a command works on. -/
def sourceFile? : Command → Option String
  | .parse file _ => some file
  | .locate file _ _ => some file
  | _ => none

/-- The paths whose entries an invocation may ask for. -/
def pathsOf (invocation : Invocation) : List String :=
  let settings := invocation.config.getD defaultSettingsPath
  [settings, Path.directory settings] ++ (sourceFile? invocation.command).toList

/-- The recordings of a source file. -/
def recordingsOf (invocation : Invocation) : IO (List (String × Recording)) := do
  match sourceFile? invocation.command with
  | none => return []
  | some file =>
    match ← entryAt file, ← entryAt (file ++ ".tree.json") with
    | .text code, .text recorded =>
      return match (Json.read recorded).toOption.bind Recording.ofJson? with
        | some recording => [(code, recording)]
        | none => []
    | _, _ => return []

/-- Surroundings without files, for arguments that lead to no command. -/
def bare : Surroundings where
  entry _ := .missing
  grammars g := Recording.grammarOf [] g.name

/-- The surroundings of an invocation. -/
def surroundingsOf (invocation : Invocation) : IO Surroundings := do
  let entries ← (pathsOf invocation).mapM fun path => do return (path, ← entryAt path)
  let recordings ← recordingsOf invocation
  let quiet := ((← IO.getEnv "ASTLENS_QUIET").map switchedOn).getD false
  let terminal ← (← IO.getStdout).isTty
  return {
    entry := fun path => ((entries.find? fun e => e.1 == path).map Prod.snd).getD .missing
    grammars := fun g => Recording.grammarOf recordings g.name
    theme := if terminal then .colored else .plain
    quiet }

end Cli

end Arboretum

open Arboretum Arboretum.Cli in
def main (args : List String) : IO UInt32 := do
  let env ← match parse args with
    | .ok invocation => surroundingsOf invocation
    | .error _ => pure bare
  let started ← IO.monoNanosNow
  let report := run env args
  if let some (path, contents) := report.written then
    IO.FS.writeFile path contents
  let elapsed := elapsedText ((← IO.monoNanosNow) - started)
  IO.print (report.stdout env.theme elapsed)
  IO.eprint report.stderr
  return report.exit.toUInt32
