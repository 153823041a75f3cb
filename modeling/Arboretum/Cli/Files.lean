import Arboretum.Text.Path

/-!
# Files

What a command sees of the file system. `FileEntry` is what a path leads to; `Folder` is a working
directory held in memory, in which paths are followed segment by segment.
-/

namespace Arboretum

/-- What is at a path. -/
inductive FileEntry where
  | text (contents : String)
  /-- A file that is not UTF-8. -/
  | binary
  | directory
  /-- Nothing. -/
  | missing
  /-- Nothing, since a file stands where a directory is needed. -/
  | notDirectory
  /-- Nothing, since no file can have such a name. -/
  | nameTooLong
  deriving DecidableEq, Repr

/-- Why a file cannot be read or written. -/
inductive FileError where
  | notText
  | isDirectory
  | missing
  | notDirectory
  | nameTooLong
  deriving DecidableEq, Repr

def FileError.message : FileError → String
  | .notText => "stream did not contain valid UTF-8"
  | .isDirectory => "Is a directory (os error 21)"
  | .missing => "No such file or directory (os error 2)"
  | .notDirectory => "Not a directory (os error 20)"
  | .nameTooLong => "File name too long (os error 36)"

namespace FileEntry

/-- Whether there is something at the path. -/
def isThere : FileEntry → Bool
  | .text _ => true
  | .binary => true
  | .directory => true
  | .missing => false
  | .notDirectory => false
  | .nameTooLong => false

/-- The text of a file. -/
def read : FileEntry → Except FileError String
  | .text contents => .ok contents
  | .binary => .error .notText
  | .directory => .error .isDirectory
  | .missing => .error .missing
  | .notDirectory => .error .notDirectory
  | .nameTooLong => .error .nameTooLong

/-- Why a text cannot be written to a path, given what it lies within. A path that ends with a
slash names no file. -/
def refusal? (here within : FileEntry) (endsWithSlash : Bool) : Option FileError :=
  match within, here with
  | .missing, _ => some .missing
  | .nameTooLong, _ => some .nameTooLong
  | .directory, here =>
    if endsWithSlash then some .isDirectory
    else
      match here with
      | .directory => some .isDirectory
      | .nameTooLong => some .nameTooLong
      | _ => none
  | _, _ => some .notDirectory

end FileEntry

/-- The files below a working directory, by their path from it. -/
structure Folder where
  files : List (String × FileEntry)

namespace Folder

def find? (folder : Folder) (path : List String) : Option FileEntry :=
  (folder.files.find? fun f => Text.parts '/' f.1 == path).map Prod.snd

/-- Whether a path has files below it. -/
def isDirectory (folder : Folder) (path : List String) : Bool :=
  folder.files.any fun f =>
    let parts := Text.parts '/' f.1
    path.length < parts.length && parts.take path.length == path

/-- The longest name of a file or directory, in bytes. -/
def maxName : Nat := 255

/-- The longest path, in bytes. -/
def maxPath : Nat := 4095

/-- What a name that is not there leads to. -/
def absent (name : String) : FileEntry :=
  if maxName < name.utf8ByteSize then .nameTooLong else .missing

/-- The directories that every system has at its root. -/
def rootDirectories : List String :=
  ["bin", "dev", "etc", "home", "lib", "opt", "proc", "root", "run", "sbin", "sys", "tmp", "usr",
   "var"]

/-- What a path from the root leads to, as far as that is the same everywhere. -/
def fromRoot (names : List String) : FileEntry :=
  match names.filter fun s => s ≠ "" && s ≠ "." && s ≠ ".." with
  | [] => .directory
  | [name] => if rootDirectories.contains name then .directory else absent name
  | ["dev", "null"] => .text ""
  | _ => .missing

/-- What a path outside the working directory leads to: nothing is known there but directories. -/
def outside (names : List String) : FileEntry :=
  match names.filter fun s => s ≠ "" && s ≠ "." && s ≠ ".." with
  | [] => .directory
  | name :: _ => absent name

/-- Follows the segments of a path from a directory. -/
def follow (folder : Folder) : (here rest : List String) → FileEntry
  | _, [] => .directory
  | here, name :: rest =>
    if name = "" || name = "." then follow folder here rest
    else if name = ".." then
      if here.isEmpty then outside rest else follow folder here.dropLast rest
    else
      let next := here ++ [name]
      match folder.find? next with
      | some entry => if rest.isEmpty then entry else .notDirectory
      | none => if folder.isDirectory next then follow folder next rest else absent name

/-- What is at a path. -/
def entry (folder : Folder) (path : String) : FileEntry :=
  if maxPath < path.utf8ByteSize then .nameTooLong
  else
    match Text.parts '/' path with
    | "" :: rest => fromRoot rest
    | segments => folder.follow [] segments

/-- The names on a path from the working directory, without detours, unless it leads outside. -/
def normalize? (path : String) : Option (List String) :=
  let segments := Text.parts '/' path
  if segments.head? = some "" then none
  else
    segments.foldlM (fun here name =>
      if name = "" || name = "." then some here
      else if name = ".." then if here.isEmpty then none else some here.dropLast
      else some (here ++ [name])) []

/-- The folder after a text was written; what lies outside of it does not count. -/
def write (folder : Folder) (path contents : String) : Folder :=
  match normalize? path with
  | none => folder
  | some names =>
    let name := String.intercalate "/" names
    ⟨folder.files.filter (fun f => f.1 ≠ name) ++ [(name, .text contents)]⟩

end Folder

end Arboretum
