import Arboretum.Text.Split

/-!
# Paths

The parts of a path as text: its segments, its file name and extension, and the directory it lies
in.
-/

namespace Arboretum

namespace Path

/-- The segments of a path; empty ones and `.` do not count. -/
def segments (path : String) : List String :=
  (Text.parts '/' path).filter fun s => s ≠ "" && s ≠ "."

/-- The last segment, unless it is `..`. -/
def fileName? (path : String) : Option String :=
  match (segments path).getLast? with
  | some ".." => none
  | name => name

/-- The extension of a file name: what follows its last dot, unless the name begins there. -/
def extension? (path : String) : Option String := do
  let name ← fileName? path
  let parts := Text.parts '.' name
  match parts.getLast? with
  | none => none
  | some last => if parts.length < 2 || parts.dropLast == [""] then none else some last

def endsWithSlash (path : String) : Bool := path.toList.getLast? == some '/'

/-- The directory that a path lies in, slashes at the end apart. -/
def directory (path : String) : String :=
  let segments := ((Text.parts '/' path).reverse.dropWhile (· == "")).drop 1
  if segments.isEmpty then "." else String.intercalate "/" segments.reverse

end Path

end Arboretum
