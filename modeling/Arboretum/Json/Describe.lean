import Arboretum.Json.Printer
import Arboretum.Text.Quoted

/-!
# Descriptions of JSON values

The notation for values inside descriptions of options: each value under the name of its kind.
-/

namespace Arboretum

namespace Json

mutual

/-- A value under the name of its kind. -/
def describe : Json → String
  | .null => "Null"
  | .bool b => "Bool(" ++ Text.truth b ++ ")"
  | .num n => "Number(" ++ n.write ++ ")"
  | .str s => "String(" ++ Text.quoted s ++ ")"
  | .arr items => "Array " ++ Text.bracketList (describeList items)
  | .obj fields => "Object " ++ Text.braceList (describeFields fields)

def describeList : List Json → List String
  | [] => []
  | v :: rest => describe v :: describeList rest

def describeFields : List (String × Json) → List String
  | [] => []
  | (k, v) :: rest => (Text.quoted k ++ ": " ++ describe v) :: describeFields rest

end

end Json

end Arboretum
