/-!
# Splitting texts

`splitOn sep` cuts a list of characters at every separator, so there is always one part more than
there are separators; `trim` removes Unicode white space at both ends.
-/

namespace Arboretum

namespace Text

/-- The parts between separators; the empty text has one empty part. -/
def splitOn (sep : Char) (cs : List Char) : List (List Char) :=
  cs.foldr (fun c parts =>
    if c = sep then [] :: parts
    else match parts with
      | [] => [[c]]
      | part :: rest => (c :: part) :: rest) [[]]

theorem splitOn_ne_nil (sep : Char) (cs : List Char) : splitOn sep cs ≠ [] := by
  unfold splitOn
  cases cs with
  | nil => simp
  | cons c cs =>
    rw [List.foldr_cons]
    split
    · simp
    · split <;> simp

theorem splitOn_cons (sep c : Char) (cs : List Char) :
    splitOn sep (c :: cs) =
      if c = sep then [] :: splitOn sep cs
      else match splitOn sep cs with
        | [] => [[c]]
        | part :: rest => (c :: part) :: rest := rfl

/-- The parts of a text between separators. -/
def parts (sep : Char) (s : String) : List String := (splitOn sep s.toList).map String.ofList

/-- The characters with the Unicode property White_Space. -/
def isWhiteSpace (c : Char) : Bool :=
  let n := c.toNat
  (0x09 ≤ n && n ≤ 0x0D) || n == 0x20 || n == 0x85 || n == 0xA0 || n == 0x1680 ||
    (0x2000 ≤ n && n ≤ 0x200A) || n == 0x2028 || n == 0x2029 || n == 0x202F || n == 0x205F ||
    n == 0x3000

/-- Without white space at either end. -/
def trimChars (cs : List Char) : List Char :=
  ((cs.dropWhile isWhiteSpace).reverse.dropWhile isWhiteSpace).reverse

def trim (s : String) : String := String.ofList (trimChars s.toList)

/-- ASCII letters in lower case, every other character as it is. -/
def lowerAscii (c : Char) : Char :=
  if 'A' ≤ c && c ≤ 'Z' then Char.ofNat (c.toNat + 32) else c

def toLowerAscii (s : String) : String := String.ofList (s.toList.map lowerAscii)

/-- Equality up to the case of ASCII letters. -/
def sameIgnoringCase (a b : String) : Bool := toLowerAscii a == toLowerAscii b

end Text

end Arboretum
