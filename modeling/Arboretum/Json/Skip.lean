import Arboretum.Json.Reader

/-!
# Passing over JSON values

A value that nobody asks for is passed over by its form alone. Numbers of any size, strings with
half of a surrogate pair and containers of any depth are all passed over, although reading them
would fail. `JsonText.skipValue` gives the characters behind a value.
-/

namespace Arboretum

namespace JsonText

/-- The letters behind a backslash, `u` apart. -/
def isShortEscape (c : Char) : Bool :=
  c == '"' || c == '\\' || c == '/' || c == 'b' || c == 'f' || c == 'n' || c == 'r' || c == 't'

/-- Passes over a string behind its opening quote; any four hexadecimal digits may follow `\u`. -/
def skipString : List Char → Reading (List Char)
  | '"' :: rest => .ok rest
  | '\\' :: 'u' :: a :: b :: c :: d :: rest =>
    if [a, b, c, d].all fun x => (hexValue? x).isSome then skipString rest
    else .error (a :: b :: c :: d :: rest)
  | '\\' :: c :: rest => if isShortEscape c then skipString rest else .error (c :: rest)
  | c :: rest => if c == '\\' || c.toNat < 0x20 then .error (c :: rest) else skipString rest
  | [] => .error []

/-- Passes over the key of a field and its colon. -/
def skipKey (cs : List Char) : Reading (List Char) :=
  match skipBlank cs with
  | '"' :: rest => do
    let rest ← skipString rest
    match skipBlank rest with
    | ':' :: rest => .ok rest
    | rest => .error rest
  | rest => .error rest

/-- Passes over a value that is no container. -/
def skipScalar : List Char → Reading (List Char)
  | 'n' :: 'u' :: 'l' :: 'l' :: rest => .ok rest
  | 't' :: 'r' :: 'u' :: 'e' :: rest => .ok rest
  | 'f' :: 'a' :: 'l' :: 's' :: 'e' :: rest => .ok rest
  | '"' :: rest => skipString rest
  | cs => (literal cs).map Prod.snd

/-- What a text may go on with. -/
inductive Expected where
  /-- A value. -/
  | value
  /-- The first field of an object. -/
  | field
  /-- What follows a value: a comma, or the end of the container. -/
  | follower
  deriving DecidableEq, Repr

/-- Passes over values until every container in `closers`, the innermost first, is closed. -/
def skipNested : (fuel : Nat) → (closers : List Char) → Expected → List Char →
    Reading (List Char)
  | 0, _, _, cs => .error cs
  | fuel + 1, closers, .value, cs =>
    match skipBlank cs with
    | '[' :: rest =>
      match skipBlank rest with
      | ']' :: rest => skipNested fuel closers .follower rest
      | rest => skipNested fuel (']' :: closers) .value rest
    | '\x7b' :: rest =>
      match skipBlank rest with
      | '\x7d' :: rest => skipNested fuel closers .follower rest
      | rest => skipNested fuel ('\x7d' :: closers) .field rest
    | rest =>
      match skipScalar rest with
      | .ok rest => skipNested fuel closers .follower rest
      | .error rest => .error rest
  | fuel + 1, closers, .field, cs =>
    match skipKey cs with
    | .ok rest => skipNested fuel closers .value rest
    | .error rest => .error rest
  | _ + 1, [], .follower, cs => .ok cs
  | fuel + 1, closer :: closers, .follower, cs =>
    match skipBlank cs with
    | ',' :: rest =>
      skipNested fuel (closer :: closers) (if closer == '\x7d' then .field else .value) rest
    | c :: rest =>
      if c == closer then skipNested fuel closers .follower rest else .error (c :: rest)
    | [] => .error []

/-- Passes over one value. -/
def skipValue (cs : List Char) : Reading (List Char) := skipNested (2 * cs.length + 2) [] .value cs

end JsonText

end Arboretum
