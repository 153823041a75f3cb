/-!
# Powers of two and ten

The powers that bound machine words and place the point of a number.
-/

namespace Arboretum

/-- A power of two. -/
def twoPow (k : Nat) : Nat := Nat.pow 2 k

/-- A power of ten. -/
def tenPow (k : Nat) : Nat := Nat.pow 10 k

end Arboretum
