import Arboretum.Tree.Basic

/-!
# Cursors

A cursor is a place in a tree. It moves to the first child, to the next sibling and back to the
parent; where there is no such node it does not move. `Cursor.pass?` moves past everything below
the cursor. `Cursor.ahead` counts the nodes that come behind the cursor in pre-order, the measure
by which a walk ends.
-/

namespace Arboretum

namespace Tree

mutual

/-- The number of nodes. -/
def size : Tree → Nat
  | .node _ children => sizeList children + 1

def sizeList : List Tree → Nat
  | [] => 0
  | t :: rest => size t + sizeList rest

end

end Tree

/-- A node, the siblings behind it, and the nodes above it, nearest first, each with the siblings
behind it. -/
structure Cursor where
  node : Tree
  behind : List Tree
  above : List (Tree × List Tree)

namespace Cursor

/-- The cursor at the root of a tree. -/
def ofTree (tree : Tree) : Cursor := ⟨tree, [], []⟩

def firstChild? (cursor : Cursor) : Option Cursor :=
  match cursor.node.children with
  | [] => none
  | child :: rest => some ⟨child, rest, (cursor.node, cursor.behind) :: cursor.above⟩

def nextSibling? (cursor : Cursor) : Option Cursor :=
  match cursor.behind with
  | [] => none
  | sibling :: rest => some ⟨sibling, rest, cursor.above⟩

def parent? (cursor : Cursor) : Option Cursor :=
  match cursor.above with
  | [] => none
  | (node, behind) :: above => some ⟨node, behind, above⟩

/-- The cursor at the parent; at the root it stays where it is. -/
def parent (cursor : Cursor) : Cursor := cursor.parent?.getD cursor

theorem above_parent? {cursor up : Cursor} (h : cursor.parent? = some up) :
    up.above.length < cursor.above.length := by
  obtain ⟨node, behind, above⟩ := cursor
  cases above with
  | nil => simp [parent?] at h
  | cons entry above =>
    simp only [parent?, Option.some.injEq] at h
    subst h
    exact Nat.lt_succ_self _

/-- Moves on to the next sibling, or else to that of the nearest node above that has one. -/
def pass? (cursor : Cursor) : Option Cursor :=
  match cursor.nextSibling? with
  | some next => some next
  | none =>
    match _h : cursor.parent? with
    | some up => up.pass?
    | none => none
termination_by cursor.above.length
decreasing_by exact above_parent? _h

/-! ## What is ahead -/

/-- The nodes behind those above. -/
def sizeAbove : List (Tree × List Tree) → Nat
  | [] => 0
  | (_, behind) :: above => Tree.sizeList behind + sizeAbove above

/-- The number of nodes that come behind everything below the cursor. -/
def after (cursor : Cursor) : Nat := Tree.sizeList cursor.behind + sizeAbove cursor.above

/-- The number of nodes that come behind the cursor. -/
def ahead (cursor : Cursor) : Nat := Tree.sizeList cursor.node.children + cursor.after

theorem after_le_ahead (cursor : Cursor) : cursor.after ≤ cursor.ahead :=
  Nat.le_add_left _ _

theorem ahead_firstChild {cursor child : Cursor} (h : cursor.firstChild? = some child) :
    child.ahead < cursor.ahead := by
  obtain ⟨⟨info, children⟩, behind, above⟩ := cursor
  cases children with
  | nil => simp [firstChild?, Tree.children] at h
  | cons t rest =>
    obtain ⟨_, grandchildren⟩ := t
    simp only [firstChild?, Tree.children, Option.some.injEq] at h
    subst h
    simp only [ahead, after, sizeAbove, Tree.children, Tree.sizeList, Tree.size]
    omega

theorem ahead_nextSibling {cursor next : Cursor} (h : cursor.nextSibling? = some next) :
    next.ahead < cursor.after := by
  obtain ⟨node, behind, above⟩ := cursor
  cases behind with
  | nil => simp [nextSibling?] at h
  | cons t rest =>
    obtain ⟨_, children⟩ := t
    simp only [nextSibling?, Option.some.injEq] at h
    subst h
    simp only [ahead, after, Tree.children, Tree.sizeList, Tree.size]
    omega

theorem after_parent? {cursor up : Cursor} (h : cursor.parent? = some up) :
    up.after ≤ cursor.after := by
  obtain ⟨node, behind, above⟩ := cursor
  cases above with
  | nil => simp [parent?] at h
  | cons entry above =>
    simp only [parent?, Option.some.injEq] at h
    subst h
    simp only [after, sizeAbove]
    omega

theorem after_parent (cursor : Cursor) : cursor.parent.after ≤ cursor.after := by
  unfold parent
  cases h : cursor.parent? with
  | none => exact Nat.le_refl _
  | some up => exact after_parent? h

theorem ahead_pass {cursor next : Cursor} (h : cursor.pass? = some next) :
    next.ahead < cursor.after := by
  fun_induction pass? with
  | case1 cursor sibling hsibling =>
    cases h
    exact ahead_nextSibling hsibling
  | case2 cursor _ up hup ih =>
    exact Nat.lt_of_lt_of_le (ih h) (after_parent? hup)
  | case3 => cases h

end Cursor

end Arboretum
