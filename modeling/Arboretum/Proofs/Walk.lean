import Arboretum.Shape.Convert

/-!
# The walk is a recursive copy

`Layout.convert` walks with a cursor and a stack of frames. `Layout.copyAt` makes the same copy by
recursion over the tree, which is the form every other proof is about.

* `descend_eq`: from a node whose frame was just put on the stack, the walk copies the kept nodes
  below it into that frame and climbs, with the cursor back on the node.
* `enter_eq`: the same from one of its children on, for the children that are left.
* `convert_eq_copyAt`: the walk over a whole tree is the recursive copy.
-/

namespace Arboretum

namespace Layout

/-! ## The recursive copy -/

/-- The emitted node over its emitted children. -/
def emitted (layout : Layout) (info : NodeInfo) (field : Option String) (children : List Json) :
    Json :=
  .ofFields (layout.placeFields info ++ roleFields field ++ layout.contentFields info children)

mutual

/-- The copy of a node and of what is kept below it; `level` counts from one at the root. -/
def copyAt (layout : Layout) (level : Nat) (field : Option String) :
    Tree → Except Diagnostic Json
  | .node info children =>
    if maxDepth < level then .error (layout.tooDeep info)
    else do
      let copies ← copyKept layout (level + 1) children
      return layout.emitted info field copies

/-- The copies of those of some siblings that are kept. -/
def copyKept (layout : Layout) (level : Nat) : List Tree → Except Diagnostic (List Json)
  | [] => .ok []
  | t :: rest =>
    if layout.keeps t.info then do
      let first ← copyAt layout level t.info.field t
      let others ← copyKept layout level rest
      return first :: others
    else copyKept layout level rest

end

mutual

/-- The copy depends on a layout only through what is kept, what is emitted and what is reported. -/
theorem copyAt_congr {a b : Layout} (hkeeps : ∀ info, a.keeps info = b.keeps info)
    (hemitted : ∀ info field children, a.emitted info field children = b.emitted info field children)
    (htooDeep : ∀ info, a.tooDeep info = b.tooDeep info) (level : Nat) (field : Option String) :
    ∀ tree : Tree, a.copyAt level field tree = b.copyAt level field tree
  | .node info children => by
    rw [copyAt, copyAt, htooDeep, copyKept_congr hkeeps hemitted htooDeep (level + 1) children]
    simp only [hemitted]

theorem copyKept_congr {a b : Layout} (hkeeps : ∀ info, a.keeps info = b.keeps info)
    (hemitted : ∀ info field children, a.emitted info field children = b.emitted info field children)
    (htooDeep : ∀ info, a.tooDeep info = b.tooDeep info) (level : Nat) :
    ∀ trees : List Tree, a.copyKept level trees = b.copyKept level trees
  | [] => by rw [copyKept, copyKept]
  | t :: rest => by
    rw [copyKept, copyKept, hkeeps, copyAt_congr hkeeps hemitted htooDeep level t.info.field t,
      copyKept_congr hkeeps hemitted htooDeep level rest]

end

/-! ## Frames -/

/-- Puts emitted children into a frame, one after another. -/
def Frame.addAll (frame : Frame) (children : List Json) : Frame := children.foldl Frame.add frame

@[simp] theorem Frame.addAll_nil (frame : Frame) : frame.addAll [] = frame := rfl

@[simp] theorem Frame.addAll_cons (frame : Frame) (child : Json) (rest : List Json) :
    frame.addAll (child :: rest) = (frame.add child).addAll rest := rfl

theorem Frame.addAll_info (frame : Frame) (children : List Json) :
    (frame.addAll children).info = frame.info := by
  induction children generalizing frame with
  | nil => rfl
  | cons child rest ih =>
    rw [addAll_cons, ih]
    rfl

theorem Frame.addAll_fields (frame : Frame) (children : List Json) :
    (frame.addAll children).fields = frame.fields := by
  induction children generalizing frame with
  | nil => rfl
  | cons child rest ih =>
    rw [addAll_cons, ih]
    rfl

theorem Frame.addAll_children (frame : Frame) (children : List Json) :
    (frame.addAll children).children.toList = frame.children.toList ++ children := by
  induction children generalizing frame with
  | nil => rw [addAll_nil, List.append_nil]
  | cons child rest ih =>
    rw [addAll_cons, ih]
    simp [Frame.add]

theorem closed_opened (layout : Layout) (info : NodeInfo) (field : Option String)
    (children : List Json) :
    layout.closed ((layout.opened info field).addAll children) =
      layout.emitted info field children := by
  unfold closed emitted
  rw [Frame.addAll_info, Frame.addAll_fields, Frame.addAll_children]
  simp [opened]

/-! ## The walk -/

variable {layout : Layout}

theorem descend_leaf (info : NodeInfo) (behind : List Tree) (above : List (Tree × List Tree))
    (top : Frame) (stack : List Frame) :
    layout.descend ⟨.node info [], behind, above⟩ top stack =
      layout.climb ⟨.node info [], behind, above⟩ top stack := by
  rw [descend]
  split
  · rename_i h
    simp [Cursor.firstChild?, Tree.children] at h
  · rfl

theorem descend_node (info : NodeInfo) (child : Tree) (rest behind : List Tree)
    (above : List (Tree × List Tree)) (top : Frame) (stack : List Frame) :
    layout.descend ⟨.node info (child :: rest), behind, above⟩ top stack =
      layout.enter ⟨child, rest, (.node info (child :: rest), behind) :: above⟩ top stack := by
  rw [descend]
  split
  · rename_i h
    simp only [Cursor.firstChild?, Tree.children, Option.some.injEq] at h
    rw [h]
  · rename_i h
    simp [Cursor.firstChild?, Tree.children] at h

theorem climb_root (cursor : Cursor) (top : Frame) :
    layout.climb cursor top [] = .ok (layout.closed top) := by
  rw [climb]

theorem climb_last (tree parent : Tree) (behind : List Tree) (above : List (Tree × List Tree))
    (top below : Frame) (rest : List Frame) :
    layout.climb ⟨tree, [], (parent, behind) :: above⟩ top (below :: rest) =
      layout.climb ⟨parent, behind, above⟩ (below.add (layout.closed top)) rest := by
  rw [climb]
  split
  · rename_i h
    simp [Cursor.nextSibling?] at h
  · rfl

theorem climb_next (tree next : Tree) (behind : List Tree) (above : List (Tree × List Tree))
    (top below : Frame) (rest : List Frame) :
    layout.climb ⟨tree, next :: behind, above⟩ top (below :: rest) =
      layout.enter ⟨next, behind, above⟩ (below.add (layout.closed top)) rest := by
  rw [climb]
  split
  · rename_i h
    simp only [Cursor.nextSibling?, Option.some.injEq] at h
    rw [h]
  · rename_i h
    simp [Cursor.nextSibling?] at h

/-- A kept node is entered: it gets a frame on top, if there is room. -/
theorem enter_kept {tree : Tree} (hk : layout.keeps tree.info = true) (behind : List Tree)
    (above : List (Tree × List Tree)) (top : Frame) (stack : List Frame) :
    layout.enter ⟨tree, behind, above⟩ top stack =
      (layout.push (stack.length + 1) ⟨tree, behind, above⟩).bind fun frame =>
        layout.descend ⟨tree, behind, above⟩ frame (top :: stack) := by
  have hs : layout.seekKept ⟨tree, behind, above⟩ = (true, ⟨tree, behind, above⟩) := by
    rw [seekKept, if_pos hk]
  rw [enter]
  split
  · rename_i h
    rw [hs] at h
    cases h
    rfl
  · rename_i h
    rw [hs] at h
    cases h

/-- A node that is not kept is passed over. -/
theorem enter_skip {tree : Tree} (hk : layout.keeps tree.info = false) (next : Tree)
    (behind : List Tree) (above : List (Tree × List Tree)) (top : Frame) (stack : List Frame) :
    layout.enter ⟨tree, next :: behind, above⟩ top stack =
      layout.enter ⟨next, behind, above⟩ top stack := by
  have hs : layout.seekKept ⟨tree, next :: behind, above⟩ =
      layout.seekKept ⟨next, behind, above⟩ := by
    rw [seekKept, if_neg (by rw [hk]; exact Bool.false_ne_true)]
    rfl
  rw [enter, enter, hs]

/-- Behind the last child that is not kept the cursor goes back to the parent. -/
theorem enter_none {tree : Tree} (hk : layout.keeps tree.info = false) (parent : Tree)
    (behind : List Tree) (above : List (Tree × List Tree)) (top : Frame) (stack : List Frame) :
    layout.enter ⟨tree, [], (parent, behind) :: above⟩ top stack =
      layout.climb ⟨parent, behind, above⟩ top stack := by
  have hs : layout.seekKept ⟨tree, [], (parent, behind) :: above⟩ =
      (false, ⟨tree, [], (parent, behind) :: above⟩) := by
    rw [seekKept, if_neg (by rw [hk]; exact Bool.false_ne_true)]
    rfl
  rw [enter]
  split
  · rename_i h
    rw [hs] at h
    cases h
  · rename_i h
    rw [hs] at h
    cases h
    rfl

theorem copyKept_cons_kept {tree : Tree} (hk : layout.keeps tree.info = true) (level : Nat)
    (rest : List Tree) :
    layout.copyKept level (tree :: rest) =
      (layout.copyAt level tree.info.field tree).bind fun first =>
        (layout.copyKept level rest).bind fun others => .ok (first :: others) := by
  rw [copyKept, if_pos hk]
  rfl

theorem copyKept_cons_skip {tree : Tree} (hk : layout.keeps tree.info = false) (level : Nat)
    (rest : List Tree) : layout.copyKept level (tree :: rest) = layout.copyKept level rest := by
  rw [copyKept, if_neg (by rw [hk]; exact Bool.false_ne_true)]

/-- The frame of a node, filled with the copies of what is below it, closes to the copy of the
node; it is refused when it lies too deep. -/
theorem push_bind_copyKept {β : Type} (height : Nat) (cursor : Cursor)
    (next : Json → Except Diagnostic β) :
    ((layout.push height cursor).bind fun frame =>
      (layout.copyKept (height + 2) cursor.node.children).bind fun copies =>
        next (layout.closed (frame.addAll copies))) =
      (layout.copyAt (height + 1) cursor.node.info.field cursor.node).bind next := by
  obtain ⟨⟨info, children⟩, behind, above⟩ := cursor
  unfold push copyAt
  by_cases hd : maxDepth ≤ height
  · rw [if_pos hd, if_pos (Nat.lt_succ_of_le hd)]
    rfl
  · rw [if_neg hd, if_neg (fun h => hd (Nat.le_of_lt_succ h))]
    simp only [Tree.info, Tree.children, Except.bind, closed_opened]
    cases layout.copyKept (height + 2) children <;> rfl

mutual

/-- **From a node just entered** the walk copies what is kept below it into its frame. -/
theorem descend_eq (layout : Layout) (behind : List Tree) (above : List (Tree × List Tree))
    (top : Frame) (stack : List Frame) : ∀ tree : Tree,
    layout.descend ⟨tree, behind, above⟩ top stack =
      (layout.copyKept (stack.length + 2) tree.children).bind fun copies =>
        layout.climb ⟨tree, behind, above⟩ (top.addAll copies) stack
  | .node info [] => by
    rw [descend_leaf]
    rfl
  | .node info (child :: rest) => by
    rw [descend_node]
    exact enter_eq layout (.node info (child :: rest)) behind above top stack child rest
termination_by tree => sizeOf tree

/-- **From a child on** the walk copies that child and those behind it, as far as they are kept,
into the frame of their parent. -/
theorem enter_eq (layout : Layout) (parent : Tree) (behind : List Tree)
    (above : List (Tree × List Tree)) (top : Frame) (stack : List Frame)
    (child : Tree) (rest : List Tree) :
    layout.enter ⟨child, rest, (parent, behind) :: above⟩ top stack =
      (layout.copyKept (stack.length + 2) (child :: rest)).bind fun copies =>
        layout.climb ⟨parent, behind, above⟩ (top.addAll copies) stack := by
  -- what happens behind the child, whatever has been put into the frame before
  have hrest : ∀ top : Frame, (match rest with
      | [] => layout.climb ⟨parent, behind, above⟩ top stack
      | next :: later => layout.enter ⟨next, later, (parent, behind) :: above⟩ top stack) =
      (layout.copyKept (stack.length + 2) rest).bind fun copies =>
        layout.climb ⟨parent, behind, above⟩ (top.addAll copies) stack := by
    intro top
    cases rest with
    | nil => rfl
    | cons next later => exact enter_eq layout parent behind above top stack next later
  cases hk : layout.keeps child.info with
  | false =>
    rw [copyKept_cons_skip hk, ← hrest]
    cases rest with
    | nil => exact enter_none hk parent behind above top stack
    | cons next later => exact enter_skip hk next later _ top stack
  | true =>
    have hclimb : ∀ frame : Frame,
        layout.climb ⟨child, rest, (parent, behind) :: above⟩ frame (top :: stack) =
          (layout.copyKept (stack.length + 2) rest).bind fun copies =>
            layout.climb ⟨parent, behind, above⟩
              ((top.add (layout.closed frame)).addAll copies) stack := by
      intro frame
      rw [← hrest]
      cases rest with
      | nil => exact climb_last child parent behind above frame top stack
      | cons next later => exact climb_next child next later _ frame top stack
    rw [enter_kept hk, copyKept_cons_kept hk]
    simp only [descend_eq layout rest ((parent, behind) :: above) _ (top :: stack) child, hclimb]
    rw [List.length_cons, push_bind_copyKept (stack.length + 1)
      ⟨child, rest, (parent, behind) :: above⟩ fun first =>
        (layout.copyKept (stack.length + 2) rest).bind fun copies =>
          layout.climb ⟨parent, behind, above⟩ ((top.add first).addAll copies) stack]
    cases layout.copyAt (stack.length + 1 + 1) child.info.field child with
    | error e => rfl
    | ok first => cases layout.copyKept (stack.length + 2) rest <;> rfl
termination_by sizeOf child + sizeOf rest + 1

end

/-- **The walk over a whole tree is the recursive copy.** -/
theorem convert_eq_copyAt (layout : Layout) (tree : Tree) :
    layout.convert tree = layout.copyAt 1 none tree := by
  obtain ⟨info, children⟩ := tree
  unfold convert Cursor.ofTree
  rw [descend_eq, copyAt, if_neg (by decide)]
  simp only [climb_root, Tree.info, Tree.children, List.length_nil, closed_opened]
  rfl

end Layout

end Arboretum
