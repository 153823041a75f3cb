import Arboretum.Proofs.Fields
import Arboretum.Proofs.Positions
import Arboretum.Proofs.Walk

/-!
# Conversion copies the kept nodes

What `Layout.convert` returns, without the walk that computes it: the tree of the kept nodes, each
shown with its own data, or a report on the first node that lies too deep.

* `Tree.prune`: the kept tree. `Tree.height` and `Tree.firstAt` give its levels.
* `Layout.shown`: what a node shows under each key. `get?_emitted` says that an emitted node shows
  this and nothing else.
* `Layout.Shows`: a value shows a tree, node by node in the same order.
* `copyAt_ok`, `copyAt_error`: a node is copied if no kept node below it is too deep, and refused
  at the first such node otherwise.
* `convert_copies_kept_tree`: the same of a whole tree.
-/

namespace Arboretum

namespace Tree

/-! ## The kept tree -/

mutual

/-- The tree without those nodes below the root that are not to be kept, and without what is below
them. -/
def prune (keep : NodeInfo → Bool) : Tree → Tree
  | .node info children => .node info (pruneList keep children)

def pruneList (keep : NodeInfo → Bool) : List Tree → List Tree
  | [] => []
  | t :: rest =>
    if keep t.info then prune keep t :: pruneList keep rest else pruneList keep rest

end

mutual

/-- The number of levels. -/
def height : Tree → Nat
  | .node _ children => heightList children + 1

def heightList : List Tree → Nat
  | [] => 0
  | t :: rest => max (height t) (heightList rest)

end

mutual

/-- The nodes in pre-order with their levels, that of the root being `level`. -/
def leveled (level : Nat) : Tree → List (Nat × NodeInfo)
  | .node info children => (level, info) :: leveledList (level + 1) children

def leveledList (level : Nat) : List Tree → List (Nat × NodeInfo)
  | [] => []
  | t :: rest => leveled level t ++ leveledList level rest

end

/-- The first node in pre-order at a level, the root being at level one. -/
def firstAt (tree : Tree) (level : Nat) : Option NodeInfo :=
  ((tree.leveled 1).find? fun entry => entry.1 = level).map Prod.snd

end Tree

/-! ## What a node shows -/

/-- The characters between the point's line start and the byte. -/
def Text.charColumn (source : List Char) (byte : Nat) (point : Point) : Nat :=
  charsBefore source byte - charsBefore source (byte - point.column)

namespace Layout

open Text

/-- Line from one and column from `base` at a byte. -/
def shownLine (layout : Layout) (byte : Nat) (point : Point) (base : Nat) : List (String × Json) :=
  [("line", .ofNat (point.row + 1)),
   ("column", .ofNat (charColumn layout.source byte point + base))]

/-- Offset, line and column at a byte. -/
def shownPoint (layout : Layout) (byte : Nat) (point : Point) (base : Nat) : Json :=
  .ofFields (("offset", .ofNat (charsBefore layout.source byte)) ::
    layout.shownLine byte point base)

/-- What a node shows under `loc`. -/
def shownLoc (layout : Layout) (info : NodeInfo) : Option Json :=
  match layout.shape with
  | .estree =>
    if layout.options.loc then some (.ofFields
      [("start", .ofFields (layout.shownLine info.startByte info.startPoint 0)),
       ("end", .ofFields (layout.shownLine info.stopByte info.stopPoint 0))])
    else none
  | .cssTree =>
    if layout.options.positions then some (.ofFields
      [("source", .str (layout.options.source.getD "<unknown>")),
       ("start", layout.shownPoint info.startByte info.startPoint 1),
       ("end", layout.shownPoint info.stopByte info.stopPoint 1)])
    else none
  | .cst => some (.ofFields
      [("start", layout.shownPoint info.startByte info.startPoint 0),
       ("end", layout.shownPoint info.stopByte info.stopPoint 0)])

/-- The text a node shows when it has no children. -/
def shownText (layout : Layout) (info : NodeInfo) (children : List Json) : Option Json :=
  if children = [] ∧ (info.named ∨ layout.shape = .cst) then
    some (.str (String.ofList (info.chars layout.source)))
  else none

/-- What a node shows under each key, over the children it shows. -/
def shown (layout : Layout) (info : NodeInfo) (field : Option String) (children : List Json) :
    String → Option Json
  | "type" => some (if layout.shape = .cst then .ofNat info.kindId else .str info.kind)
  | "named" => if layout.shape = .cst then some (.bool info.named) else none
  | "start" =>
    if layout.shape = .estree then some (.ofNat (charsBefore layout.source info.startByte))
    else none
  | "end" =>
    if layout.shape = .estree then some (.ofNat (charsBefore layout.source info.stopByte))
    else none
  | "range" =>
    if layout.shape = .estree ∧ layout.options.range then
      some (.arr [.ofNat (charsBefore layout.source info.startByte),
        .ofNat (charsBefore layout.source info.stopByte)])
    else none
  | "loc" => layout.shownLoc info
  | "field" => field.map .str
  | "children" => if children = [] then none else some (.arr children)
  | "text" => if layout.shape = .cssTree then none else layout.shownText info children
  | "value" => if layout.shape = .cssTree then layout.shownText info children else none
  | _ => none

variable {layout : Layout}

theorem offset_eq (hindex : layout.index = .ofSource layout.source) (byte : Nat) :
    layout.index.offset byte = charsBefore layout.source byte := by
  rw [hindex, CharIndex.offset_ofSource]

theorem lineColumn_eq (hindex : layout.index = .ofSource layout.source) (byte : Nat)
    (point : Point) (base : Nat) :
    layout.lineColumn byte point base = layout.shownLine byte point base := by
  simp only [lineColumn, shownLine, charColumn, CharIndex.column, offset_eq hindex]

theorem position_eq (hindex : layout.index = .ofSource layout.source) (byte : Nat)
    (point : Point) (base : Nat) :
    layout.position byte point base = layout.shownPoint byte point base := by
  rw [position, shownPoint, lineColumn_eq hindex, offset_eq hindex]

theorem placeFields_eq (hindex : layout.index = .ofSource layout.source) (info : NodeInfo) :
    layout.placeFields info = match layout.shape with
    | .estree =>
      [("type", .str info.kind), ("start", .ofNat (charsBefore layout.source info.startByte)),
       ("end", .ofNat (charsBefore layout.source info.stopByte))] ++
      ((layout.shownLoc info).map fun loc => ("loc", loc)).toList ++
      ((layout.shown info none [] "range").map fun range => ("range", range)).toList
    | .cssTree => [("type", .str info.kind)] ++
      ((layout.shownLoc info).map fun loc => ("loc", loc)).toList
    | .cst => [("type", .ofNat info.kindId), ("named", .bool info.named)] ++
      ((layout.shownLoc info).map fun loc => ("loc", loc)).toList := by
  unfold placeFields shownLoc shown
  simp only [lineColumn_eq hindex, position_eq hindex, offset_eq hindex]
  cases layout.shape with
  | estree => cases layout.options.loc <;> cases layout.options.range <;> rfl
  | cssTree => cases layout.options.positions <;> rfl
  | cst => rfl

theorem contentFields_eq (info : NodeInfo) (children : List Json) :
    layout.contentFields info children =
      ((layout.shown info none children "children").map fun c => ("children", c)).toList ++
      ((layout.shownText info children).map fun t => (textKey layout.shape, t)).toList := by
  unfold contentFields shown shownText
  cases children with
  | nil => by_cases h : info.named ∨ layout.shape = .cst <;> simp [h]
  | cons child rest => simp

/-- An emitted node shows what `shown` says under every key. -/
theorem get?_emitted (hindex : layout.index = .ofSource layout.source) (info : NodeInfo)
    (field : Option String) (children : List Json) (key : String) :
    (layout.emitted info field children).get? key = layout.shown info field children key := by
  have hrole : roleFields field = ((field.map Json.str).map fun f => ("field", f)).toList := by
    cases field <;> rfl
  generalize hfound : (layout.emitted info field children).get? key = found
  unfold emitted at hfound
  rw [placeFields_eq hindex, contentFields_eq, hrole] at hfound
  unfold shown
  cases hs : layout.shape
  all_goals
    simp only [hs, Json.get?_ofFields, Fields.get?_ofList_append, Fields.get?_ofList_toList,
      Fields.get?_ofList_cons, Fields.get?_ofList_nil, textKey] at hfound
    split
    all_goals
      subst hfound
      simp_all [shown]

/-- **A value shows a tree**: it is an object that shows the root's own data under every key, and
over it, in the same order, values that show the children. -/
inductive Shows (layout : Layout) : Option String → Tree → Json → Prop
  | node {field : Option String} {info : NodeInfo} {children : List Tree} {fields : Fields}
      {values : List Json}
      (below : List.Forall₂ (fun t value => Shows layout t.info.field t value) children values)
      (keys : ∀ key, fields.get? key = layout.shown info field values key) :
      Shows layout field (.node info children) (.obj fields)

/-- The values show the trees, one by one. -/
def ShowsAll (layout : Layout) : List Tree → List Json → Prop :=
  List.Forall₂ fun t value => layout.Shows t.info.field t value

theorem shows_emitted (hindex : layout.index = .ofSource layout.source) {info : NodeInfo}
    {field : Option String} {children : List Tree} {values : List Json}
    (h : layout.ShowsAll children values) :
    layout.Shows field (.node info children) (layout.emitted info field values) :=
  .node h (get?_emitted hindex info field values)

/-! ## The copy of a tree that is not too deep -/

theorem info_prune (keep : NodeInfo → Bool) (tree : Tree) : (tree.prune keep).info = tree.info := by
  obtain ⟨info, children⟩ := tree
  rw [Tree.prune]
  rfl

mutual

/-- A node is copied if no kept node below it lies too deep, and the copy shows what is kept. -/
theorem copyAt_ok (hindex : layout.index = .ofSource layout.source) (level : Nat)
    (field : Option String) : ∀ tree : Tree,
    (tree.prune layout.keeps).height + level ≤ maxDepth + 1 →
      ∃ value, layout.copyAt level field tree = .ok value ∧
        layout.Shows field (tree.prune layout.keeps) value
  | .node info children, h => by
    rw [Tree.prune, Tree.height] at h
    obtain ⟨values, hvalues, hshow⟩ := copyKept_ok hindex (level + 1) children (by omega)
    refine ⟨layout.emitted info field values, ?_, ?_⟩
    · rw [copyAt, if_neg (by omega), hvalues]
      rfl
    · rw [Tree.prune]
      exact shows_emitted hindex hshow

theorem copyKept_ok (hindex : layout.index = .ofSource layout.source) (level : Nat) :
    ∀ trees : List Tree,
    Tree.heightList (Tree.pruneList layout.keeps trees) + level ≤ maxDepth + 1 →
      ∃ values, layout.copyKept level trees = .ok values ∧
        layout.ShowsAll (Tree.pruneList layout.keeps trees) values
  | [], _ => ⟨[], rfl, .nil⟩
  | t :: rest, h => by
    cases hk : layout.keeps t.info with
    | false =>
      rw [Tree.pruneList, if_neg (by rw [hk]; exact Bool.false_ne_true)] at h ⊢
      rw [copyKept_cons_skip hk]
      exact copyKept_ok hindex level rest h
    | true =>
      rw [Tree.pruneList, if_pos hk] at h ⊢
      rw [Tree.heightList] at h
      obtain ⟨first, hfirst, hshow⟩ := copyAt_ok hindex level t.info.field t (by omega)
      obtain ⟨others, hothers, hshows⟩ := copyKept_ok hindex level rest (by omega)
      refine ⟨first :: others, ?_, .cons ?_ hshows⟩
      · rw [copyKept_cons_kept hk, hfirst, hothers]
        rfl
      · rw [info_prune]
        exact hshow

end

/-! ## The first node that lies too deep -/

mutual

theorem leveled_lt (level : Nat) : ∀ (tree : Tree) (entry : Nat × NodeInfo),
    entry ∈ tree.leveled level → entry.1 < level + tree.height
  | .node info children, entry, h => by
    rw [Tree.leveled, List.mem_cons] at h
    rw [Tree.height]
    rcases h with rfl | h
    · simp only
      omega
    · have := leveledList_lt (level + 1) children entry h
      omega

theorem leveledList_lt (level : Nat) : ∀ (trees : List Tree) (entry : Nat × NodeInfo),
    entry ∈ Tree.leveledList level trees → entry.1 < level + Tree.heightList trees
  | [], _, h => absurd h List.not_mem_nil
  | t :: rest, entry, h => by
    rw [Tree.leveledList, List.mem_append] at h
    rw [Tree.heightList]
    rcases h with h | h
    · have := leveled_lt level t entry h
      omega
    · have := leveledList_lt level rest entry h
      omega

end

/-- The first of some nodes with their levels that lies too deep. -/
def firstTooDeep (nodes : List (Nat × NodeInfo)) : Option NodeInfo :=
  (nodes.find? fun entry => entry.1 = maxDepth + 1).map Prod.snd

theorem firstTooDeep_append (front back : List (Nat × NodeInfo)) :
    firstTooDeep (front ++ back) = (firstTooDeep front).or (firstTooDeep back) := by
  unfold firstTooDeep
  rw [List.find?_append, Option.map_or]

theorem firstTooDeep_eq_none {level : Nat} {tree : Tree}
    (h : tree.height + level ≤ maxDepth + 1) : firstTooDeep (tree.leveled level) = none := by
  unfold firstTooDeep
  rw [Option.map_eq_none_iff, List.find?_eq_none]
  intro entry hentry
  have := leveled_lt level tree entry hentry
  simp only [decide_eq_true_eq]
  omega

mutual

/-- A node below which a kept node lies too deep is refused at the first such node. -/
theorem copyAt_error (hindex : layout.index = .ofSource layout.source) (level : Nat)
    (hlevel : level ≤ maxDepth + 1) (field : Option String) : ∀ tree : Tree,
    maxDepth + 1 < (tree.prune layout.keeps).height + level →
      ∃ info, firstTooDeep ((tree.prune layout.keeps).leveled level) = some info ∧
        layout.copyAt level field tree = .error (layout.tooDeep info)
  | .node info children, h => by
    rw [Tree.prune, Tree.height] at h
    rw [Tree.prune, Tree.leveled, copyAt]
    by_cases hd : maxDepth < level
    · refine ⟨info, ?_, by rw [if_pos hd]⟩
      have : level = maxDepth + 1 := by omega
      simp [firstTooDeep, this]
    · obtain ⟨deep, hfirst, herr⟩ :=
        copyKept_error hindex (level + 1) (by omega) children (by omega)
      refine ⟨deep, ?_, ?_⟩
      · have hne : level ≠ maxDepth + 1 := by omega
        rw [← hfirst]
        simp [firstTooDeep, hne]
      · rw [if_neg hd, herr]
        rfl

theorem copyKept_error (hindex : layout.index = .ofSource layout.source) (level : Nat)
    (hlevel : level ≤ maxDepth + 1) : ∀ trees : List Tree,
    maxDepth + 1 < Tree.heightList (Tree.pruneList layout.keeps trees) + level →
      ∃ info, firstTooDeep (Tree.leveledList level (Tree.pruneList layout.keeps trees)) = some info ∧
        layout.copyKept level trees = .error (layout.tooDeep info)
  | [], h => by
    rw [Tree.pruneList, Tree.heightList] at h
    omega
  | t :: rest, h => by
    cases hk : layout.keeps t.info with
    | false =>
      rw [Tree.pruneList, if_neg (by rw [hk]; exact Bool.false_ne_true)] at h ⊢
      rw [copyKept_cons_skip hk]
      exact copyKept_error hindex level hlevel rest h
    | true =>
      rw [Tree.pruneList, if_pos hk] at h ⊢
      rw [Tree.heightList] at h
      rw [Tree.leveledList, firstTooDeep_append, copyKept_cons_kept hk]
      by_cases hd : maxDepth + 1 < (t.prune layout.keeps).height + level
      · obtain ⟨deep, hfirst, herr⟩ := copyAt_error hindex level hlevel t.info.field t hd
        refine ⟨deep, by rw [hfirst, Option.some_or], ?_⟩
        rw [herr]
        rfl
      · -- the first tree fits, so the node is in the rest
        obtain ⟨first, hok, -⟩ := copyAt_ok hindex level t.info.field t (by omega)
        obtain ⟨deep, hfirst, herr⟩ := copyKept_error hindex level hlevel rest (by omega)
        refine ⟨deep, ?_, ?_⟩
        · rw [firstTooDeep_eq_none (by omega), Option.none_or, hfirst]
        · rw [hok, herr]
          rfl

end

/-! ## The conversion -/

theorem tooDeep_eq (hindex : layout.index = .ofSource layout.source) (info : NodeInfo) :
    layout.tooDeep info =
      { message := "tree nesting exceeds 1024 levels"
        line := some (info.startPoint.row + 1)
        column := some (charColumn layout.source info.startByte info.startPoint + 1)
        offset := some (charsBefore layout.source info.startByte) } := by
  have hmessage : "tree nesting exceeds " ++ toString maxDepth ++ " levels" =
      "tree nesting exceeds 1024 levels" := by decide
  unfold tooDeep NodeInfo.report
  rw [hmessage, CharIndex.column, offset_eq hindex, offset_eq hindex]
  rfl

/-- **Conversion copies the kept nodes up to a depth.** Kept are the root and every node that is
reached from it through named nodes only, or through all nodes if anonymous ones are included. A
kept tree of at most 1024 levels is shown node by node; of a deeper one the first node at level
1025 is reported. -/
theorem convert_copies_kept_tree (source : List Char) (shape : Shape) (options : ShapeOptions)
    (tree : Tree) :
    let layout := Layout.ofSource source shape options
    let kept := tree.prune fun info => info.named || options.includeAnonymous
    if kept.height ≤ 1024 then
      ∃ value, layout.convert tree = .ok value ∧ layout.Shows none kept value
    else
      ∃ info, kept.firstAt 1025 = some info ∧ layout.convert tree = .error
        { message := "tree nesting exceeds 1024 levels"
          line := some (info.startPoint.row + 1)
          column := some (charColumn source info.startByte info.startPoint + 1)
          offset := some (charsBefore source info.startByte) } := by
  intro layout kept
  have hindex : layout.index = .ofSource layout.source := rfl
  rw [convert_eq_copyAt]
  split
  · rename_i hle
    exact copyAt_ok hindex 1 none tree (Nat.succ_le_succ hle)
  · rename_i hlt
    obtain ⟨info, hfirst, herr⟩ := copyAt_error hindex 1 (by decide) none tree
      (Nat.succ_lt_succ (Nat.lt_of_not_le hlt))
    exact ⟨info, hfirst, by rw [herr, tooDeep_eq hindex]; rfl⟩

end Layout

end Arboretum
