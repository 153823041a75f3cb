import Arboretum.Catalog.Basic
import Arboretum.Proofs.Conversion
import Arboretum.Proofs.Slices
import Mathlib.Data.List.Forall2

/-!
# Converted nodes are located at their text

A grammar places each node at a range of bytes and at two points. Conversion writes the range in
the positions of its shape, a strategy reads it off again, and the slice of the source there is
the text the node came from.

* `NodeInfo.PlacedIn`: what a grammar promises of the place of a node; `PlacedIn.exists_cuts`
  turns it into a cut of the source in three, and the lemmas on `NodeInfo.Cuts` say what offset,
  row and column the index gives at either end of the middle part.
* `Pairing`: the five ways to pair a shape with a strategy, each with the option that turns it
  on. `Pairing.of_catalog` says that every entry of the catalog is one of them.
* `Pairing.resolve_shown`: what the strategy of a pairing reads off one node.
* `Shows.nodeAt`: the node at a path of an emitted tree shows the node at that path of the kept
  tree.
* `Pairing.located_at_text`: at every depth the located text is the node's own; with the option
  off no node has a location.
-/

namespace Arboretum

open Text

/-! ## Places -/

/-- A byte between two characters of a source, or at its end, with its point: the row counts the
line feeds before it, the column the bytes behind the last of them. -/
def Text.At (source : List Char) (byte : Nat) (point : Point) : Prop :=
  ∃ pre, pre <+: source ∧ byteLength pre = byte ∧ endPoint pre = point

/-- A text is what a source holds between two bytes. -/
def Text.Covers (source : List Char) (start stop : Nat) (text : List Char) : Prop :=
  ∃ pre post, source = pre ++ text ++ post ∧ byteLength pre = start ∧
    byteLength (pre ++ text) = stop

/-- The bytes determine the text. -/
theorem Text.Covers.bytesBetween? {source text : List Char} {start stop : Nat}
    (h : Text.Covers source start stop text) : bytesBetween? source start stop = some text := by
  obtain ⟨pre, post, rfl, rfl, rfl⟩ := h
  exact bytesBetween?_append pre text post

/-- What a grammar promises of the place of a node. -/
structure NodeInfo.PlacedIn (info : NodeInfo) (source : List Char) : Prop where
  start_le_stop : info.startByte ≤ info.stopByte
  start : Text.At source info.startByte info.startPoint
  stop : Text.At source info.stopByte info.stopPoint

/-- Every node of a tree has its place in the source. -/
def Tree.PlacedIn (tree : Tree) (source : List Char) : Prop :=
  ∀ info ∈ tree.preorder, info.PlacedIn source

theorem Text.eq_nil_of_byteLength {cs : List Char} (h : byteLength cs = 0) : cs = [] := by
  cases cs with
  | nil => rfl
  | cons c cs =>
    have hc := c.utf8Size_pos
    rw [byteLength] at h
    omega

/-- Of two positions the one with the smaller byte comes first. -/
theorem Text.prefix_of_byteLength_le {source a b : List Char} (ha : a <+: source)
    (hb : b <+: source) (h : byteLength a ≤ byteLength b) : a <+: b := by
  rcases List.prefix_or_prefix_of_prefix ha hb with hab | ⟨rest, rfl⟩
  · exact hab
  · rw [byteLength_append] at h
    have hrest : rest = [] := eq_nil_of_byteLength (by omega)
    simp [hrest]

/-- The place of a node cuts a source in three: what is before the node, its text, and what is
behind it. -/
structure NodeInfo.Cuts (info : NodeInfo) (source pre text post : List Char) : Prop where
  source_eq : source = pre ++ text ++ post
  start : byteLength pre = info.startByte
  stop : byteLength (pre ++ text) = info.stopByte
  startPoint : endPoint pre = info.startPoint
  stopPoint : endPoint (pre ++ text) = info.stopPoint

theorem NodeInfo.PlacedIn.exists_cuts {info : NodeInfo} {source : List Char}
    (h : info.PlacedIn source) : ∃ pre text post, info.Cuts source pre text post := by
  obtain ⟨a, ha, habyte, hapoint⟩ := h.start
  obtain ⟨b, hb, hbbyte, hbpoint⟩ := h.stop
  have hle : byteLength a ≤ byteLength b := by
    rw [habyte, hbbyte]
    exact h.start_le_stop
  obtain ⟨text, rfl⟩ := prefix_of_byteLength_le ha hb hle
  obtain ⟨post, hpost⟩ := hb
  exact ⟨a, text, post, hpost.symm, habyte, hbbyte, hapoint, hbpoint⟩

theorem Text.charColumn_endPoint (pre post : List Char) :
    charColumn (pre ++ post) (byteLength pre) (endPoint pre) = (lastLine pre).length := by
  rw [← column_endPoint pre post, charColumn, CharIndex.column, CharIndex.offset_ofSource,
    CharIndex.offset_ofSource]

namespace NodeInfo.Cuts

variable {info : NodeInfo} {source pre text post : List Char}

theorem covers (h : info.Cuts source pre text post) :
    Text.Covers source info.startByte info.stopByte text :=
  ⟨pre, post, h.source_eq, h.start, h.stop⟩

theorem chars_eq (h : info.Cuts source pre text post) : info.chars source = text := by
  rw [chars, h.covers.bytesBetween?, Option.getD_some]

theorem charsBefore_start (h : info.Cuts source pre text post) :
    charsBefore source info.startByte = pre.length := by
  rw [h.source_eq, ← h.start, List.append_assoc, charsBefore_append]

theorem charsBefore_stop (h : info.Cuts source pre text post) :
    charsBefore source info.stopByte = (pre ++ text).length := by
  rw [h.source_eq, ← h.stop, charsBefore_append]

theorem charColumn_start (h : info.Cuts source pre text post) :
    charColumn source info.startByte info.startPoint = (lastLine pre).length := by
  rw [h.source_eq, ← h.start, ← h.startPoint, List.append_assoc, charColumn_endPoint]

theorem charColumn_stop (h : info.Cuts source pre text post) :
    charColumn source info.stopByte info.stopPoint = (lastLine (pre ++ text)).length := by
  rw [h.source_eq, ← h.stop, ← h.stopPoint, charColumn_endPoint]

theorem row_start (h : info.Cuts source pre text post) :
    info.startPoint.row = pre.count '\n' := by
  rw [← h.startPoint, endPoint]

theorem row_stop (h : info.Cuts source pre text post) :
    info.stopPoint.row = (pre ++ text).count '\n' := by
  rw [← h.stopPoint, endPoint]

end NodeInfo.Cuts

theorem Text.length_le_append (pre text : List Char) : pre.length ≤ (pre ++ text).length := by
  rw [List.length_append]
  omega

/-! ## Slices -/

namespace Location

theorem slice_offsets (pre mid post : List Char) :
    (Location.offsets pre.length (pre ++ mid).length).sliceChars (pre ++ mid ++ post) =
      some mid :=
  charsBetween?_append pre mid post

theorem slice_lineColumn (pre mid post : List Char) :
    (Location.lineColumn (pre.count '\n' + 1) (lastLine pre).length
      ((pre ++ mid).count '\n' + 1) (lastLine (pre ++ mid)).length).sliceChars
        (pre ++ mid ++ post) = some mid :=
  sliceChars_lineColumn_iff.mpr ⟨pre, post, rfl, ⟨rfl, rfl⟩, ⟨rfl, rfl⟩⟩

end Location

/-! ## Readings -/

namespace Strategy

@[simp] theorem asOffset_ofNat (n : Nat) : asOffset (.ofNat n) = some n := rfl

theorem ordered_of_le {start stop : Nat} (h : start ≤ stop) :
    ordered start stop = some (.offsets start stop) := if_pos h

theorem resolve_startEnd {fields : Fields} {start stop : Nat}
    (hstart : fields.get? "start" = some (.ofNat start))
    (hstop : fields.get? "end" = some (.ofNat stop)) (h : start ≤ stop) :
    startEnd.resolve (.obj fields) = some (.offsets start stop) := by
  simp [startEnd, resolve, hstart, hstop, ordered_of_le h]

theorem resolve_tuple {fields : Fields} {start stop : Nat} {field : String}
    (hfield : fields.get? field = some (.arr [.ofNat start, .ofNat stop])) (h : start ≤ stop) :
    (Strategy.offsets (.tuple field)).resolve (.obj fields) = some (.offsets start stop) := by
  simp [resolve, hfield, ordered_of_le h]

theorem resolve_tuple_absent {fields : Fields} {field : String}
    (hfield : fields.get? field = none) :
    (Strategy.offsets (.tuple field)).resolve (.obj fields) = none := by
  simp [resolve, hfield]

theorem segments_loc (point : PointShape) :
    StructuredPath.segments ⟨"loc", "start", "end", point⟩ = ["loc"] := by
  have h : Text.parts '.' "loc" = ["loc"] := by decide
  exact h

/-- A nested location is read off the two points under `loc`. -/
theorem resolve_under_loc {fields : Fields} {loc start stop : Json} (point : PointShape)
    (hloc : fields.get? "loc" = some loc) (hstart : loc.get? "start" = some start)
    (hstop : loc.get? "end" = some stop) :
    (Strategy.structured ⟨"loc", "start", "end", point⟩).resolve (.obj fields) =
      resolvePoints point start stop := by
  simp [resolve, StructuredPath.firstKey, StructuredPath.lookup, segments_loc, hloc, hstart, hstop]

theorem resolve_loc_absent {fields : Fields} (point : PointShape)
    (hloc : fields.get? "loc" = none) :
    (Strategy.structured ⟨"loc", "start", "end", point⟩).resolve (.obj fields) = none := by
  simp [resolve, StructuredPath.firstKey, segments_loc, hloc]

theorem resolvePoints_offset {start stop : Json} {a b : Nat}
    (hstart : start.get? "offset" = some (.ofNat a)) (hstop : stop.get? "offset" = some (.ofNat b))
    (h : a ≤ b) : resolvePoints (.offset "offset") start stop = some (.offsets a b) := by
  simp [resolvePoints, hstart, hstop, ordered_of_le h]

theorem resolvePoints_lineColumn {start stop : Json} {a b c d : Nat}
    (ha : start.get? "line" = some (.ofNat a)) (hb : start.get? "column" = some (.ofNat b))
    (hc : stop.get? "line" = some (.ofNat c)) (hd : stop.get? "column" = some (.ofNat d))
    (h : a < c ∨ a = c ∧ b ≤ d) :
    resolvePoints .lineColumn start stop = some (.lineColumn a b c d) := by
  have hord : ¬ (c < a ∨ c = a ∧ d < b) := by omega
  simpa [resolvePoints, lineColumn, orderedPoints, ha, hb, hc, hd] using hord

end Strategy

/-! ## Pairings -/

/-- A shape with a strategy that fits it. -/
inductive Pairing where
  | offsets
  | range
  | lines
  | positions
  | cst
  deriving DecidableEq, Repr

namespace Pairing

def shape : Pairing → Shape
  | .offsets | .range | .lines => .estree
  | .positions => .cssTree
  | .cst => .cst

def strategy : Pairing → Strategy
  | .offsets => .startEnd
  | .range => .offsets (.tuple "range")
  | .lines => .structured .loc
  | .positions | .cst => .structured .locOffset

/-- The option that makes nodes carry what the strategy reads; offsets and `cst` need none. -/
def enabled (options : ShapeOptions) : Pairing → Bool
  | .offsets | .cst => true
  | .range => options.range
  | .lines => options.loc
  | .positions => options.positions

/-- The location of a text that stands behind another. -/
def location (pre text : List Char) : Pairing → Location
  | .lines => .lineColumn (pre.count '\n' + 1) (lastLine pre).length
      ((pre ++ text).count '\n' + 1) (lastLine (pre ++ text)).length
  | _ => .offsets pre.length (pre ++ text).length

/-- Every entry of the catalog is one of the pairings. -/
theorem of_catalog (grammars : Grammars) {entry : CatalogEntry}
    (h : entry ∈ Catalog.entries grammars) :
    ∃ (pairing : Pairing) (grammar : GrammarName) (version : Option String),
      entry.source = Catalog.bundled grammars grammar version pairing.shape ∧
        entry.adapter.location = some pairing.strategy := by
  simp only [Catalog.entries, List.mem_cons, List.not_mem_nil, or_false] at h
  rcases h with rfl | rfl | rfl | rfl | rfl | rfl | rfl | rfl
  · exact ⟨.positions, _, _, rfl, rfl⟩
  · exact ⟨.cst, _, _, rfl, rfl⟩
  · exact ⟨.offsets, _, _, rfl, rfl⟩
  · exact ⟨.offsets, _, _, rfl, rfl⟩
  · exact ⟨.range, _, _, rfl, rfl⟩
  · exact ⟨.lines, _, _, rfl, rfl⟩
  · exact ⟨.cst, _, _, rfl, rfl⟩
  · exact ⟨.offsets, _, _, rfl, rfl⟩

theorem slice_location (pairing : Pairing) (pre text post : List Char) :
    (pairing.location pre text).sliceChars (pre ++ text ++ post) = some text := by
  cases pairing with
  | lines => exact Location.slice_lineColumn pre text post
  | offsets | range | positions | cst => exact Location.slice_offsets pre text post

end Pairing

/-! ## What the strategies read off a shown node -/

section Shown

variable {layout : Layout} {info : NodeInfo} {pre text post : List Char} {fields : Fields}
  {field : Option String} {values : List Json}

theorem Layout.resolve_startEnd (h : info.Cuts layout.source pre text post)
    (hkeys : ∀ key, fields.get? key = layout.shown info field values key)
    (hshape : layout.shape = .estree) :
    Strategy.startEnd.resolve (.obj fields) = some (.offsets pre.length (pre ++ text).length) := by
  refine Strategy.resolve_startEnd ?_ ?_ (length_le_append pre text)
  · rw [hkeys, shown, if_pos hshape, h.charsBefore_start]
  · rw [hkeys, shown, if_pos hshape, h.charsBefore_stop]

theorem Layout.resolve_range (h : info.Cuts layout.source pre text post)
    (hkeys : ∀ key, fields.get? key = layout.shown info field values key)
    (hshape : layout.shape = .estree) :
    (Strategy.offsets (.tuple "range")).resolve (.obj fields) =
      if layout.options.range then some (.offsets pre.length (pre ++ text).length) else none := by
  have hrange := hkeys "range"
  rw [shown, h.charsBefore_start, h.charsBefore_stop] at hrange
  by_cases ho : layout.options.range = true
  · rw [if_pos ⟨hshape, ho⟩] at hrange
    rw [if_pos ho, Strategy.resolve_tuple hrange (length_le_append pre text)]
  · rw [if_neg fun hand => ho hand.2] at hrange
    rw [if_neg ho, Strategy.resolve_tuple_absent hrange]

theorem Layout.resolve_lines (h : info.Cuts layout.source pre text post)
    (hkeys : ∀ key, fields.get? key = layout.shown info field values key)
    (hshape : layout.shape = .estree) :
    (Strategy.structured .loc).resolve (.obj fields) =
      if layout.options.loc then some (Pairing.lines.location pre text) else none := by
  have hloc := hkeys "loc"
  rw [shown, shownLoc, hshape] at hloc
  by_cases ho : layout.options.loc = true
  · simp only [if_pos ho] at hloc
    rw [if_pos ho]
    have hread : (Strategy.structured .loc).resolve (.obj fields) =
        Strategy.resolvePoints .lineColumn
          (.ofFields (layout.shownLine info.startByte info.startPoint 0))
          (.ofFields (layout.shownLine info.stopByte info.stopPoint 0)) :=
      Strategy.resolve_under_loc _ hloc (by simp) (by simp)
    refine hread.trans (Strategy.resolvePoints_lineColumn ?_ ?_ ?_ ?_ ?_)
    · simp [shownLine, h.row_start]
    · simp [shownLine, h.charColumn_start]
    · simp [shownLine, h.row_stop]
    · simp [shownLine, h.charColumn_stop]
    · have := endPoint_le pre text
      omega
  · simp only [if_neg ho] at hloc
    rw [if_neg ho]
    exact Strategy.resolve_loc_absent _ hloc

/-- Both shapes with offsets in their points are read alike, whatever their columns count from. -/
theorem Layout.resolve_locOffset (h : info.Cuts layout.source pre text post) {loc : Json}
    (base : Nat) (hloc : fields.get? "loc" = some loc)
    (hstart : loc.get? "start" = some (layout.shownPoint info.startByte info.startPoint base))
    (hstop : loc.get? "end" = some (layout.shownPoint info.stopByte info.stopPoint base)) :
    (Strategy.structured .locOffset).resolve (.obj fields) =
      some (.offsets pre.length (pre ++ text).length) := by
  refine (Strategy.resolve_under_loc _ hloc hstart hstop).trans ?_
  refine Strategy.resolvePoints_offset ?_ ?_ (length_le_append pre text)
  · simp [shownPoint, shownLine, h.charsBefore_start]
  · simp [shownPoint, shownLine, h.charsBefore_stop]

/-- **The strategy of a pairing reads off a shown node where its text stands**, if the option is
on, and nothing otherwise. -/
theorem Pairing.resolve_shown (pairing : Pairing) (hshape : layout.shape = pairing.shape)
    (h : info.Cuts layout.source pre text post)
    (hkeys : ∀ key, fields.get? key = layout.shown info field values key) :
    pairing.strategy.resolve (.obj fields) =
      if pairing.enabled layout.options then some (pairing.location pre text) else none := by
  cases pairing with
  | offsets => exact Layout.resolve_startEnd h hkeys hshape
  | range => exact Layout.resolve_range h hkeys hshape
  | lines => exact Layout.resolve_lines h hkeys hshape
  | positions =>
    have hloc := hkeys "loc"
    rw [Layout.shown, Layout.shownLoc, hshape] at hloc
    by_cases ho : layout.options.positions = true
    · simp only [shape, if_pos ho] at hloc
      rw [enabled, if_pos ho]
      exact Layout.resolve_locOffset h 1 hloc (by simp) (by simp)
    · simp only [shape, if_neg ho] at hloc
      rw [enabled, if_neg ho]
      exact Strategy.resolve_loc_absent _ hloc
  | cst =>
    have hloc := hkeys "loc"
    rw [Layout.shown, Layout.shownLoc, hshape] at hloc
    exact Layout.resolve_locOffset h 0 hloc (by simp) (by simp)

/-- The text a node carries is that of its place. -/
theorem Layout.text_shown (h : info.Cuts layout.source pre text post)
    (hkeys : ∀ key, fields.get? key = layout.shown info field values key) {key : String}
    (hkey : key = "text" ∨ key = "value") {value : Json} (hvalue : fields.get? key = some value) :
    value = .str (String.ofList text) := by
  have htext : ∀ {v}, layout.shownText info values = some v → v = .str (String.ofList text) := by
    intro v hv
    unfold shownText at hv
    split at hv
    · rw [h.chars_eq] at hv
      exact (Option.some.inj hv).symm
    · exact absurd hv (by simp)
  rw [hkeys] at hvalue
  rcases hkey with rfl | rfl
  · rw [shown] at hvalue
    split at hvalue
    · exact absurd hvalue (by simp)
    · exact htext hvalue
  · rw [shown] at hvalue
    split at hvalue
    · exact htext hvalue
    · exact absurd hvalue (by simp)

end Shown

/-! ## Nodes at any depth -/

/-- The node at a path: each number picks a child. -/
def Tree.at? : Tree → List Nat → Option Tree
  | tree, [] => some tree
  | tree, i :: path => tree.children[i]?.bind (at? · path)

/-- The emitted node at a path: each number picks an item under `children`. -/
def Json.nodeAt? : Json → List Nat → Option Json
  | node, [] => some node
  | node, i :: path => do
    let children ← (← node.get? "children").items?
    nodeAt? (← children[i]?) path

theorem Tree.info_mem_preorder (tree : Tree) : tree.info ∈ tree.preorder := by
  obtain ⟨info, children⟩ := tree
  rw [preorder]
  exact List.mem_cons_self

theorem Tree.preorder_subset_preorderList {tree : Tree} {trees : List Tree} (h : tree ∈ trees) :
    tree.preorder ⊆ preorderList trees := by
  induction trees with
  | nil => exact absurd h List.not_mem_nil
  | cons t rest ih =>
    intro info hinfo
    rw [preorderList, List.mem_append]
    rcases List.mem_cons.mp h with rfl | h
    · exact .inl hinfo
    · exact .inr (ih h hinfo)

/-- The node at a path is a node of the tree. -/
theorem Tree.info_mem_of_at? {tree sub : Tree} {path : List Nat} (h : tree.at? path = some sub) :
    sub.info ∈ tree.preorder := by
  induction path generalizing tree with
  | nil =>
    rw [at?] at h
    cases h
    exact info_mem_preorder _
  | cons i path ih =>
    rw [at?] at h
    obtain ⟨child, hchild, hsub⟩ := Option.bind_eq_some_iff.mp h
    obtain ⟨info, children⟩ := tree
    rw [preorder]
    exact List.mem_cons_of_mem _
      (preorder_subset_preorderList (List.mem_of_getElem? hchild) (ih hsub))

mutual

/-- Only nodes of the tree are kept. -/
theorem Tree.preorder_prune (keep : NodeInfo → Bool) : ∀ tree : Tree,
    (tree.prune keep).preorder ⊆ tree.preorder
  | .node info children => by
    rw [prune, preorder, preorder]
    exact List.cons_subset_cons info (preorderList_pruneList keep children)

theorem Tree.preorderList_pruneList (keep : NodeInfo → Bool) : ∀ trees : List Tree,
    preorderList (pruneList keep trees) ⊆ preorderList trees
  | [] => by
    rw [pruneList]
    exact List.Subset.refl _
  | t :: rest => by
    have hrest := preorderList_pruneList keep rest
    rw [pruneList]
    split
    · rw [preorderList, preorderList]
      exact List.append_subset.mpr
        ⟨List.Subset.trans (preorder_prune keep t) (List.subset_append_left _ _),
         List.Subset.trans hrest (List.subset_append_right _ _)⟩
    · exact List.Subset.trans hrest (List.subset_append_right _ _)

end

theorem Json.nodeAt?_cons {fields : Fields} {values : List Json} {i : Nat} {path : List Nat}
    {node : Json} (hchildren : fields.get? "children" =
      if values = [] then none else some (.arr values))
    (h : (Json.obj fields).nodeAt? (i :: path) = some node) :
    ∃ child, values[i]? = some child ∧ child.nodeAt? path = some node := by
  have hget : (Json.obj fields).get? "children" = fields.get? "children" := rfl
  rw [nodeAt?, hget, hchildren] at h
  split at h
  · exact absurd h (by simp)
  · simpa [items?, Option.bind_eq_some_iff] using h

theorem Layout.ShowsAll.getElem? {layout : Layout} {trees : List Tree} {values : List Json}
    (h : layout.ShowsAll trees values) {i : Nat} {value : Json} (hvalue : values[i]? = some value) :
    ∃ tree, trees[i]? = some tree ∧ layout.Shows tree.info.field tree value := by
  obtain ⟨hi, rfl⟩ := List.getElem?_eq_some_iff.mp hvalue
  have hlen := List.Forall₂.length_eq h
  refine ⟨trees[i], List.getElem?_eq_getElem (by omega), ?_⟩
  exact List.Forall₂.get h (by omega) hi

/-- **A node of the emitted tree shows the node at the same path.** -/
theorem Layout.Shows.nodeAt {layout : Layout} {path : List Nat} : ∀ {field : Option String}
    {tree : Tree} {value node : Json}, layout.Shows field tree value →
      value.nodeAt? path = some node →
      ∃ sub role, tree.at? path = some sub ∧ layout.Shows role sub node := by
  induction path with
  | nil =>
    intro field tree value node h hnode
    rw [Json.nodeAt?] at hnode
    cases hnode
    exact ⟨tree, field, rfl, h⟩
  | cons i path ih =>
    intro field tree value node h hnode
    obtain ⟨below, hkeys⟩ := h
    obtain ⟨child, hchild, hnode⟩ := Json.nodeAt?_cons (hkeys "children") hnode
    obtain ⟨t, ht, hshow⟩ := ShowsAll.getElem? below hchild
    obtain ⟨sub, role, hsub, hshows⟩ := ih hshow hnode
    refine ⟨sub, role, ?_, hshows⟩
    rw [Tree.at?, Tree.children, ht, Option.bind_some, hsub]

/-- What conversion returns shows the kept tree. -/
theorem Layout.shows_of_convert {layout : Layout} (hindex : layout.index = .ofSource layout.source)
    {tree : Tree} {value : Json} (h : layout.convert tree = .ok value) :
    layout.Shows none (tree.prune layout.keeps) value := by
  rw [convert_eq_copyAt] at h
  by_cases hheight : (tree.prune layout.keeps).height + 1 ≤ maxDepth + 1
  · obtain ⟨copy, hcopy, hshows⟩ := copyAt_ok hindex 1 none tree hheight
    rw [hcopy] at h
    cases h
    exact hshows
  · obtain ⟨info, -, herr⟩ := copyAt_error hindex 1 (by decide) none tree (by omega)
    rw [herr] at h
    cases h

/-! ## Parse, then locate -/

/-- **Every emitted node is located at its own text.** Let the nodes of a tree be placed in a
source, and let one of the pairings convert the tree. The node at a path then comes from the kept
node at that path. With the option of the pairing on, it has a location, whose slice of the source
is the text in the byte range of that node; with the option off it has none. A `text` or `value`
that it carries is the same text. -/
theorem Pairing.located_at_text (pairing : Pairing) (options : ShapeOptions) (source : String)
    (tree : Tree) (htree : tree.PlacedIn source.toList) {value : Json}
    (hconvert : (Layout.ofSource source.toList pairing.shape options).convert tree = .ok value)
    {path : List Nat} {node : Json} (hnode : value.nodeAt? path = some node) :
    ∃ (origin : Tree) (text : List Char),
      (tree.prune fun info => info.named || options.includeAnonymous).at? path = some origin ∧
      Text.Covers source.toList origin.info.startByte origin.info.stopByte text ∧
      (if pairing.enabled options then
        ∃ location, pairing.strategy.resolve node = some location ∧
          location.slice source = some (String.ofList text)
      else pairing.strategy.resolve node = none) ∧
      ∀ key content, key = "text" ∨ key = "value" → node.get? key = some content →
        content = .str (String.ofList text) := by
  have hshows := Layout.shows_of_convert rfl hconvert
  obtain ⟨origin, role, horigin, hshown⟩ := hshows.nodeAt hnode
  have hmem : origin.info ∈ tree.preorder :=
    Tree.preorder_prune _ tree (Tree.info_mem_of_at? horigin)
  obtain ⟨pre, text, post, hcuts⟩ := (htree _ hmem).exists_cuts
  obtain ⟨-, hkeys⟩ := hshown
  have hread := pairing.resolve_shown rfl hcuts hkeys
  have hoptions : (Layout.ofSource source.toList pairing.shape options).options = options := rfl
  rw [hoptions] at hread
  refine ⟨_, text, horigin, hcuts.covers, ?_, ?_⟩
  · by_cases ho : pairing.enabled options = true
    · rw [if_pos ho] at hread ⊢
      refine ⟨_, hread, ?_⟩
      rw [Location.slice, hcuts.source_eq, slice_location]
      rfl
    · rw [if_neg ho] at hread ⊢
      exact hread
  · intro key content hkey hcontent
    exact Layout.text_shown hcuts hkeys hkey hcontent

/-! ### A name on a second line -/

namespace Sample

/-- The name `xé` behind `é` and a line feed. -/
def name : NodeInfo where
  kind := "identifier"
  kindId := 1
  named := true
  missing := false
  error := false
  hasError := false
  startByte := 3
  stopByte := 6
  startPoint := ⟨1, 0⟩
  stopPoint := ⟨1, 3⟩
  field := some "name"

def program : NodeInfo :=
  { name with
    kind := "program", kindId := 0, startByte := 0, startPoint := ⟨0, 0⟩, field := none }

def tree : Tree := .node program [.node name []]

theorem tree_placedIn : tree.PlacedIn ['é', '\n', 'x', 'é'] := by
  intro info hinfo
  have hinfo : info = program ∨ info = name := by
    simpa [tree, Tree.preorder, Tree.preorderList] using hinfo
  have hstop : Text.At ['é', '\n', 'x', 'é'] 6 ⟨1, 3⟩ := ⟨_, List.prefix_rfl, rfl, by decide⟩
  rcases hinfo with rfl | rfl
  · exact ⟨by decide, ⟨[], List.nil_prefix, rfl, rfl⟩, hstop⟩
  · exact ⟨by decide, ⟨['é', '\n'], by decide, rfl, by decide⟩, hstop⟩

end Sample

theorem Pairing.located_at_text_second_line :
    let layout := Layout.ofSource "é\nxé".toList Pairing.lines.shape { loc := true }
    Sample.tree.PlacedIn "é\nxé".toList ∧ ∃ value node,
      layout.convert Sample.tree = .ok value ∧ value.nodeAt? [0] = some node ∧
        ∃ location, Pairing.lines.strategy.resolve node = some location ∧
          location.slice "é\nxé" = some "xé" := by
  intro layout
  let node := layout.emitted Sample.name (some "name") []
  let value := layout.emitted Sample.program none [node]
  have hplaced : Sample.tree.PlacedIn "é\nxé".toList := Sample.tree_placedIn
  have hconvert : layout.convert Sample.tree = .ok value := by
    rw [layout.convert_eq_copyAt]
    rfl
  have hnode : value.nodeAt? [0] = some node := by
    have hchildren : value.get? "children" = some (.arr [node]) :=
      Layout.get?_emitted rfl Sample.program none [node] "children"
    rw [Json.nodeAt?, hchildren]
    rfl
  refine ⟨hplaced, value, node, hconvert, hnode, ?_⟩
  obtain ⟨origin, text, horigin, hcovers, hlocated, -⟩ :=
    Pairing.lines.located_at_text { loc := true } "é\nxé" Sample.tree hplaced hconvert hnode
  cases horigin
  have htext : text = ['x', 'é'] := Option.some.inj (hcovers.bytesBetween?.symm.trans (by rfl))
  subst htext
  exact hlocated

end Arboretum
