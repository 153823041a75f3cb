import Arboretum.Proofs.Placement

/-!
# Named nodes among all nodes

Conversion with anonymous nodes left out and conversion with all nodes walk the same tree along
different ways. What the one emits is found again, in order, among what the other emits.

* `Json.nodes`: the emitted nodes in pre-order, each with its path from the root; a node is above
  another when its path is a prefix.
* `Tree.origin`: where the node at a path of the kept tree is in the whole tree.
  `origin_prefix_iff` says that this keeps nodes above others, and no more.
* `Json.Embeds`: some nodes are found in order among others, at given places and with their own
  data.
* `Layout.Shows.embeds`: what shows the kept tree embeds into what shows the whole tree.
* `Layout.named_within_full`: the same of two conversions.
-/

namespace Arboretum

/-! ## Emitted nodes -/

namespace Json

/-- The emitted children of a node. -/
def childNodes (node : Json) : List Json := ((node.get? "children").bind items?).getD []

theorem sizeOf_lt_of_get? {fields : Fields} {key : String} {value : Json}
    (h : fields.get? key = some value) : sizeOf value < sizeOf fields := by
  induction fields with
  | nil => cases h
  | cons field rest ih =>
    obtain ⟨k, v⟩ := field
    rw [Fields.get?] at h
    split at h
    · cases h
      simp
      omega
    · have := ih h
      simp
      omega

theorem sizeOf_childNodes_le (node : Json) : sizeOf node.childNodes ≤ sizeOf node := by
  unfold childNodes
  cases h : node.get? "children" with
  | none => cases node <;> simp
  | some value =>
    cases node with
    | obj fields =>
      have hlt : sizeOf value < sizeOf fields := sizeOf_lt_of_get? h
      cases value with
      | arr items =>
        simp only [Json.arr.sizeOf_spec] at hlt
        simp only [Option.bind_some, items?, Option.getD_some, Json.obj.sizeOf_spec]
        omega
      | null | bool | num | str | obj => simp [items?]
    | null | bool | num | str | arr => cases h

mutual

/-- A node and what is below it in pre-order, each with its path from there. -/
def nodes (node : Json) : List (List Nat × Json) := ([], node) :: nodesFrom 0 node.childNodes
termination_by 2 * sizeOf node + 1
decreasing_by
  have := sizeOf_childNodes_le node
  omega

/-- The nodes under some siblings by their paths, the siblings being numbered from `i`. -/
def nodesFrom (i : Nat) : List Json → List (List Nat × Json)
  | [] => []
  | node :: rest => node.nodes.map (fun entry => (i :: entry.1, entry.2)) ++ nodesFrom (i + 1) rest
termination_by siblings => 2 * sizeOf siblings

end

/-- The keys that do not depend on which children are emitted show the same. -/
def SameData (a b : Json) : Prop :=
  ∀ key, key ∉ ["children", "text", "value"] → a.get? key = b.get? key

/-- **Some nodes are found among others**: in the same order, each at the place that `place` gives
for its path, and with its own data. -/
def Embeds (place : List Nat → List Nat) (part whole : List (List Nat × Json)) : Prop :=
  ∃ image, image.Sublist whole ∧
    List.Forall₂ (fun a b => b.1 = place a.1 ∧ SameData a.2 b.2) part image

namespace Embeds

variable {place : List Nat → List Nat} {part part' whole whole' : List (List Nat × Json)}

theorem nil (whole : List (List Nat × Json)) : Embeds place [] whole :=
  ⟨[], List.nil_sublist whole, .nil⟩

theorem cons {a b : List Nat × Json} (hplace : b.1 = place a.1) (hdata : SameData a.2 b.2)
    (h : Embeds place part whole) : Embeds place (a :: part) (b :: whole) := by
  obtain ⟨image, hsub, hall⟩ := h
  exact ⟨b :: image, hsub.cons_cons b, .cons ⟨hplace, hdata⟩ hall⟩

theorem append (h : Embeds place part whole) (h' : Embeds place part' whole') :
    Embeds place (part ++ part') (whole ++ whole') := by
  obtain ⟨image, hsub, hall⟩ := h
  obtain ⟨image', hsub', hall'⟩ := h'
  exact ⟨image ++ image', hsub.append hsub', List.rel_append hall hall'⟩

/-- Nodes in front that are not met are passed over. -/
theorem skip (front : List (List Nat × Json)) (h : Embeds place part whole) :
    Embeds place part (front ++ whole) :=
  append (nil front) h

/-- What is found below two nodes is found below their places among their siblings. -/
theorem under {place' : List Nat → List Nat} {i j : Nat}
    (hplace : ∀ path, place' (i :: path) = j :: place path) (h : Embeds place part whole) :
    Embeds place' (part.map fun entry => (i :: entry.1, entry.2))
      (whole.map fun entry => (j :: entry.1, entry.2)) := by
  obtain ⟨image, hsub, hall⟩ := h
  refine ⟨image.map fun entry => (j :: entry.1, entry.2), hsub.map _, ?_⟩
  rw [List.forall₂_map_left_iff, List.forall₂_map_right_iff]
  refine hall.imp ?_
  rintro a b ⟨hb, hdata⟩
  exact ⟨by rw [hplace, hb], hdata⟩

end Embeds

end Json

/-! ## Where kept nodes come from -/

namespace Tree

/-- The number among all siblings of the one that is the `i`-th kept. -/
def keptIndex (keep : NodeInfo → Bool) : List Tree → Nat → Nat
  | [], i => i
  | t :: rest, i =>
    if keep t.info then if i = 0 then 0 else keptIndex keep rest (i - 1) + 1
    else keptIndex keep rest i + 1

/-- The path in a tree of the node that is at a path of the kept tree. -/
def origin (keep : NodeInfo → Bool) : Tree → List Nat → List Nat
  | _, [] => []
  | tree, i :: path =>
    let j := keptIndex keep tree.children i
    match tree.children[j]? with
    | some child => j :: origin keep child path
    | none => j :: path

variable {keep : NodeInfo → Bool}

theorem keptIndex_of_kept_zero {t : Tree} (h : keep t.info = true) (rest : List Tree) :
    keptIndex keep (t :: rest) 0 = 0 := by
  rw [keptIndex, if_pos h, if_pos rfl]

theorem keptIndex_of_kept_succ {t : Tree} (h : keep t.info = true) (rest : List Tree) (i : Nat) :
    keptIndex keep (t :: rest) (i + 1) = keptIndex keep rest i + 1 := by
  rw [keptIndex, if_pos h, if_neg (Nat.succ_ne_zero i), Nat.add_sub_cancel]

theorem keptIndex_of_not_kept {t : Tree} (h : keep t.info = false) (rest : List Tree) (i : Nat) :
    keptIndex keep (t :: rest) i = keptIndex keep rest i + 1 := by
  rw [keptIndex, if_neg (by rw [h]; exact Bool.false_ne_true)]

theorem keptIndex_injective (trees : List Tree) : Function.Injective (keptIndex keep trees) := by
  induction trees with
  | nil => exact fun i j h => h
  | cons t rest ih =>
    intro i j h
    cases hk : keep t.info with
    | false =>
      rw [keptIndex_of_not_kept hk, keptIndex_of_not_kept hk] at h
      exact ih (Nat.succ.inj h)
    | true =>
      rcases i with _ | i <;> rcases j with _ | j
      · rfl
      · rw [keptIndex_of_kept_zero hk, keptIndex_of_kept_succ hk] at h
        cases h
      · rw [keptIndex_of_kept_zero hk, keptIndex_of_kept_succ hk] at h
        cases h
      · rw [keptIndex_of_kept_succ hk, keptIndex_of_kept_succ hk] at h
        exact congrArg Nat.succ (ih (Nat.succ.inj h))

/-- Below a child, paths are mapped as in the tree of that child. -/
def originBelow (keep : NodeInfo → Bool) (children : List Tree) (i : Nat) (path : List Nat) :
    List Nat :=
  match children[keptIndex keep children i]? with
  | some child => origin keep child path
  | none => path

theorem originBelow_of_kept_zero {t : Tree} (h : keep t.info = true) (rest : List Tree)
    (path : List Nat) : originBelow keep (t :: rest) 0 path = t.origin keep path := by
  rw [originBelow, keptIndex_of_kept_zero h, List.getElem?_cons_zero]

theorem originBelow_of_kept_succ {t : Tree} (h : keep t.info = true) (rest : List Tree) (i : Nat)
    (path : List Nat) :
    originBelow keep (t :: rest) (i + 1) path = originBelow keep rest i path := by
  rw [originBelow, originBelow, keptIndex_of_kept_succ h, List.getElem?_cons_succ]

theorem originBelow_of_not_kept {t : Tree} (h : keep t.info = false) (rest : List Tree) (i : Nat)
    (path : List Nat) : originBelow keep (t :: rest) i path = originBelow keep rest i path := by
  rw [originBelow, originBelow, keptIndex_of_not_kept h, List.getElem?_cons_succ]

theorem origin_cons (tree : Tree) (i : Nat) (path : List Nat) :
    tree.origin keep (i :: path) =
      keptIndex keep tree.children i :: originBelow keep tree.children i path := by
  rw [origin, originBelow]
  split <;> rfl

/-- **A node is above another in the kept tree iff it is in the whole tree.** -/
theorem origin_prefix_iff (tree : Tree) (p q : List Nat) :
    tree.origin keep p <+: tree.origin keep q ↔ p <+: q := by
  induction p generalizing tree q with
  | nil => simp [origin]
  | cons i p ih =>
    cases q with
    | nil =>
      rw [origin_cons]
      simp [origin]
    | cons k q =>
      rw [origin_cons, origin_cons, List.cons_prefix_cons, List.cons_prefix_cons,
        (keptIndex_injective tree.children).eq_iff]
      refine and_congr_right ?_
      rintro rfl
      unfold originBelow
      split
      · exact ih _ q
      · exact Iff.rfl

/-! ## Depth -/

mutual

theorem height_prune_le : ∀ tree : Tree, (tree.prune keep).height ≤ tree.height
  | .node info children => by
    rw [prune, height, height]
    exact Nat.succ_le_succ (heightList_pruneList_le children)

theorem heightList_pruneList_le : ∀ trees : List Tree,
    heightList (pruneList keep trees) ≤ heightList trees
  | [] => by rw [pruneList]
  | t :: rest => by
    have hrest := heightList_pruneList_le rest
    rw [pruneList, heightList]
    split
    · have ht := height_prune_le t
      rw [heightList]
      omega
    · omega

end

mutual

/-- If every node is kept, the kept tree is the tree. -/
theorem prune_of_keeps_all (h : ∀ info, keep info = true) : ∀ tree : Tree, tree.prune keep = tree
  | .node info children => by rw [prune, pruneList_of_keeps_all h children]

theorem pruneList_of_keeps_all (h : ∀ info, keep info = true) : ∀ trees : List Tree,
    pruneList keep trees = trees
  | [] => by rw [pruneList]
  | t :: rest => by
    rw [pruneList, if_pos (h t.info), prune_of_keeps_all h t, pruneList_of_keeps_all h rest]

end

end Tree

/-! ## Two conversions of one tree -/

namespace Layout

theorem Shows.childNodes {layout : Layout} {field : Option String} {info : NodeInfo}
    {children : List Tree} {value : Json} (h : layout.Shows field (.node info children) value) :
    layout.ShowsAll children value.childNodes ∧
      ∀ key, value.get? key = layout.shown info field value.childNodes key := by
  obtain ⟨hbelow, hkeys⟩ := h
  rename_i fields values
  have hget : (Json.obj fields).get? "children" =
      if values = [] then none else some (.arr values) := hkeys "children"
  have hchildren : (Json.obj fields).childNodes = values := by
    rw [Json.childNodes, hget]
    cases values <;> rfl
  rw [hchildren]
  exact ⟨hbelow, hkeys⟩

variable {part whole : Layout}

mutual

/-- **What shows the kept tree embeds into what shows the whole tree**, if both layouts show the
same data of a node. -/
theorem Shows.embeds (hdata : ∀ info field values values' key,
      key ∉ ["children", "text", "value"] →
        part.shown info field values key = whole.shown info field values' key)
    {keep : NodeInfo → Bool} {field : Option String} {a b : Json} : ∀ {tree : Tree},
    part.Shows field (tree.prune keep) a → whole.Shows field tree b →
      Json.Embeds (tree.origin keep) a.nodes b.nodes
  | .node info children, ha, hb => by
    rw [Tree.prune] at ha
    obtain ⟨hbelow, hkeys⟩ := ha.childNodes
    obtain ⟨hbelow', hkeys'⟩ := hb.childNodes
    rw [Json.nodes, Json.nodes]
    refine .cons rfl ?_ ?_
    · intro key hkey
      rw [hkeys, hkeys', hdata info field _ _ key hkey]
    · refine ShowsAll.embeds hdata hbelow hbelow' ?_
      intro i path
      rw [Nat.zero_add, Nat.zero_add, Tree.origin_cons]
      rfl

theorem ShowsAll.embeds (hdata : ∀ info field values values' key,
      key ∉ ["children", "text", "value"] →
        part.shown info field values key = whole.shown info field values' key)
    {keep : NodeInfo → Bool} {place : List Nat → List Nat} {as bs : List Json} {first first' : Nat} :
    ∀ {trees : List Tree},
    part.ShowsAll (Tree.pruneList keep trees) as → whole.ShowsAll trees bs →
      (∀ i path, place ((first + i) :: path) =
        (first' + Tree.keptIndex keep trees i) :: Tree.originBelow keep trees i path) →
      Json.Embeds place (Json.nodesFrom first as) (Json.nodesFrom first' bs)
  | [], has, hbs, _ => by
    rw [Tree.pruneList] at has
    cases has
    rw [Json.nodesFrom]
    exact .nil _
  | t :: rest, has, hbs, hplace => by
    cases hk : keep t.info with
    | false =>
      rw [Tree.pruneList, if_neg (by rw [hk]; exact Bool.false_ne_true)] at has
      cases hbs with
      | cons hb hbs =>
        rw [Json.nodesFrom]
        refine .skip _ (ShowsAll.embeds hdata has hbs ?_)
        intro i path
        rw [hplace, Tree.keptIndex_of_not_kept hk, Tree.originBelow_of_not_kept hk,
          Nat.add_right_comm, Nat.add_assoc]
    | true =>
      rw [Tree.pruneList, if_pos hk] at has
      cases has with
      | cons ha has =>
        cases hbs with
        | cons hb hbs =>
          rw [info_prune] at ha
          rw [Json.nodesFrom, Json.nodesFrom]
          refine .append (.under ?_ (Shows.embeds hdata ha hb)) (ShowsAll.embeds hdata has hbs ?_)
          · intro path
            have hfirst := hplace 0 path
            rwa [Tree.keptIndex_of_kept_zero hk, Tree.originBelow_of_kept_zero hk] at hfirst
          · intro i path
            have hlater := hplace (i + 1) path
            rw [Tree.keptIndex_of_kept_succ hk, Tree.originBelow_of_kept_succ hk] at hlater
            rw [Nat.add_right_comm, Nat.add_assoc, hlater, Nat.add_right_comm, Nat.add_assoc]

end

/-- A tree is converted iff its kept tree is not too deep. -/
theorem exists_convert_iff {layout : Layout} (hindex : layout.index = .ofSource layout.source)
    {tree : Tree} :
    (∃ value, layout.convert tree = .ok value) ↔
      (tree.prune layout.keeps).height ≤ maxDepth := by
  rw [convert_eq_copyAt]
  constructor
  · rintro ⟨value, hvalue⟩
    by_contra hdeep
    obtain ⟨info, -, herror⟩ := copyAt_error hindex 1 (by decide) none tree (by omega)
    rw [hvalue] at herror
    cases herror
  · intro hheight
    obtain ⟨value, hvalue, -⟩ := copyAt_ok hindex 1 none tree (by omega)
    exact ⟨value, hvalue⟩

/-- Whether anonymous nodes are included shows in no data of a node but its children and text. -/
theorem shown_includeAnonymous (source : List Char) (shape : Shape) (options : ShapeOptions)
    (included included' : Bool) (info : NodeInfo) (field : Option String)
    (values values' : List Json) {key : String} (hkey : key ∉ ["children", "text", "value"]) :
    (Layout.ofSource source shape { options with includeAnonymous := included }).shown info field
        values key =
      (Layout.ofSource source shape { options with includeAnonymous := included' }).shown info field
        values' key := by
  unfold shown
  split
  all_goals first | rfl | simp at hkey

/-- **The named nodes of a conversion are found among all nodes.** If a tree is converted with
anonymous nodes, it is also converted without them. The nodes of the smaller tree, compared by all
keys but `children`, `text` and `value`, are then a subsequence of those of the full tree in
pre-order, and of two of them one is above the other in the one tree iff it is in the other. -/
theorem named_within_full (source : List Char) (shape : Shape) (options : ShapeOptions)
    (tree : Tree) {full : Json}
    (hfull : (Layout.ofSource source shape { options with includeAnonymous := true }).convert tree =
      .ok full) :
    ∃ named, (Layout.ofSource source shape { options with includeAnonymous := false }).convert tree =
        .ok named ∧
      ∃ (place : List Nat → List Nat) (image : List (List Nat × Json)),
        image.Sublist full.nodes ∧
        List.Forall₂ (fun a b => b.1 = place a.1 ∧
          ∀ key, key ∉ ["children", "text", "value"] → a.2.get? key = b.2.get? key)
          named.nodes image ∧
        ∀ p q, p <+: q ↔ place p <+: place q := by
  have hkept : tree.prune (Layout.ofSource source shape
      { options with includeAnonymous := true }).keeps = tree :=
    Tree.prune_of_keeps_all (fun info => Bool.or_true _) tree
  have hheight := (exists_convert_iff rfl).mp ⟨full, hfull⟩
  rw [hkept] at hheight
  obtain ⟨named, hnamed⟩ : ∃ named, (Layout.ofSource source shape
      { options with includeAnonymous := false }).convert tree = .ok named := by
    rw [exists_convert_iff rfl]
    exact Nat.le_trans (Tree.height_prune_le tree) hheight
  have hshows := shows_of_convert rfl hfull
  rw [hkept] at hshows
  obtain ⟨image, hsub, hall⟩ :=
    Shows.embeds (fun info field values values' _ hkey => shown_includeAnonymous source shape options
      false true info field values values' hkey) (shows_of_convert rfl hnamed) hshows
  exact ⟨named, hnamed, _, image, hsub, hall, fun p q => (Tree.origin_prefix_iff tree p q).symm⟩

end Layout

/-! ### A name below an anonymous node -/

/-- The name `xé` twice, once below an anonymous node. -/
def Sample.group : Tree :=
  .node program [.node { name with kind := "(", named := false } [.node name []], .node name []]

theorem Layout.named_within_full_group :
    ∃ full, (Layout.ofSource "é\nxé".toList .cst { includeAnonymous := true }).convert
        Sample.group = .ok full ∧
      ∃ named, (Layout.ofSource "é\nxé".toList .cst {}).convert Sample.group = .ok named ∧
      ∃ (place : List Nat → List Nat) (image : List (List Nat × Json)),
        image.Sublist full.nodes ∧
        List.Forall₂ (fun a b => b.1 = place a.1 ∧
          ∀ key, key ∉ ["children", "text", "value"] → a.2.get? key = b.2.get? key)
          named.nodes image ∧
        ∀ p q, p <+: q ↔ place p <+: place q := by
  obtain ⟨full, hfull⟩ : ∃ full, (Layout.ofSource "é\nxé".toList .cst
      { includeAnonymous := true }).convert Sample.group = .ok full := by
    rw [Layout.exists_convert_iff rfl]
    decide
  exact ⟨full, hfull, Layout.named_within_full "é\nxé".toList .cst {} Sample.group hfull⟩

end Arboretum
