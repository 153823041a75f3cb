import Arboretum.Proofs.Placement

/-!
# Numeric kinds decode back

A tree of the shape `cst` carries the number of each node's kind. The hooks of the catalog look the
number up among the kinds of the grammar and so give back the name that the node had there.

* `Catalog.kindName?_eq_some_iff`, `Catalog.kindName?_eq_none`: the values that stand for a kind are
  the whole numbers below the number of kinds and below 2¹⁶.
* `Tree.NumberedBy`: what a grammar promises of the kinds of a tree.
* `Layout.Shows.get?_type`: what an emitted node carries for its kind.
* `Catalog.kinds_decode_back`: the hooks on every node of a converted tree, and on any other value.
-/

namespace Arboretum

/-! ## Values that stand for a kind -/

theorem Json.nat?_ofNat (n : Nat) : (Json.ofNat n).nat? = some n := by
  simp [ofNat, nat?]

theorem Json.nat?_eq_some_iff {value : Json} {n : Nat} :
    value.nat? = some n ↔ value = .ofNat n := by
  constructor
  · intro h
    cases value with
    | num number =>
      cases number with
      | int i =>
        obtain ⟨hi, heq⟩ := Option.ite_none_right_eq_some.mp h
        cases heq
        rw [ofNat, Int.toNat_of_nonneg hi]
      | float x => cases h
    | null | bool _ | str _ | arr _ | obj _ => cases h
  · rintro rfl
    exact nat?_ofNat n

theorem Json.ofNat_inj {m n : Nat} : Json.ofNat m = .ofNat n ↔ m = n := by
  rw [← nat?_eq_some_iff, nat?_ofNat, Option.some.injEq]

namespace Catalog

variable {kinds : KindTable}

/-- **A value stands for a kind** if it is a number of one, in 16 bits. -/
theorem kindName?_eq_some_iff {value : Json} {kind : String} :
    kindName? kinds value = some kind ↔
      ∃ n, value = .ofNat n ∧ n < twoPow 16 ∧ n < kinds.count ∧ kinds.name? n = some kind := by
  unfold kindName?
  simp only [bind, Option.bind_eq_some_iff, Json.nat?_eq_some_iff, Option.ite_none_left_eq_some,
    Nat.not_le]

/-- No other value does: no text, double or negative number, and no number that would have to be
wrapped. -/
theorem kindName?_eq_none {value : Json}
    (h : ∀ n, n < kinds.count → n < twoPow 16 → value ≠ .ofNat n) :
    kindName? kinds value = none := by
  rw [Option.eq_none_iff_forall_ne_some]
  intro kind hkind
  obtain ⟨n, rfl, hnarrow, hcount, -⟩ := kindName?_eq_some_iff.mp hkind
  exact h n hcount hnarrow rfl

/-- Both hooks read the value under `type`. -/
theorem hooks_eq {node type : Json} (htype : node.get? "type" = some type) {kind : Option String}
    (hkind : kindName? kinds type = kind) :
    kindTitle kinds node = kind ∧ kindHint kinds "type" type = kind.map ("NodeKind." ++ ·) := by
  rw [kindTitle, htype, kindHint, if_pos rfl, hkind]
  exact ⟨hkind, rfl⟩

end Catalog

/-! ## Numbered trees -/

/-- What a grammar promises of the number of a node's kind: it has 16 bits, the grammar calls it by
the kind of the node unless it is past the kinds, and it is the last of all 16-bit numbers for a
node that could not be read. -/
structure NodeInfo.NumberedBy (info : NodeInfo) (kinds : KindTable) : Prop where
  narrow : info.kindId < twoPow 16
  name_eq : info.kindId < kinds.count → kinds.name? info.kindId = some info.kind
  error_id : info.error = true → info.kindId = 65535

/-- The kinds of a tree have their numbers from a table. -/
def Tree.NumberedBy (tree : Tree) (kinds : KindTable) : Prop :=
  ∀ info ∈ tree.preorder, info.NumberedBy kinds

theorem NodeInfo.NumberedBy.kindName?_eq {info : NodeInfo} {kinds : KindTable}
    (h : info.NumberedBy kinds) :
    Catalog.kindName? kinds (.ofNat info.kindId) =
      if info.kindId < kinds.count then some info.kind else none := by
  split
  · rename_i hlt
    exact Catalog.kindName?_eq_some_iff.mpr ⟨_, rfl, h.narrow, hlt, h.name_eq hlt⟩
  · -- whatever the grammar calls this number, it is not asked
    rename_i hge
    refine Catalog.kindName?_eq_none fun n hn _ heq => hge ?_
    rwa [Json.ofNat_inj.mp heq]

/-- A node of the shape `cst` carries the number of its kind. -/
theorem Layout.Shows.get?_type {layout : Layout} (hshape : layout.shape = .cst)
    {role : Option String} {tree : Tree} {node : Json} (h : layout.Shows role tree node) :
    node.get? "type" = some (.ofNat tree.info.kindId) := by
  obtain ⟨-, hkeys⟩ := h
  refine (hkeys "type").trans ?_
  rw [Layout.shown, if_pos hshape]
  rfl

/-! ## The hooks -/

/-- **Numeric kinds decode back.** Let a tree have the numbers of its kinds from a grammar, and be
converted to the shape `cst`. The node at a path then comes from the kept node at that path and
carries its number. If that is the number of a kind, the title is the kind of the node and the hint
on the number the same kind with `NodeKind.` in front. If it is past the kinds, as for a node that
could not be read, there is neither. There is neither for any other value under `type`. -/
theorem Catalog.kinds_decode_back (kinds : KindTable) :
    (∀ (tree : Tree) (source : List Char) (options : ShapeOptions) (value : Json),
      tree.NumberedBy kinds →
      (Layout.ofSource source .cst options).convert tree = .ok value →
      ∀ (path : List Nat) (node : Json), value.nodeAt? path = some node → ∃ origin : Tree,
        (tree.prune fun info => info.named || options.includeAnonymous).at? path = some origin ∧
        node.get? "type" = some (.ofNat origin.info.kindId) ∧
        (origin.info.kindId < kinds.count →
          kindTitle kinds node = some origin.info.kind ∧
          kindHint kinds "type" (.ofNat origin.info.kindId) =
            some ("NodeKind." ++ origin.info.kind)) ∧
        (kinds.count ≤ origin.info.kindId →
          kindTitle kinds node = none ∧
          kindHint kinds "type" (.ofNat origin.info.kindId) = none) ∧
        (origin.info.error = true → kinds.count ≤ 65535 →
          kindTitle kinds node = none ∧
          kindHint kinds "type" (.ofNat origin.info.kindId) = none)) ∧
    (∀ node type : Json, node.get? "type" = some type →
      (∀ n, n < kinds.count → n < twoPow 16 → type ≠ .ofNat n) →
      kindTitle kinds node = none ∧ kindHint kinds "type" type = none) := by
  constructor
  · intro tree source options value htree hconvert path node hnode
    obtain ⟨origin, role, horigin, hshown⟩ := (Layout.shows_of_convert rfl hconvert).nodeAt hnode
    have hmem : origin.info ∈ tree.preorder :=
      Tree.preorder_prune _ tree (Tree.info_mem_of_at? horigin)
    have htype := hshown.get?_type rfl
    have hname := (htree _ hmem).kindName?_eq
    have hpast : kinds.count ≤ origin.info.kindId →
        kindTitle kinds node = none ∧
        kindHint kinds "type" (.ofNat origin.info.kindId) = none :=
      fun hge => hooks_eq htype (hname.trans (if_neg (Nat.not_lt.mpr hge)))
    refine ⟨origin, horigin, htype, ?_, hpast, ?_⟩
    · exact fun hlt => hooks_eq htype (hname.trans (if_pos hlt))
    · intro herror hcount
      rw [← (htree _ hmem).error_id herror] at hcount
      exact hpast hcount
  · intro node type htype hother
    exact hooks_eq htype (kindName?_eq_none hother)

/-! ### A file that could not be read -/

namespace Sample

def unread : NodeInfo :=
  { name with kind := "ERROR", kindId := 65535, error := true, hasError := true, field := none }

def file : NodeInfo := { program with kind := "source_file", kindId := 157, hasError := true }

def unreadFile : Tree := .node file [.node unread []]

/-- The kinds of the Rust grammar, which has a name for what it could not read too. -/
def rustKinds : KindTable :=
  { KindTable.ofNames Kinds.rust with
    name? := fun id => if id = 65535 then some "ERROR" else Kinds.rust[id]? }

theorem unreadFile_numberedBy : unreadFile.NumberedBy rustKinds := by
  intro info hinfo
  have hinfo : info = file ∨ info = unread := by
    simpa [unreadFile, Tree.preorder, Tree.preorderList] using hinfo
  rcases hinfo with rfl | rfl
  · exact ⟨by decide, fun _ => by decide +kernel, by decide⟩
  · refine ⟨by decide, fun hlt => ?_, fun _ => rfl⟩
    exact absurd hlt (by decide +kernel)

end Sample

/-- The root gets its kind back. The node that could not be read gets nothing, though the grammar
has a name for its number, and neither does the number of the root with one bit more. -/
theorem Catalog.kinds_decode_back_unread :
    ∃ value root child,
      (Layout.ofSource "é\nxé".toList .cst {}).convert Sample.unreadFile = .ok value ∧
      value.nodeAt? [] = some root ∧ value.nodeAt? [0] = some child ∧
      kindTitle Sample.rustKinds root = some "source_file" ∧
      kindHint Sample.rustKinds "type" (.ofNat 157) = some "NodeKind.source_file" ∧
      kindTitle Sample.rustKinds child = none ∧
      kindHint Sample.rustKinds "type" (.ofNat 65535) = none ∧
      kindHint Sample.rustKinds "type" (.ofNat (65536 + 157)) = none := by
  let layout := Layout.ofSource "é\nxé".toList .cst {}
  let child := layout.emitted Sample.unread none []
  let value := layout.emitted Sample.file none [child]
  have hconvert : layout.convert Sample.unreadFile = .ok value := by
    rw [layout.convert_eq_copyAt]
    rfl
  have hchild : value.nodeAt? [0] = some child := by
    have hchildren : value.get? "children" = some (.arr [child]) :=
      Layout.get?_emitted rfl Sample.file none [child] "children"
    rw [Json.nodeAt?, hchildren]
    rfl
  obtain ⟨hnode, hother⟩ := kinds_decode_back Sample.rustKinds
  have hnode := hnode _ _ _ _ Sample.unreadFile_numberedBy hconvert
  obtain ⟨origin, horigin, -, hroot, -, -⟩ := hnode [] value rfl
  cases horigin
  obtain ⟨htitle, hhint⟩ := hroot (by decide +kernel)
  obtain ⟨origin, horigin, -, -, -, hunread⟩ := hnode [0] child hchild
  cases horigin
  obtain ⟨hnoTitle, hnoHint⟩ := hunread rfl (by decide +kernel)
  refine ⟨value, value, child, hconvert, rfl, hchild, htitle, hhint, hnoTitle, hnoHint, ?_⟩
  refine (hother (.obj [("type", .ofNat (65536 + 157))]) _ rfl ?_).2
  intro n _ hn heq
  have hn : n < 65536 := hn
  have := Json.ofNat_inj.mp heq
  omega

end Arboretum
