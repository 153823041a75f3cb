import Arboretum.Engine.Grammar
import Arboretum.Proofs.Placement

/-!
# Strict engines refuse at the first error

The search for an error walks with a cursor and leaves out what is below a node without a mark. A
grammar marks every node above an error or missing node, so nothing is lost: the search finds the
first such node of all, and an engine that is asked to be strict reports it.

* `Cursor.later`: the trees a cursor has still to visit behind its own. `children_append_later`,
  `later_pass` and `later_of_pass_none` say what each move does to them.
* `Tree.MarksErrors`: what a grammar promises of its marks.
* `Cursor.errorFrom_eq`: the search from a cursor on finds the first faulty node of what is left.
* `Diagnostic.Describes`: what a report says of a node and its place.
* `Layout.convert_strict`: conversion does not depend on `strict`.
* `Tree.refused_at_first_error`: first errors, and what a strict engine makes of them.
-/

namespace Arboretum

open Text

/-! ## What a cursor has still to visit -/

namespace Cursor

/-- The trees behind the cursor's own: its siblings, and those of the nodes above. -/
def later (cursor : Cursor) : List Tree := cursor.behind ++ cursor.above.flatMap Prod.snd

theorem children_append_later {cursor child : Cursor} (h : cursor.firstChild? = some child) :
    cursor.node.children ++ cursor.later = child.node :: child.later := by
  unfold firstChild? at h
  split at h
  · cases h
  · rename_i t rest hchildren
    cases h
    simp [later, hchildren]

theorem children_eq_nil {cursor : Cursor} (h : cursor.firstChild? = none) :
    cursor.node.children = [] := by
  unfold firstChild? at h
  split at h
  · assumption
  · cases h

theorem later_nextSibling {cursor next : Cursor} (h : cursor.nextSibling? = some next) :
    cursor.later = next.node :: next.later := by
  obtain ⟨node, behind, above⟩ := cursor
  cases behind with
  | nil => cases h
  | cons t rest =>
    cases h
    rfl

/-- At the last of some siblings only what is behind the parent is left. -/
theorem later_parent? {cursor up : Cursor} (hlast : cursor.nextSibling? = none)
    (h : cursor.parent? = some up) : cursor.later = up.later := by
  obtain ⟨node, behind, above⟩ := cursor
  cases behind with
  | cons t rest => cases hlast
  | nil =>
    cases above with
    | nil => cases h
    | cons entry above =>
      cases h
      rfl

theorem later_of_no_parent {cursor : Cursor} (hlast : cursor.nextSibling? = none)
    (h : cursor.parent? = none) : cursor.later = [] := by
  obtain ⟨node, behind, above⟩ := cursor
  cases behind with
  | cons t rest => cases hlast
  | nil =>
    cases above with
    | nil => rfl
    | cons entry above => cases h

/-- Passing on leads to the first of the trees that are left. -/
theorem later_pass {cursor next : Cursor} (h : cursor.pass? = some next) :
    cursor.later = next.node :: next.later := by
  fun_induction pass? with
  | case1 cursor sibling hsibling =>
    cases h
    exact later_nextSibling hsibling
  | case2 cursor hlast up hup ih => rw [later_parent? hlast hup, ih h]
  | case3 => cases h

theorem later_of_pass_none {cursor : Cursor} (h : cursor.pass? = none) : cursor.later = [] := by
  fun_induction pass? with
  | case1 => cases h
  | case2 cursor hlast up hup ih => rw [later_parent? hlast hup, ih h]
  | case3 cursor hlast hup => exact later_of_no_parent hlast hup

end Cursor

/-! ## Marks -/

namespace Tree

/-- A node is marked when an error or missing node is below it. -/
def MarksAbove (tree : Tree) : Prop :=
  ∀ path top, tree.at? path = some top →
    ∀ info ∈ preorderList top.children, info.faulty = true → top.info.hasError = true

/-- **What a grammar promises of its marks**: if there is an error or missing node, the root is
marked, and so is every node above it. -/
structure MarksErrors (tree : Tree) : Prop where
  root : ∀ info ∈ tree.preorder, info.faulty = true → tree.info.hasError = true
  above : tree.MarksAbove

theorem marksAbove_node {info : NodeInfo} {children : List Tree} :
    (Tree.node info children).MarksAbove ↔
      (∀ below ∈ preorderList children, below.faulty = true → info.hasError = true) ∧
        ∀ child ∈ children, child.MarksAbove := by
  constructor
  · intro h
    refine ⟨h [] _ rfl, ?_⟩
    intro child hchild path top htop
    obtain ⟨i, hi⟩ := List.getElem?_of_mem hchild
    exact h (i :: path) top (by rw [at?, Tree.children, hi, Option.bind_some, htop])
  · rintro ⟨hroot, hchildren⟩ path top htop
    cases path with
    | nil =>
      cases htop
      exact hroot
    | cons i path =>
      obtain ⟨child, hi, hchild⟩ := Option.bind_eq_some_iff.mp htop
      exact hchildren child (List.mem_of_getElem? hi) path top hchild

theorem MarksAbove.child {tree child : Tree} (h : tree.MarksAbove)
    (hchild : child ∈ tree.children) : child.MarksAbove := by
  obtain ⟨info, children⟩ := tree
  exact (marksAbove_node.mp h).2 child hchild

theorem preorder_eq (tree : Tree) : tree.preorder = tree.info :: preorderList tree.children := by
  obtain ⟨info, children⟩ := tree
  rw [preorder]
  rfl

theorem preorderList_append (front back : List Tree) :
    preorderList (front ++ back) = preorderList front ++ preorderList back := by
  induction front with
  | nil => rfl
  | cons t rest ih => rw [List.cons_append, preorderList, preorderList, ih, List.append_assoc]

end Tree

/-! ## The search -/

namespace Cursor

/-- A node that is not entered has nothing faulty below it. -/
theorem not_faulty_of_markedChild_none {cursor : Cursor} (hmarks : cursor.node.MarksAbove)
    (h : cursor.markedChild? = none) :
    ∀ info ∈ Tree.preorderList cursor.node.children, ¬ info.faulty = true := by
  intro info hinfo hfaulty
  rw [markedChild?, if_pos (hmarks [] cursor.node rfl info hinfo hfaulty)] at h
  rw [children_eq_nil h] at hinfo
  exact List.not_mem_nil hinfo

/-- **From a cursor on** the search finds the first error or missing node of what is left. -/
theorem errorFrom_eq (cursor : Cursor)
    (hmarks : ∀ t ∈ cursor.node :: cursor.later, t.MarksAbove) :
    cursor.errorFrom =
      (Tree.preorderList (cursor.node :: cursor.later)).find? NodeInfo.faulty := by
  fun_induction errorFrom with
  | case1 cursor hfaulty =>
    rw [Tree.preorderList, Tree.preorder_eq, List.cons_append, List.find?_cons_of_pos hfaulty]
  | case2 cursor hfaulty child hchild ih =>
    have hfirst : cursor.firstChild? = some child := by
      unfold markedChild? at hchild
      split at hchild
      · exact hchild
      · cases hchild
    rw [Tree.preorderList, Tree.preorder_eq, List.cons_append, List.find?_cons_of_neg hfaulty,
      ← Tree.preorderList_append, children_append_later hfirst]
    apply ih
    rw [← children_append_later hfirst]
    intro t ht
    rcases List.mem_append.mp ht with ht | ht
    · exact (hmarks _ List.mem_cons_self).child ht
    · exact hmarks t (List.mem_cons_of_mem _ ht)
  | case3 cursor hfaulty hnone next hnext ih =>
    have hbelow := not_faulty_of_markedChild_none (hmarks _ List.mem_cons_self) hnone
    rw [Tree.preorderList, Tree.preorder_eq, List.cons_append, List.find?_cons_of_neg hfaulty,
      List.find?_append, List.find?_eq_none.mpr hbelow, Option.none_or, later_pass hnext]
    apply ih
    rw [← later_pass hnext]
    exact fun t ht => hmarks t (List.mem_cons_of_mem _ ht)
  | case4 cursor hfaulty hnone hlast =>
    have hbelow := not_faulty_of_markedChild_none (hmarks _ List.mem_cons_self) hnone
    rw [Tree.preorderList, Tree.preorder_eq, List.cons_append, List.find?_cons_of_neg hfaulty,
      List.find?_append, List.find?_eq_none.mpr hbelow, later_of_pass_none hlast]
    rfl

end Cursor

/-- A tree with its marks has the first error or missing node in pre-order as its first error. -/
theorem Tree.findError_eq {tree : Tree} (h : tree.MarksErrors) :
    tree.findError = tree.preorder.find? NodeInfo.faulty := by
  have hmarks : ∀ t ∈ (Cursor.ofTree tree).node :: (Cursor.ofTree tree).later, t.MarksAbove := by
    intro t ht
    rw [List.mem_singleton.mp ht]
    exact h.above
  rw [findError, Cursor.errorFrom_eq _ hmarks]
  simp [Cursor.ofTree, Cursor.later, preorderList]

theorem Tree.firstError_eq {tree : Tree} (h : tree.MarksErrors) (source : List Char) :
    tree.firstError source = (tree.preorder.find? NodeInfo.faulty).map fun info =>
      info.report (CharIndex.ofSource source) (errorMessage info source) := by
  unfold firstError
  split
  · rw [findError_eq h]
  · rename_i hunmarked
    have hnone : tree.preorder.find? NodeInfo.faulty = none := by
      rw [List.find?_eq_none]
      exact fun info hinfo hfaulty => hunmarked (h.root info hinfo hfaulty)
    rw [hnone]
    rfl

/-! ## Reports -/

/-- **What a report says of a node**: its first line and column, from one, its offset, and what is
wrong. All places count characters. -/
structure Diagnostic.Describes (diagnostic : Diagnostic) (info : NodeInfo) (source : List Char) :
    Prop where
  line : diagnostic.line = some (info.startPoint.row + 1)
  column : diagnostic.column = some (charColumn source info.startByte info.startPoint + 1)
  offset : diagnostic.offset = some (charsBefore source info.startByte)
  /-- Where the node begins behind `pre`, the line and column are those at the end of `pre`. -/
  placed : ∀ pre post, source = pre ++ post → byteLength pre = info.startByte →
    endPoint pre = info.startPoint → diagnostic.line = some (pre.count '\n' + 1) ∧
      diagnostic.column = some ((lastLine pre).length + 1) ∧ diagnostic.offset = some pre.length
  missing : info.missing = true → diagnostic.message = "missing `" ++ info.kind ++ "`"
  token : info.missing = false → ∀ c rest, info.chars source = c :: rest →
    diagnostic.message = "unexpected token `" ++ String.ofList [c] ++ "`"
  ended : info.missing = false → info.chars source = [] →
    diagnostic.message = "unexpected end of input"

theorem NodeInfo.describes_report (info : NodeInfo) (source : List Char) :
    (info.report (CharIndex.ofSource source) (Tree.errorMessage info source)).Describes
      info source where
  line := rfl
  column := by
    rw [report, CharIndex.column, CharIndex.offset_ofSource, CharIndex.offset_ofSource]
    rfl
  offset := by
    rw [report, CharIndex.offset_ofSource]
    rfl
  placed := by
    rintro pre post rfl hbyte hpoint
    rw [report, ← hbyte, ← hpoint, column_endPoint, CharIndex.offset_ofSource, charsBefore_append]
    exact ⟨rfl, rfl, rfl⟩
  missing h := by simp [report, Diagnostic.located, Tree.errorMessage, h]
  token h c rest hchars := by simp [report, Diagnostic.located, Tree.errorMessage, h, hchars]
  ended h hchars := by simp [report, Diagnostic.located, Tree.errorMessage, h, hchars]

/-! ## Strict engines -/

/-- Conversion does not depend on `strict`. -/
theorem Layout.convert_strict (source : List Char) (shape : Shape) (options : ShapeOptions)
    (strict : Bool) (tree : Tree) :
    (Layout.ofSource source shape { options with strict }).convert tree =
      (Layout.ofSource source shape options).convert tree := by
  rw [convert_eq_copyAt, convert_eq_copyAt]
  refine copyAt_congr ?_ ?_ ?_ 1 none tree
  · exact fun info => rfl
  · exact fun info field children => rfl
  · exact fun info => rfl

theorem bind_eq_ok_iff {ε α β : Type} {x : Except ε α} {next : α → Except ε β} {b : β} :
    (x >>= next) = .ok b ↔ ∃ a, x = .ok a ∧ next a = .ok b := by
  cases x with
  | error e => simp [bind, Except.bind]
  | ok a => simp [bind, Except.bind]

namespace ShapeOptions

theorem flag_insert_self (fields : Fields) (key : String) (b : Bool) :
    flag (fields.insert key (.bool b)) key = .ok b := by
  rw [flag, Fields.get?_insert, if_pos rfl]

theorem flag_insert_of_ne {name key : String} (h : key ≠ name) (fields : Fields) (value : Json) :
    flag (fields.insert name value) key = flag fields key := by
  rw [flag, Fields.get?_insert, if_neg h]
  rfl

theorem sourceName_insert_of_ne {name : String} (h : "source" ≠ name) (fields : Fields)
    (value : Json) : sourceName (fields.insert name value) = sourceName fields := by
  rw [sourceName, Fields.get?_insert, if_neg h]
  rfl

/-- Options are valid when each of them is. -/
theorem ofJson_eq_ok_iff {fields : Fields} {options : ShapeOptions} :
    ofJson (.obj fields) = .ok options ↔
      sourceName fields = .ok options.source ∧
      flag fields "includeAnonymous" = .ok options.includeAnonymous ∧
      flag fields "strict" = .ok options.strict ∧ flag fields "loc" = .ok options.loc ∧
      flag fields "range" = .ok options.range ∧ flag fields "positions" = .ok options.positions := by
  simp only [ofJson, bind_eq_ok_iff]
  constructor
  · rintro ⟨source, hsource, anonymous, hanonymous, strict, hstrict, loc, hloc, range, hrange,
      positions, hpositions, heq⟩
    cases heq
    exact ⟨hsource, hanonymous, hstrict, hloc, hrange, hpositions⟩
  · rintro ⟨hsource, hanonymous, hstrict, hloc, hrange, hpositions⟩
    exact ⟨_, hsource, _, hanonymous, _, hstrict, _, hloc, _, hrange, _, hpositions, rfl⟩

/-- Valid options stay valid when `strict` is set, and nothing else changes. -/
theorem ofJson_insert_strict {fields : Fields} {options : ShapeOptions}
    (h : ofJson (.obj fields) = .ok options) (strict : Bool) :
    ofJson (.obj (fields.insert "strict" (.bool strict))) = .ok { options with strict } := by
  rw [ofJson_eq_ok_iff] at h ⊢
  obtain ⟨hsource, hanonymous, -, hloc, hrange, hpositions⟩ := h
  refine ⟨?_, ?_, flag_insert_self fields "strict" strict, ?_, ?_, ?_⟩
  · rw [sourceName_insert_of_ne (by decide), hsource]
  · rw [flag_insert_of_ne (by decide), hanonymous]
  · rw [flag_insert_of_ne (by decide), hloc]
  · rw [flag_insert_of_ne (by decide), hrange]
  · rw [flag_insert_of_ne (by decide), hpositions]

end ShapeOptions

/-- An engine with valid options reports the first error, if it is strict and there is one, and
converts the tree otherwise. -/
theorem Grammar.parse_eq (grammar : Grammar) (shape : Shape) (code : String) {fields : Fields}
    {options : ShapeOptions} (h : ShapeOptions.ofJson (.obj fields) = .ok options) :
    grammar.parse shape code (.obj fields) =
      match if options.strict then (grammar.read code).firstError code.toList else none with
      | some diagnostic => .error diagnostic
      | none => (Layout.ofSource code.toList shape options).convert (grammar.read code) := by
  unfold parse
  rw [h]
  rfl

/-- **A tree with errors is refused at the first one, and only such a tree is.** Let a grammar keep
its promise on the marks of a tree. The tree then has no first error iff none of its nodes, named
or anonymous, is an error or missing node; if there are some, the first error describes the first
of them in pre-order. A strict engine with valid options returns this report, whatever the depth
of the tree; if there is none, it returns what it returns with `strict` off. -/
theorem Tree.refused_at_first_error (tree : Tree) (hmarks : tree.MarksErrors) :
    (∀ source, tree.firstError source = none ↔ ∀ info ∈ tree.preorder, info.faulty = false) ∧
    (∀ source front info back, tree.preorder = front ++ info :: back →
      (∀ before ∈ front, before.faulty = false) → info.faulty = true →
        ∃ diagnostic, tree.firstError source = some diagnostic ∧
          diagnostic.Describes info source) ∧
    (∀ (grammar : Grammar) package version shape code (fields : Fields) options,
      grammar.read code = tree → ShapeOptions.ofJson (.obj fields) = .ok options →
      options.strict = true →
        let engine := grammar.engine package version shape
        (∀ diagnostic, tree.firstError code.toList = some diagnostic →
          engine.parse code (.obj fields) = .error diagnostic) ∧
        (tree.firstError code.toList = none → engine.parse code (.obj fields) =
          engine.parse code (.obj (fields.insert "strict" (.bool false))))) := by
  refine ⟨?_, ?_, ?_⟩
  · intro source
    rw [firstError_eq hmarks, Option.map_eq_none_iff, List.find?_eq_none]
    simp only [Bool.not_eq_true]
  · intro source front info back hsplit hfront hfaulty
    refine ⟨_, ?_, info.describes_report source⟩
    have hnone : front.find? NodeInfo.faulty = none := by
      rw [List.find?_eq_none]
      exact fun before hbefore => by simp [hfront before hbefore]
    rw [firstError_eq hmarks, hsplit, List.find?_append, hnone, Option.none_or,
      List.find?_cons_of_pos hfaulty, Option.map_some]
  · rintro grammar package version shape code fields options rfl hvalid hstrict engine
    have hparse : engine.parse code (.obj fields) =
        match (grammar.read code).firstError code.toList with
        | some diagnostic => .error diagnostic
        | none => (Layout.ofSource code.toList shape options).convert (grammar.read code) :=
      (grammar.parse_eq shape code hvalid).trans (by rw [if_pos hstrict])
    constructor
    · intro diagnostic hsome
      rw [hparse, hsome]
    · intro hnone
      have hoff : engine.parse code (.obj (fields.insert "strict" (.bool false))) =
          (Layout.ofSource code.toList shape { options with strict := false }).convert
            (grammar.read code) :=
        grammar.parse_eq shape code (ShapeOptions.ofJson_insert_strict hvalid false)
      rw [hparse, hnone, hoff]
      exact (Layout.convert_strict code.toList shape options false _).symm

/-! ### A missing parenthesis -/

namespace Sample

/-- A call with the parenthesis left open, on the second line behind `é`. -/
def call : NodeInfo :=
  { name with
    kind := "call", hasError := true, stopByte := 5, stopPoint := ⟨1, 2⟩, field := none }

/-- The anonymous node for the parenthesis that is not there. -/
def parenthesis : NodeInfo :=
  { call with
    kind := ")", named := false, missing := true, startByte := 5, startPoint := ⟨1, 2⟩ }

def openCall : Tree :=
  .node { program with hasError := true, stopByte := 5, stopPoint := ⟨1, 2⟩ }
    [.node { name with startByte := 0, stopByte := 2, startPoint := ⟨0, 0⟩, stopPoint := ⟨0, 2⟩ } [],
     .node call [.node { name with stopByte := 4, stopPoint := ⟨1, 1⟩ } [], .node parenthesis []]]

theorem openCall_marksErrors : openCall.MarksErrors where
  root _ _ _ := rfl
  above := by
    have hleaf : ∀ info, (Tree.node info []).MarksAbove := by
      intro info
      rw [Tree.marksAbove_node]
      simp [Tree.preorderList]
    unfold openCall
    rw [Tree.marksAbove_node]
    refine ⟨fun _ _ _ => rfl, ?_⟩
    intro child hchild
    rcases List.mem_cons.mp hchild with rfl | hchild
    · exact hleaf _
    · rw [List.mem_singleton.mp hchild, Tree.marksAbove_node]
      refine ⟨fun _ _ _ => rfl, ?_⟩
      intro leaf hmem
      rcases List.mem_cons.mp hmem with rfl | hmem
      · exact hleaf _
      · rw [List.mem_singleton.mp hmem]
        exact hleaf _

end Sample

theorem Tree.refused_at_missing_parenthesis :
    let report := Diagnostic.located "missing `)`" 2 3 4
    let grammar : Grammar := ⟨fun _ => Sample.openCall, fun _ _ => .ok []⟩
    Sample.openCall.MarksErrors ∧ Sample.openCall.firstError "é\nx(".toList = some report ∧
      (grammar.engine "calls" none .cst).parse "é\nx(" (.obj [("strict", .bool true)]) =
        .error report := by
  intro report grammar
  obtain ⟨-, hfirst, hengine⟩ := Sample.openCall.refused_at_first_error Sample.openCall_marksErrors
  obtain ⟨diagnostic, hdiagnostic, hdescribes⟩ :=
    hfirst "é\nx(".toList (Sample.openCall.preorder.take 4) Sample.parenthesis [] (by rfl)
      (by decide) (by rfl)
  have hreport : diagnostic = report := by
    obtain ⟨hline, hcolumn, hoffset⟩ :=
      hdescribes.placed ['é', '\n', 'x', '('] [] (by rfl) (by rfl) (by decide)
    have hmessage := hdescribes.missing rfl
    obtain ⟨message, line, column, offset⟩ := diagnostic
    subst hline hcolumn hoffset hmessage
    decide
  subst hreport
  have hvalid : ShapeOptions.ofJson (.obj [("strict", .bool true)]) = .ok { strict := true } := by
    rfl
  exact ⟨Sample.openCall_marksErrors, hdiagnostic,
    (hengine grammar "calls" none .cst _ _ _ rfl hvalid rfl).1 _ hdiagnostic⟩

end Arboretum
