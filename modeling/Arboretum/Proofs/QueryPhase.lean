import Arboretum.Proofs.ExactOffsets
import Arboretum.Proofs.FirstError
import Arboretum.Proofs.Placement

/-!
# A tree with the captures of a query

The two-phase adapter parses a code and then runs a query over it. The captures are put on the root
of the tree, and nothing else of the tree changes.

* `Grammar.exists_shows_of_parse`: a parsed tree shows a tree of the grammar, so its root has the
  keys of a node and no others.
* `Capture.located_toJson`: a capture whose bytes lie between characters is listed with the offsets
  at which the code holds its text.
* `Grammar.exists_captures_of_query`: the answer to a query lists its captures in their order.
* `Adapter.twoPhase_eq_ok_iff`, `Adapter.twoPhase_eq_error_iff`: the outcome of two phases.
* `Catalog.captures_added_to_tree`: all of this about the adapter of the catalog.
-/

namespace Arboretum

open Text

/-! ## The first phase -/

/-- What an engine parses shows the tree of its grammar in some layout. -/
theorem Grammar.exists_shows_of_parse {grammar : Grammar} {shape : Shape} {code : String}
    {options value : Json} (h : grammar.parse shape code options = .ok value) :
    ∃ layout : Layout, layout.Shows none ((grammar.read code).prune layout.keeps) value := by
  obtain ⟨shapeOptions, -, hconvert⟩ := bind_eq_ok_iff.mp h
  dsimp only at hconvert
  split at hconvert
  · cases hconvert
  · exact ⟨_, Layout.shows_of_convert rfl hconvert⟩

/-- A shown node is an object without captures. -/
theorem Layout.Shows.exists_fields {layout : Layout} {field : Option String} {tree : Tree}
    {value : Json} (h : layout.Shows field tree value) :
    ∃ fields : Fields, value = .obj fields ∧ fields.get? "captures" = none := by
  obtain ⟨-, hkeys⟩ := h
  exact ⟨_, rfl, hkeys "captures"⟩

/-! ## The second phase -/

/-- A byte between two characters of a source, or at one of its ends. -/
def Text.Boundary (source : List Char) (byte : Nat) : Prop :=
  ∃ pre, pre <+: source ∧ byteLength pre = byte

/-- Two boundaries in order have a text between them. -/
theorem Text.Boundary.exists_covers {source : List Char} {start stop : Nat}
    (hstart : Boundary source start) (hstop : Boundary source stop) (h : start ≤ stop) :
    ∃ text, Covers source start stop text := by
  obtain ⟨pre, hpre, rfl⟩ := hstart
  obtain ⟨upto, hupto, rfl⟩ := hstop
  obtain ⟨text, rfl⟩ := prefix_of_byteLength_le hpre hupto h
  obtain ⟨post, hpost⟩ := hupto
  exact ⟨text, pre, post, hpost.symm, rfl, rfl⟩

/-- Where a text stands between two bytes, it stands between the offsets of these bytes. -/
theorem Text.Covers.offsets {source text : List Char} {start stop : Nat}
    (h : Covers source start stop text) :
    charsBefore source start ≤ charsBefore source stop ∧
      (Location.offsets (charsBefore source start) (charsBefore source stop)).sliceChars source =
        some text := by
  obtain ⟨pre, post, rfl, rfl, rfl⟩ := h
  have hstart : charsBefore (pre ++ text ++ post) (byteLength pre) = pre.length := by
    rw [List.append_assoc, charsBefore_append]
  rw [hstart, charsBefore_append]
  exact ⟨length_le_append pre text, Location.slice_offsets pre text post⟩

namespace Capture

/-- What a grammar promises of the place of a capture. -/
structure PlacedIn (capture : Capture) (source : List Char) : Prop where
  start_le_stop : capture.startByte ≤ capture.stopByte
  start : Text.Boundary source capture.startByte
  stop : Text.Boundary source capture.stopByte

/-- An item says where a code holds a capture: it has the text in the byte range of the capture,
and it is located at offsets that slice the code to this text. -/
structure LocatedBy (capture : Capture) (code : String) (item : Json) (text : String)
    (start stop : Nat) : Prop where
  covers : Text.Covers code.toList capture.startByte capture.stopByte text.toList
  text_eq : item.get? "text" = some (.str text)
  start_eq : item.get? "start" = some (.ofNat start)
  stop_eq : item.get? "end" = some (.ofNat stop)
  location_eq : Strategy.startEnd.resolve item = some (.offsets start stop)
  slice_eq : (Location.offsets start stop).slice code = some text

/-- **An item lists a capture**: it has its name and kind, and if the capture is placed in the
code, the item says where. -/
structure ListedBy (capture : Capture) (code : String) (item : Json) : Prop where
  name_eq : item.get? "name" = some (.str capture.name)
  kind_eq : item.get? "type" = some (.str capture.kind)
  located : capture.PlacedIn code.toList → ∃ text start stop,
    capture.LocatedBy code item text start stop

variable {capture : Capture} {code : String}

theorem located_toJson (h : capture.PlacedIn code.toList) :
    ∃ text start stop, capture.LocatedBy code
      (capture.toJson code.toList (.ofSource code.toList)) text start stop := by
  obtain ⟨text, hcovers⟩ := h.start.exists_covers h.stop h.start_le_stop
  obtain ⟨hle, hslice⟩ := hcovers.offsets
  have hstart : (capture.toJson code.toList (.ofSource code.toList)).get? "start" =
      some (.ofNat (charsBefore code.toList capture.startByte)) := by
    simp [toJson, CharIndex.offset_ofSource]
  have hstop : (capture.toJson code.toList (.ofSource code.toList)).get? "end" =
      some (.ofNat (charsBefore code.toList capture.stopByte)) := by
    simp [toJson, CharIndex.offset_ofSource]
  refine ⟨String.ofList text, _, _, ?_, ?_, hstart, hstop, ?_, ?_⟩
  · rwa [String.toList_ofList]
  · simp [toJson, hcovers.bytesBetween?]
  · exact Strategy.resolve_startEnd hstart hstop hle
  · rw [Location.slice, hslice, Option.map_some]

theorem listed_toJson (capture : Capture) (code : String) :
    capture.ListedBy code (capture.toJson code.toList (.ofSource code.toList)) where
  name_eq := by simp [toJson]
  kind_eq := by simp [toJson]
  located := located_toJson

end Capture

/-- The answer to a query lists the captures of its source in their order. -/
theorem Grammar.exists_captures_of_query {grammar : Grammar} {code : String}
    {options answer : Json} (h : grammar.query code options = .ok answer) :
    ∃ (source : String) (captures : List Capture) (items : List Json),
      options.get? "source" = some (.str source) ∧ grammar.search code source = .ok captures ∧
      answer.getD "captures" = .arr items ∧
      List.Forall₂ (fun capture item => capture.ListedBy code item) captures items := by
  unfold query at h
  split at h
  · cases h
  · rename_i source hsource
    obtain ⟨value, hvalue, hstr⟩ := Option.bind_eq_some_iff.mp hsource
    cases value with
    | str text =>
      cases hstr
      split at h
      · cases h
      · rename_i captures hsearch
        cases h
        refine ⟨source, captures, _, hvalue, hsearch, rfl, ?_⟩
        rw [List.forall₂_map_right_iff]
        exact List.forall₂_same.mpr fun capture _ => capture.listed_toJson code
    | null | bool _ | num _ | arr _ | obj _ => cases hstr

/-! ## Both phases -/

namespace Adapter

variable {first second entry target : String} {pick : Json → Json} {engine : Engine}
  {code : String} {options : Json}

theorem twoPhase_eq_ok_iff {value : Json} :
    twoPhase first second entry target pick engine code options = .ok value ↔
      ∃ tree answer, engine.parse code (options.getD first) = .ok tree ∧
        engine.invoke entry code (options.getD second) = .ok answer ∧
        value = match tree with
          | .obj fields => .obj (Fields.insert fields target (pick answer))
          | other => other := by
  unfold twoPhase
  simp only [bind_eq_ok_iff]
  constructor
  · rintro ⟨tree, htree, answer, hanswer, hvalue⟩
    refine ⟨tree, answer, htree, hanswer, ?_⟩
    cases tree <;> exact (Except.ok.inj hvalue).symm
  · rintro ⟨tree, answer, htree, hanswer, rfl⟩
    refine ⟨tree, htree, answer, hanswer, ?_⟩
    cases tree <;> rfl

/-- The diagnostic is that of the first phase to fail. -/
theorem twoPhase_eq_error_iff {diagnostic : Diagnostic} :
    twoPhase first second entry target pick engine code options = .error diagnostic ↔
      engine.parse code (options.getD first) = .error diagnostic ∨
      (∃ tree, engine.parse code (options.getD first) = .ok tree) ∧
        engine.invoke entry code (options.getD second) = .error diagnostic := by
  unfold twoPhase
  cases engine.parse code (options.getD first) with
  | error d => simp [bind, Except.bind]
  | ok tree =>
    cases engine.invoke entry code (options.getD second) with
    | error d => simp [bind, Except.bind]
    | ok answer => cases tree <;> simp [bind, Except.bind]

end Adapter

namespace Json

/-- Values that agree on their children have the same nodes below them. -/
theorem nodeAt?_congr {a b : Json} (h : a.get? "children" = b.get? "children") (i : Nat)
    (path : List Nat) : a.nodeAt? (i :: path) = b.nodeAt? (i :: path) := by
  rw [nodeAt?, nodeAt?, h]

theorem get?_getD (value : Json) (key inner : String) :
    (value.getD key).get? inner = value.path? [key, inner] := by
  rw [getD, path?]
  cases value.get? key with
  | none => rfl
  | some found =>
    rw [Option.bind_some, path?_singleton]
    rfl

end Json

/-- **The two-phase adapter adds the captures of a query to a tree, and nothing else.** It returns a
value iff both phases do. The value is then the object that the first phase returned, with one key
more: without `captures` the root is the same, so every other key and every node below it are. Under
`captures` are the captures of the query in the order of the grammar, and each that is placed in the
code is located at its text. Otherwise the diagnostic is that of the first phase, if it fails, and
that of the query if only the query does. -/
theorem Catalog.captures_added_to_tree (grammar : Grammar) (package : String)
    (version : Option String) (shape : Shape) (code : String) (options : Fields) :
    let engine := grammar.engine package version shape
    let parsed := engine.parse code ((Json.obj options).getD "parse")
    let queried := engine.invoke "query" code ((Json.obj options).getD "query")
    let outcome := javascriptQuery.parse engine code (.obj options)
    ((∃ value, outcome = .ok value) ↔
      (∃ tree, parsed = .ok tree) ∧ ∃ answer, queried = .ok answer) ∧
    (∀ value, outcome = .ok value → ∃ (fields root : Fields) (source : String)
        (captures : List Capture) (items : List Json),
      parsed = .ok (.obj fields) ∧ value = .obj root ∧
      fields.get? "captures" = none ∧ root.erase "captures" = fields ∧
      (∀ key, key ≠ "captures" → root.get? key = fields.get? key) ∧
      (∀ i path, value.nodeAt? (i :: path) = (Json.obj fields).nodeAt? (i :: path)) ∧
      (Json.obj options).path? ["query", "source"] = some (.str source) ∧
      grammar.search code source = .ok captures ∧
      root.get? "captures" = some (.arr items) ∧
      List.Forall₂ (fun capture item => capture.ListedBy code item) captures items) ∧
    (∀ diagnostic, outcome = .error diagnostic ↔
      parsed = .error diagnostic ∨
      (∃ tree, parsed = .ok tree) ∧ queried = .error diagnostic) := by
  intro engine parsed queried outcome
  refine ⟨?_, ?_, fun diagnostic => Adapter.twoPhase_eq_error_iff⟩
  · constructor
    · rintro ⟨value, hvalue⟩
      obtain ⟨tree, answer, htree, hanswer, -⟩ := Adapter.twoPhase_eq_ok_iff.mp hvalue
      exact ⟨⟨tree, htree⟩, answer, hanswer⟩
    · rintro ⟨⟨tree, htree⟩, answer, hanswer⟩
      exact ⟨_, Adapter.twoPhase_eq_ok_iff.mpr ⟨tree, answer, htree, hanswer, rfl⟩⟩
  · intro value hvalue
    obtain ⟨tree, answer, htree, hanswer, rfl⟩ := Adapter.twoPhase_eq_ok_iff.mp hvalue
    obtain ⟨layout, hshows⟩ := Grammar.exists_shows_of_parse htree
    obtain ⟨fields, rfl, habsent⟩ := hshows.exists_fields
    obtain ⟨source, captures, items, hsource, hsearch, hitems, hlisted⟩ :=
      Grammar.exists_captures_of_query hanswer
    rw [Json.get?_getD] at hsource
    have hroot : ∀ key, (fields.insert "captures" (answer.getD "captures")).get? key =
        if key = "captures" then some (.arr items) else fields.get? key := by
      intro key
      rw [Fields.get?_insert, hitems]
    refine ⟨fields, _, source, captures, items, htree, rfl, habsent, ?_, ?_, ?_, hsource, hsearch,
      ?_, hlisted⟩
    · rw [Fields.erase_insert, Fields.erase_of_absent habsent]
    · intro key hkey
      rw [hroot, if_neg hkey]
    · exact Json.nodeAt?_congr ((hroot "children").trans (if_neg (by decide)))
    · rw [hroot, if_pos rfl]

/-! ### The name on the second line, captured -/

namespace Sample

def capture : Capture := ⟨"name", "identifier", 3, 6⟩

/-- Reads every code as the sample tree, and finds its name by every query. -/
def grammar : Grammar where
  read _ := tree
  search _ _ := .ok [capture]

theorem capture_placedIn : capture.PlacedIn "é\nxé".toList where
  start_le_stop := by decide
  start := ⟨['é', '\n'], by decide, rfl⟩
  stop := ⟨['é', '\n', 'x', 'é'], by decide, rfl⟩

/-- Options with a given `strict` for the first phase, and a query. -/
def settings (strict : Json) (query : Fields) : Fields :=
  [("parse", .obj [("strict", strict)]), ("query", .obj query)]

end Sample

/-- The capture behind `é` and a line feed is listed with its text and located there. A flag that is
no flag is reported though the query has no source either, and the query if all else is right. -/
theorem Catalog.captures_added_to_tree_second_line :
    let outcome options := javascriptQuery.parse
      (Sample.grammar.engine "tree-sitter-javascript" none .estree) "é\nxé" (.obj options)
    (∃ value item text start stop,
      outcome (Sample.settings (.bool false) [("source", .str "(identifier) @name")]) = .ok value ∧
      value.get? "captures" = some (.arr [item]) ∧
      Sample.capture.LocatedBy "é\nxé" item text start stop ∧ text = "xé") ∧
    outcome (Sample.settings (.str "yes") []) =
      .error (ShapeOptions.mistyped "strict" "boolean" (.str "yes")) ∧
    outcome (Sample.settings (.bool false) []) =
      .error (.plain "query requires a `source` string") := by
  intro outcome
  have hspec := Catalog.captures_added_to_tree Sample.grammar "tree-sitter-javascript" none .estree
    "é\nxé"
  have hparsed : ∃ tree, Sample.grammar.parse .estree "é\nxé" (.obj [("strict", .bool false)]) =
      .ok tree := by
    have hoptions : ShapeOptions.ofJson (.obj [("strict", .bool false)]) = .ok {} := rfl
    rw [Grammar.parse_eq _ _ _ hoptions, if_neg (by decide)]
    dsimp only
    rw [Layout.convert_eq_copyAt]
    exact ⟨_, rfl⟩
  refine ⟨?_, ?_, ?_⟩
  · obtain ⟨hok, hvalue, -⟩ := hspec (Sample.settings (.bool false)
      [("source", .str "(identifier) @name")])
    obtain ⟨value, houtcome⟩ := hok.mpr ⟨hparsed, _, rfl⟩
    obtain ⟨fields, root, source, captures, items, -, rfl, -, -, -, -, -, hsearch, hitems,
      hlisted⟩ := hvalue value houtcome
    cases hsearch
    cases hlisted with
    | cons hitem hrest =>
      cases hrest
      obtain ⟨text, start, stop, hlocated⟩ := hitem.located Sample.capture_placedIn
      refine ⟨_, _, text, start, stop, houtcome, hitems, hlocated, ?_⟩
      have htext : text.toList = ['x', 'é'] :=
        Option.some.inj (hlocated.covers.bytesBetween?.symm.trans (by rfl))
      rw [← String.ofList_toList (s := text), htext]
  · exact ((hspec _).2.2 _).mpr (.inl rfl)
  · exact ((hspec _).2.2 _).mpr (.inr ⟨hparsed, rfl⟩)

end Arboretum
