import Arboretum.Proofs.ExactOffsets

/-!
# Locations are read as declared

A strategy names the fields in which a node carries its range. The resolver walks to them key by
key, and every step may come to nothing. What it gives is said here without the steps.

* `Json.Reaches`: a value is found by looking up keys in one object after another.
* `Text.Dotted`: the keys that a dotted path is made of; `Text.dotted_iff` says that cutting the
  path at its dots finds them.
* `Strategy.Declares`: the values at the declared fields. `Strategy.declares_iff` ties them to the
  fields in the order of a location's numbers.
* `Strategy.resolves_as_declared`: a location is read off these values and nothing else.
-/

namespace Arboretum

/-! ## Paths -/

/-- A value is found by looking up keys in one object after another. -/
inductive Json.Reaches : Json → List String → Json → Prop
  | here (value : Json) : Reaches value [] value
  | under {fields : Fields} {key : String} {keys : List String} {next value : Json}
      (found : fields.get? key = some next) (further : Reaches next keys value) :
      Reaches (.obj fields) (key :: keys) value

theorem Json.path?_eq_some_iff {root value : Json} {keys : List String} :
    root.path? keys = some value ↔ root.Reaches keys value := by
  constructor
  · intro h
    induction keys generalizing root with
    | nil =>
      cases h
      exact .here _
    | cons key keys ih =>
      obtain ⟨next, hnext, hrest⟩ := Option.bind_eq_some_iff.mp h
      cases root with
      | obj fields => exact .under hnext (ih hrest)
      | null | bool | num | str | arr => cases hnext
  · intro h
    induction h with
    | here value => rfl
    | under found _ ih =>
      rw [path?, get?, found, Option.bind_some, ih]

namespace Text

/-- The keys of a path: it is made of them with dots between, and they have no dots themselves. -/
def Dotted (path : String) (keys : List String) : Prop :=
  keys ≠ [] ∧ (∀ key ∈ keys, '.' ∉ key.toList) ∧ String.intercalate "." keys = path

theorem not_mem_of_mem_splitOn {sep : Char} {cs : List Char} :
    ∀ part ∈ splitOn sep cs, sep ∉ part := by
  induction cs with
  | nil => simp [splitOn]
  | cons c cs ih =>
    obtain ⟨first, rest, h⟩ := List.exists_cons_of_ne_nil (splitOn_ne_nil sep cs)
    rw [splitOn_cons, h]
    rw [h] at ih
    intro part hpart
    by_cases hc : c = sep
    · rw [if_pos hc] at hpart
      rcases List.mem_cons.mp hpart with rfl | hpart
      · exact List.not_mem_nil
      · exact ih part hpart
    · rw [if_neg hc] at hpart
      rcases List.mem_cons.mp hpart with rfl | hpart
      · rw [List.mem_cons, not_or]
        exact ⟨Ne.symm hc, ih first List.mem_cons_self⟩
      · exact ih part (List.mem_cons_of_mem first hpart)

theorem toList_parts (sep : Char) (s : String) :
    (parts sep s).map String.toList = splitOn sep s.toList := by
  rw [parts, List.map_map]
  exact List.map_id'' (fun _ => String.toList_ofList) _

/-- **Cutting a path at every dot finds its keys.** -/
theorem dotted_iff {path : String} {keys : List String} :
    Dotted path keys ↔ keys = parts '.' path := by
  constructor
  · rintro ⟨hne, hnodot, rfl⟩
    have hkeys : splitOn '.' (String.intercalate "." keys).toList = keys.map String.toList := by
      rw [splitOn_eq_splitOn, String.toList_intercalate]
      refine List.splitOn_intercalate '.' ?_ (by simpa using hne)
      intro part hpart
      obtain ⟨key, hkey, rfl⟩ := List.mem_map.mp hpart
      exact hnodot key hkey
    rw [parts, hkeys, List.map_map]
    exact (List.map_id'' (fun _ => String.ofList_toList) _).symm
  · rintro rfl
    refine ⟨by simp [parts, splitOn_ne_nil], ?_, ?_⟩
    · intro key hkey
      have hpart : key.toList ∈ splitOn '.' path.toList := by
        rw [← toList_parts]
        exact List.mem_map_of_mem hkey
      exact not_mem_of_mem_splitOn _ hpart
    · rw [← String.toList_inj, String.toList_intercalate, toList_parts, splitOn_eq_splitOn]
      exact List.intercalate_splitOn '.'

end Text

/-! ## Declared values -/

namespace Strategy

/-- The values at the fields that a strategy declares, in the order of a location's numbers. A tuple
is an array of exactly two values; the points of a nested location are in the object at the end of a
dotted path. -/
inductive Declares (node : Json) : Strategy → List Json → Prop
  | pair {start stop : String} {a b : Json} (first : node.Reaches [start] a)
      (last : node.Reaches [stop] b) : Declares node (.offsets (.pair start stop)) [a, b]
  | tuple {field : String} {a b : Json} (both : node.Reaches [field] (.arr [a, b])) :
      Declares node (.offsets (.tuple field)) [a, b]
  | offset {container start stop field : String} {keys : List String} {a b : Json}
      (split : Text.Dotted container keys) (first : node.Reaches (keys ++ [start, field]) a)
      (last : node.Reaches (keys ++ [stop, field]) b) :
      Declares node (.structured ⟨container, start, stop, .offset field⟩) [a, b]
  | lineColumn {container start stop : String} {keys : List String} {a b c d : Json}
      (split : Text.Dotted container keys)
      (startLine : node.Reaches (keys ++ [start, "line"]) a)
      (startColumn : node.Reaches (keys ++ [start, "column"]) b)
      (endLine : node.Reaches (keys ++ [stop, "line"]) c)
      (endColumn : node.Reaches (keys ++ [stop, "column"]) d) :
      Declares node (.structured ⟨container, start, stop, .lineColumn⟩) [a, b, c, d]

/-- The paths of the fields that a strategy declares. -/
def paths : Strategy → List (List String)
  | .offsets (.pair start stop) => [[start], [stop]]
  | .offsets (.tuple field) => [[field]]
  | .structured path =>
    let fields := match path.point with
      | .offset field => [[path.start, field], [path.stop, field]]
      | .lineColumn => [[path.start, "line"], [path.start, "column"],
          [path.stop, "line"], [path.stop, "column"]]
    fields.map (path.segments ++ ·)

variable {strategy : Strategy} {node other : Json}

/-- The declared values are what the declared fields have, one by one. -/
theorem declares_iff {values : List Json} :
    strategy.Declares node values ↔
      List.Forall₂ (fun field value => field = some value) (strategy.declared node) values := by
  constructor
  · intro h
    cases h with
    | pair first last =>
      exact .cons (Json.path?_eq_some_iff.mpr first) (.cons (Json.path?_eq_some_iff.mpr last) .nil)
    | tuple both =>
      simp only [declared, Json.path?_eq_some_iff.mpr both]
      exact .cons rfl (.cons rfl .nil)
    | offset split first last =>
      obtain rfl := Text.dotted_iff.mp split
      exact .cons (Json.path?_eq_some_iff.mpr first) (.cons (Json.path?_eq_some_iff.mpr last) .nil)
    | lineColumn split startLine startColumn endLine endColumn =>
      obtain rfl := Text.dotted_iff.mp split
      exact .cons (Json.path?_eq_some_iff.mpr startLine)
        (.cons (Json.path?_eq_some_iff.mpr startColumn)
        (.cons (Json.path?_eq_some_iff.mpr endLine)
        (.cons (Json.path?_eq_some_iff.mpr endColumn) .nil)))
  · intro h
    unfold declared at h
    split at h
    · obtain _ | ⟨hfirst, h⟩ := h
      obtain _ | ⟨hlast, ⟨⟩⟩ := h
      exact .pair (Json.path?_eq_some_iff.mp hfirst) (Json.path?_eq_some_iff.mp hlast)
    · split at h
      · rename_i hfound
        obtain _ | ⟨⟨⟩, h⟩ := h
        obtain _ | ⟨⟨⟩, ⟨⟩⟩ := h
        exact .tuple (Json.path?_eq_some_iff.mp hfound)
      · obtain _ | ⟨⟨⟩, -⟩ := h
    · rename_i path
      obtain ⟨container, start, stop, point⟩ := path
      have split : Text.Dotted container (Text.parts '.' container) := Text.dotted_iff.mpr rfl
      cases point with
      | offset field =>
        obtain _ | ⟨hfirst, h⟩ := h
        obtain _ | ⟨hlast, ⟨⟩⟩ := h
        exact .offset split (Json.path?_eq_some_iff.mp hfirst) (Json.path?_eq_some_iff.mp hlast)
      | lineColumn =>
        obtain _ | ⟨hstartLine, h⟩ := h
        obtain _ | ⟨hstartColumn, h⟩ := h
        obtain _ | ⟨hendLine, h⟩ := h
        obtain _ | ⟨hendColumn, ⟨⟩⟩ := h
        exact .lineColumn split (Json.path?_eq_some_iff.mp hstartLine)
          (Json.path?_eq_some_iff.mp hstartColumn) (Json.path?_eq_some_iff.mp hendLine)
          (Json.path?_eq_some_iff.mp hendColumn)

/-- Fields have offsets when they have values and these are accepted. -/
theorem accepted_iff {fields : List (Option Json)} {numbers : List Nat} :
    List.Forall₂ (fun field n => field.bind asOffset = some n) fields numbers ↔
      ∃ values, List.Forall₂ (fun field value => field = some value) fields values ∧
        List.Forall₂ (fun value n => asOffset value = some n) values numbers := by
  constructor
  · intro h
    induction h with
    | nil => exact ⟨[], .nil, .nil⟩
    | cons hn _ ih =>
      obtain ⟨values, hvalues, hnumbers⟩ := ih
      obtain ⟨value, hvalue, hoffset⟩ := Option.bind_eq_some_iff.mp hn
      exact ⟨value :: values, .cons hvalue hvalues, .cons hoffset hnumbers⟩
  · rintro ⟨values, hvalues, hnumbers⟩
    induction hvalues generalizing numbers with
    | nil =>
      cases hnumbers
      exact .nil
    | cons hvalue _ ih =>
      obtain _ | ⟨hoffset, hrest⟩ := hnumbers
      refine .cons ?_ (ih hrest)
      rw [hvalue, Option.bind_some, hoffset]

theorem exists_fields_of_resolve {location : Location}
    (h : strategy.resolve node = some location) : ∃ fields, node = .obj fields := by
  unfold resolve at h
  split at h
  · exact ⟨_, rfl⟩
  · exact ⟨_, rfl⟩
  · exact ⟨_, rfl⟩
  · cases h

/-- Nodes with the same values at the declared paths have the same declared fields. -/
theorem declared_congr (h : ∀ path ∈ strategy.paths, node.path? path = other.path? path) :
    strategy.declared node = strategy.declared other := by
  unfold declared
  split
  · rw [h [_] (by simp [paths]), h [_] (by simp [paths])]
  · rw [h [_] (by simp [paths])]
  · exact List.map_congr_left fun keys hkeys => h _ (List.mem_map_of_mem hkeys)

/-- **A location is read off the declared fields and nothing else.** For every strategy and value:

* there is a location exactly when the value is an object, the declared fields are all reached, the
  values there are accepted as offsets, and these are in order; it holds these offsets;
* so no location is inverted, neither by its offsets nor by its points;
* values that have the same at the paths of the declared fields have the same location. -/
theorem resolves_as_declared (strategy : Strategy) (node : Json) :
    (∀ location, strategy.resolve node = some location ↔
      (∃ fields, node = .obj fields) ∧
      (∃ values, strategy.Declares node values ∧
        List.Forall₂ (fun value n => asOffset value = some n) values location.numbers) ∧
      location.Ordered) ∧
    (∀ start stop, strategy.resolve node = some (.offsets start stop) → ¬ stop < start) ∧
    (∀ startLine startColumn endLine endColumn,
      strategy.resolve node = some (.lineColumn startLine startColumn endLine endColumn) →
        ¬ (endLine < startLine ∨ endLine = startLine ∧ endColumn < startColumn)) ∧
    ∀ other : Json,
      (∀ path ∈ strategy.paths, ∀ value, node.Reaches path value ↔ other.Reaches path value) →
        strategy.resolve node = strategy.resolve other := by
  refine ⟨?_, ?_, ?_, ?_⟩
  · intro location
    have hvalues : (∃ values, strategy.Declares node values ∧
        List.Forall₂ (fun value n => asOffset value = some n) values location.numbers) ↔
        List.Forall₂ (fun field n => field.bind asOffset = some n) (strategy.declared node)
          location.numbers := by
      simp only [accepted_iff, declares_iff]
    rw [hvalues, ← resolve_eq_some_iff]
    exact ⟨fun h => ⟨exists_fields_of_resolve h, h⟩, fun h => h.2⟩
  · intro start stop h
    exact Nat.not_lt.mpr (resolve_eq_some_iff.mp h).2
  · intro startLine startColumn endLine endColumn h
    have hordered : startLine < endLine ∨ startLine = endLine ∧ startColumn ≤ endColumn :=
      (resolve_eq_some_iff.mp h).2
    omega
  · intro other hagree
    have hdeclared : strategy.declared node = strategy.declared other := by
      refine declared_congr fun path hpath => Option.ext fun value => ?_
      rw [Json.path?_eq_some_iff, Json.path?_eq_some_iff]
      exact hagree path hpath value
    refine Option.ext fun location => ?_
    rw [resolve_eq_some_iff, resolve_eq_some_iff, hdeclared]

/-! ### A location two objects deep -/

/-- A point with an offset. -/
def pointAt (n : Nat) : Json := .obj [("offset", .ofNat n)]

/-- A node with a location under `data` and `loc`, and something else beside it. -/
def nested (extra : Json) : Json :=
  .obj [("extra", extra), ("data", .obj [("loc", .obj [("end", pointAt 5), ("start", pointAt 2)])])]

theorem resolves_as_declared_nested :
    let strategy : Strategy := .structured ⟨"data.loc", "start", "end", .offset "offset"⟩
    strategy.resolve (nested .null) = some (.offsets 2 5) ∧
      strategy.resolve (nested .null) = strategy.resolve (nested (pointAt 7)) := by
  intro strategy
  have hkeys : Text.Dotted "data.loc" ["data", "loc"] := Text.dotted_iff.mpr (by decide)
  have hstart : ∀ extra, (nested extra).Reaches ["data", "loc", "start", "offset"] (.ofNat 2) :=
    fun extra => .under rfl (.under rfl (.under rfl (.under rfl (.here _))))
  have hend : ∀ extra, (nested extra).Reaches ["data", "loc", "end", "offset"] (.ofNat 5) :=
    fun extra => .under rfl (.under rfl (.under rfl (.under rfl (.here _))))
  obtain ⟨hlocated, -, -, hagree⟩ := resolves_as_declared strategy (nested .null)
  refine ⟨?_, ?_⟩
  · refine (hlocated (.offsets 2 5)).mpr ⟨⟨_, rfl⟩, ?_, (by decide : 2 ≤ 5)⟩
    exact ⟨_, .offset hkeys (hstart .null) (hend .null), .cons rfl (.cons rfl .nil)⟩
  · refine hagree _ fun path hpath value => ?_
    rw [← Json.path?_eq_some_iff, ← Json.path?_eq_some_iff]
    have hpaths : strategy.paths =
        [["data", "loc", "start", "offset"], ["data", "loc", "end", "offset"]] := by decide
    rw [hpaths] at hpath
    rcases List.mem_pair.mp hpath with rfl | rfl
    · rw [Json.path?_eq_some_iff.mpr (hstart _), Json.path?_eq_some_iff.mpr (hstart _)]
    · rw [Json.path?_eq_some_iff.mpr (hend _), Json.path?_eq_some_iff.mpr (hend _)]

end Strategy

end Arboretum
