import Arboretum.Location.Strategy
import Arboretum.Proofs.Slices
import Mathlib.Algebra.Order.Field.Rat
import Mathlib.Tactic.FieldSimp
import Mathlib.Tactic.Linarith
import Mathlib.Tactic.Positivity

/-!
# Resolved positions are exact

The numbers of a resolved location are read off fields of a node, whole numbers directly and
doubles through a test for whole values. What is read is the exact value of the number, with one
exception: the double `2 ^ 64` passes the test and is taken down to the largest offset.

* `JsonNumber.value`: the exact value of a number, as a rational.
* `Binary64.toNat?_eq_some_iff`: a double is read as a natural number iff that is its value.
* `Strategy.asOffset_eq_some`: what an offset says of the number it was read off.
* `Strategy.declared`: what a node has at the fields that a strategy declares.
* `Strategy.resolve_eq_some_iff`: a node has a location iff these fields have its numbers as
  offsets, in order.
* `Strategy.resolved_exactly`: the numbers of a location, and the fields that have none.
* `Strategy.offset_of_two_pow_64`: the exception.
-/

namespace Arboretum

/-! ## Exact values -/

theorem twoPow_pos (k : Nat) : 0 < twoPow k := Nat.two_pow_pos k

theorem cast_twoPow (k : Nat) : (twoPow k : ℚ) = 2 ^ k := by
  have h : twoPow k = 2 ^ k := rfl
  rw [h, Nat.cast_pow, Nat.cast_ofNat]

namespace Binary64

/-- The exact value of a double. -/
def value (x : Binary64) : ℚ :=
  (if x.negative then -1 else 1) * (x.significand * (2 : ℚ) ^ x.exponent)

/-- The fraction of a double is its absolute value. -/
theorem magnitude_eq (x : Binary64) :
    0 < x.magnitude.2 ∧
      (x.significand : ℚ) * (2 : ℚ) ^ x.exponent = x.magnitude.1 / x.magnitude.2 := by
  obtain ⟨negative, significand, exponent⟩ := x
  unfold magnitude
  by_cases h : 0 ≤ exponent
  · obtain ⟨k, rfl⟩ := Int.eq_ofNat_of_zero_le h
    simp [cast_twoPow]
  · obtain ⟨k, hk⟩ := Int.eq_ofNat_of_zero_le (by omega : 0 ≤ -exponent)
    have hexponent : exponent = -(k : Int) := by omega
    subst hexponent
    rw [if_neg h]
    refine ⟨twoPow_pos _, ?_⟩
    simp [cast_twoPow, div_eq_mul_inv]

theorem natAbs?_eq_some_iff {x : Binary64} {n : Nat} :
    x.natAbs? = some n ↔ (x.significand : ℚ) * (2 : ℚ) ^ x.exponent = n := by
  obtain ⟨hpos, heq⟩ := x.magnitude_eq
  rw [heq, div_eq_iff (by positivity)]
  unfold natAbs?
  simp only
  generalize x.magnitude.1 = num, x.magnitude.2 = den at hpos ⊢
  rw [← Nat.cast_mul, Nat.cast_inj]
  constructor
  · intro h
    obtain ⟨hmod, hdiv⟩ := Option.ite_none_right_eq_some.mp h
    cases hdiv
    rw [Nat.div_mul_cancel (Nat.dvd_of_mod_eq_zero hmod)]
  · rintro rfl
    rw [if_pos (Nat.mul_mod_left n den), Nat.mul_div_cancel n hpos]

/-- **A double is read as a natural number iff that is its value.** -/
theorem toNat?_eq_some_iff {x : Binary64} {n : Nat} : x.toNat? = some n ↔ x.value = n := by
  unfold toNat? value
  cases hsign : x.negative with
  | false =>
    rw [if_neg (by simp), if_neg (by simp), one_mul]
    exact natAbs?_eq_some_iff
  | true =>
    rw [if_pos rfl]
    by_cases hzero : x.significand = 0
    · -- the negative zero has the value zero
      rw [if_neg (by simp [isZero, hzero]), natAbs?_eq_some_iff, hzero, Nat.cast_zero, zero_mul,
        mul_zero]
    · have hpos : (0 : ℚ) < x.significand * (2 : ℚ) ^ x.exponent := by
        have hsignificand : (0 : ℚ) < x.significand :=
          Nat.cast_pos.mpr (Nat.pos_of_ne_zero hzero)
        exact mul_pos hsignificand (zpow_pos two_pos _)
      have hn : (0 : ℚ) ≤ n := Nat.cast_nonneg n
      rw [if_pos (by simp [isZero, hzero])]
      constructor
      · intro h
        cases h
      · intro h
        linarith

end Binary64

namespace JsonNumber

/-- The exact value of a number. -/
def value : JsonNumber → ℚ
  | .int n => n
  | .float x => x.value

/-- The numbers there are: whole ones of 64 bits, with or without a sign, and finite doubles. -/
def Representable : JsonNumber → Prop
  | .int n => -(twoPow 63 : Int) ≤ n ∧ n < (twoPow 64 : Int)
  | .float x => x.significand < twoPow 53 ∧ Binary64.minExponent ≤ x.exponent ∧
    x.exponent ≤ Binary64.maxExponent

end JsonNumber

namespace Json

theorem path?_singleton (value : Json) (key : String) : value.path? [key] = value.get? key := by
  rw [path?]
  cases value.get? key <;> rfl

theorem path?_append (value : Json) (front back : List String) :
    value.path? (front ++ back) = (value.path? front).bind (path? · back) := by
  induction front generalizing value with
  | nil => rfl
  | cons key rest ih =>
    rw [List.cons_append, path?, path?]
    cases value.get? key with
    | none => rfl
    | some found => exact ih found

theorem foldlM_get? (value : Json) (keys : List String) :
    keys.foldlM get? value = value.path? keys := by
  induction keys generalizing value with
  | nil => rfl
  | cons key rest ih =>
    rw [List.foldlM_cons, path?]
    cases value.get? key with
    | none => rfl
    | some found => exact ih found

end Json

theorem StructuredPath.segments_ne_nil (path : StructuredPath) : path.segments ≠ [] := by
  rw [segments, Text.parts, ne_eq, List.map_eq_nil_iff]
  exact Text.splitOn_ne_nil '.' path.container.toList

/-- The first key and those behind it are all the keys of a path, each followed once. -/
theorem StructuredPath.lookup_firstKey (path : StructuredPath) (fields : Fields) :
    (fields.get? path.firstKey).bind path.lookup = (Json.obj fields).path? path.segments := by
  obtain ⟨first, rest, hsegments⟩ := List.exists_cons_of_ne_nil path.segments_ne_nil
  have hfirst : path.firstKey = first := by
    rw [firstKey, hsegments, List.head?_cons, Option.getD_some]
  have hlookup : path.lookup = (Json.path? · rest) := by
    funext root
    rw [lookup, hsegments, List.drop_one, List.tail_cons, Json.foldlM_get?]
  rw [hfirst, hlookup, hsegments]
  rfl

/-- The beginning is not behind the end. -/
def Location.Ordered : Location → Prop
  | .offsets start stop => start ≤ stop
  | .lineColumn startLine startColumn endLine endColumn =>
    startLine < endLine ∨ startLine = endLine ∧ startColumn ≤ endColumn

/-! ## Offsets of numbers -/

namespace Strategy

/-- **An offset is the value of the number it is read off**, or the largest offset, read off a
double of `2 ^ 64`. -/
theorem asOffset_eq_some {field : Json} {n : Nat} (h : asOffset field = some n) :
    ∃ (number : JsonNumber) (k : Nat), field = .num number ∧ number.value = k ∧
      (n = k ∨ k = twoPow 64 ∧ n = maxOffset) ∧ (number.Representable → k ≤ twoPow 64) := by
  unfold asOffset at h
  split at h
  · rename_i i
    obtain ⟨hi, heq⟩ := Option.ite_none_right_eq_some.mp h
    cases heq
    have hcast : ((i.toNat : Int) : ℚ) = i := by rw [Int.toNat_of_nonneg hi]
    refine ⟨.int i, i.toNat, rfl, ?_, .inl rfl, ?_⟩
    · rw [JsonNumber.value, ← hcast, Int.cast_natCast]
    · rintro ⟨-, hlt⟩
      omega
  · rename_i x
    obtain ⟨k, hk, h⟩ := Option.bind_eq_some_iff.mp h
    obtain ⟨hle, heq⟩ := Option.ite_none_right_eq_some.mp h
    cases heq
    refine ⟨.float x, k, rfl, Binary64.toNat?_eq_some_iff.mp hk, ?_, fun _ => hle⟩
    unfold maxOffset
    omega
  · cases h

/-- A number whose value is an offset is read as this offset. -/
theorem asOffset_of_value {number : JsonNumber} {n : Nat} (hvalue : number.value = n)
    (hlt : n < twoPow 64) : asOffset (.num number) = some n := by
  cases number with
  | int i =>
    have hcast : (i : ℚ) = n := hvalue
    have hi : i = n := by exact_mod_cast hcast
    subst hi
    rfl
  | float x =>
    have hread : x.toNat? = some n := Binary64.toNat?_eq_some_iff.mpr hvalue
    have hmin : min n maxOffset = n := by
      unfold maxOffset
      omega
    simp only [asOffset, hread]
    rw [Option.bind_eq_bind, Option.bind_some, if_pos (Nat.le_of_lt hlt), hmin]

/-! ## Declared fields -/

/-- Each of some fields that were accepted has an offset. -/
theorem exists_accepted {fields : List (Option Json)} {numbers : List Nat}
    (h : List.Forall₂ (fun field n => field.bind asOffset = some n) fields numbers) {value : Json}
    (hvalue : some value ∈ fields) : ∃ n, asOffset value = some n := by
  induction h with
  | nil => cases hvalue
  | cons hn _ ih =>
    rcases List.mem_cons.mp hvalue with rfl | hrest
    · exact ⟨_, hn⟩
    · exact ih hrest

/-- What a node has at the fields that a strategy declares, in the order of a location's
numbers. -/
def declared (node : Json) : Strategy → List (Option Json)
  | .offsets (.pair start stop) => [node.path? [start], node.path? [stop]]
  | .offsets (.tuple field) =>
    match node.path? [field] with
    | some (.arr [start, stop]) => [some start, some stop]
    | _ => [none, none]
  | .structured path =>
    let fields := match path.point with
      | .offset field => [[path.start, field], [path.stop, field]]
      | .lineColumn => [[path.start, "line"], [path.start, "column"],
          [path.stop, "line"], [path.stop, "column"]]
    fields.map fun keys => node.path? (path.segments ++ keys)

/-- Two fields make up a range when their offsets are in order. -/
theorem ordered_bind_iff {a b : Option Json} {location : Location} :
    ((a.bind asOffset).bind fun start => (b.bind asOffset).bind fun stop => ordered start stop) =
        some location ↔
      List.Forall₂ (fun field n => field.bind asOffset = some n) [a, b] location.numbers ∧
        location.Ordered := by
  constructor
  · intro h
    obtain ⟨start, hstart, h⟩ := Option.bind_eq_some_iff.mp h
    obtain ⟨stop, hstop, h⟩ := Option.bind_eq_some_iff.mp h
    obtain ⟨hle, heq⟩ := Option.ite_none_right_eq_some.mp h
    cases heq
    exact ⟨.cons hstart (.cons hstop .nil), hle⟩
  · rintro ⟨hall, hle⟩
    cases location with
    | offsets start stop =>
      obtain _ | ⟨hstart, hall⟩ := hall
      obtain _ | ⟨hstop, hall⟩ := hall
      rw [hstart, Option.bind_some, hstop]
      exact if_pos hle
    | lineColumn startLine startColumn endLine endColumn =>
      have hlength := hall.length_eq
      simp [Location.numbers] at hlength

theorem orderedPoints_eq_some_iff {startLine startColumn endLine endColumn : Nat}
    {location : Location} :
    orderedPoints (startLine, startColumn) (endLine, endColumn) = some location ↔
      location = .lineColumn startLine startColumn endLine endColumn ∧ location.Ordered := by
  have horder : ((decide (endLine < startLine) ||
      (endLine == startLine && decide (endColumn < startColumn))) = true) ↔
        ¬ (Location.lineColumn startLine startColumn endLine endColumn).Ordered := by
    simp only [Bool.or_eq_true, Bool.and_eq_true, decide_eq_true_eq, beq_iff_eq, Location.Ordered]
    omega
  unfold orderedPoints
  rw [Option.ite_none_left_eq_some, horder, not_not]
  constructor
  · rintro ⟨hle, heq⟩
    cases heq
    exact ⟨rfl, hle⟩
  · rintro ⟨rfl, hle⟩
    exact ⟨hle, rfl⟩

/-- Two pairs of fields make up a range when the points they give are in order. -/
theorem orderedPoints_bind_iff {a b c d : Option Json} {location : Location} :
    ((a.bind asOffset).bind fun startLine => (b.bind asOffset).bind fun startColumn =>
      (c.bind asOffset).bind fun endLine => (d.bind asOffset).bind fun endColumn =>
        orderedPoints (startLine, startColumn) (endLine, endColumn)) = some location ↔
      List.Forall₂ (fun field n => field.bind asOffset = some n) [a, b, c, d] location.numbers ∧
        location.Ordered := by
  constructor
  · intro h
    obtain ⟨startLine, ha, h⟩ := Option.bind_eq_some_iff.mp h
    obtain ⟨startColumn, hb, h⟩ := Option.bind_eq_some_iff.mp h
    obtain ⟨endLine, hc, h⟩ := Option.bind_eq_some_iff.mp h
    obtain ⟨endColumn, hd, h⟩ := Option.bind_eq_some_iff.mp h
    obtain ⟨rfl, hle⟩ := orderedPoints_eq_some_iff.mp h
    exact ⟨.cons ha (.cons hb (.cons hc (.cons hd .nil))), hle⟩
  · rintro ⟨hall, hle⟩
    cases location with
    | offsets start stop =>
      have hlength := hall.length_eq
      simp [Location.numbers] at hlength
    | lineColumn startLine startColumn endLine endColumn =>
      obtain _ | ⟨ha, hall⟩ := hall
      obtain _ | ⟨hb, hall⟩ := hall
      obtain _ | ⟨hc, hall⟩ := hall
      obtain _ | ⟨hd, hall⟩ := hall
      rw [ha, Option.bind_some, hb, Option.bind_some, hc, Option.bind_some, hd]
      exact orderedPoints_eq_some_iff.mpr ⟨rfl, hle⟩

theorem resolve_pair (start stop : String) (node : Json) :
    (Strategy.offsets (.pair start stop)).resolve node =
      ((node.path? [start]).bind asOffset).bind fun s =>
        ((node.path? [stop]).bind asOffset).bind fun e => ordered s e := by
  rw [Json.path?_singleton, Json.path?_singleton]
  cases node with
  | obj fields => simp [resolve, Json.get?, Option.bind_assoc]
  | null | bool | num | str | arr => rfl

/-- A nested location is read off the two points in its container. -/
theorem resolve_structured (path : StructuredPath) (node : Json) :
    (Strategy.structured path).resolve node =
      (node.path? path.segments).bind fun container =>
        (container.get? path.start).bind fun start =>
          (container.get? path.stop).bind fun stop => resolvePoints path.point start stop := by
  cases node with
  | obj fields =>
    rw [← path.lookup_firstKey, Option.bind_assoc]
    rfl
  | null | bool | num | str | arr =>
    obtain ⟨first, rest, hsegments⟩ := List.exists_cons_of_ne_nil path.segments_ne_nil
    rw [hsegments]
    rfl

theorem path?_point (node : Json) (segments : List String) (point key : String) :
    node.path? (segments ++ [point, key]) =
      (node.path? segments).bind fun container =>
        (container.get? point).bind fun value => value.get? key := by
  rw [Json.path?_append]
  simp only [Json.path?, Option.bind_fun_some]

/-- A nested location is read off its declared fields one by one. -/
theorem resolve_structured_eq (path : StructuredPath) (node : Json) :
    (Strategy.structured path).resolve node =
      let read := fun point key => (node.path? (path.segments ++ [point, key])).bind asOffset
      match path.point with
      | .offset field =>
        (read path.start field).bind fun s => (read path.stop field).bind fun e => ordered s e
      | .lineColumn =>
        (read path.start "line").bind fun startLine =>
        (read path.start "column").bind fun startColumn =>
        (read path.stop "line").bind fun endLine =>
        (read path.stop "column").bind fun endColumn =>
          orderedPoints (startLine, startColumn) (endLine, endColumn) := by
  rw [resolve_structured]
  simp only [path?_point]
  -- a missing point ends both readings, wherever it stands among the fields
  cases node.path? path.segments with
  | none => cases path.point <;> rfl
  | some container =>
    cases hstart : container.get? path.start with
    | none => cases path.point <;> simp [hstart]
    | some start =>
      cases hstop : container.get? path.stop with
      | none => cases path.point <;> simp [hstart, hstop]
      | some stop =>
        cases path.point <;> simp [hstart, hstop, resolvePoints, lineColumn, Option.bind_assoc]

theorem resolve_tuple_eq (field : String) (node : Json) :
    (Strategy.offsets (.tuple field)).resolve node =
      match node.path? [field] with
      | some (.arr [start, stop]) =>
        ((some start).bind asOffset).bind fun s => ((some stop).bind asOffset).bind fun e =>
          ordered s e
      | _ => none := by
  rw [Json.path?_singleton]
  cases node with
  | obj fields =>
    simp only [resolve, Json.get?]
    cases Fields.get? fields field with
    | none => rfl
    | some value =>
      rw [Option.bind_eq_bind, Option.bind_some]
      split
      · rfl
      · rename_i hshape
        split
        · rename_i start stop heq
          exact absurd (Option.some.inj heq) (hshape start stop)
        · rfl
  | null | bool | num | str | arr => rfl

/-- **A node has a location iff the declared fields have its numbers as offsets, in order.** -/
theorem resolve_eq_some_iff {strategy : Strategy} {node : Json} {location : Location} :
    strategy.resolve node = some location ↔
      List.Forall₂ (fun field n => field.bind asOffset = some n) (strategy.declared node)
        location.numbers ∧ location.Ordered := by
  unfold declared
  split
  · rename_i start stop
    rw [resolve_pair]
    exact ordered_bind_iff
  · rename_i field
    rw [resolve_tuple_eq]
    split
    · exact ordered_bind_iff
    · exact ordered_bind_iff (a := none) (b := none)
  · rename_i path
    rw [resolve_structured_eq]
    cases path.point with
    | offset field => exact ordered_bind_iff
    | lineColumn => exact orderedPoints_bind_iff

/-- **Resolved positions are exact but for one double.** Each number of a resolved location is the
exact value of the number at its declared field, or the largest offset where that value is
`2 ^ 64`. A node with a declared number that is negative, not whole or above `2 ^ 64` has no
location. Numbers below `2 ^ 64` that are in order make up the location that holds them. -/
theorem resolved_exactly (strategy : Strategy) (node : Json) :
    (∀ location, strategy.resolve node = some location →
      List.Forall₂ (fun field (n : Nat) => ∃ number : JsonNumber, field = some (.num number) ∧
        (number.value = n ∨ number.value = twoPow 64 ∧ n = maxOffset))
        (strategy.declared node) location.numbers) ∧
    (∀ number : JsonNumber, some (.num number) ∈ strategy.declared node → number.Representable →
      (number.value < 0 ∨ (¬ ∃ i : ℤ, number.value = i) ∨ (twoPow 64 : ℚ) < number.value) →
        strategy.resolve node = none) ∧
    (∀ location : Location, location.Ordered →
      List.Forall₂ (fun field (n : Nat) => n < twoPow 64 ∧
        ∃ number : JsonNumber, field = some (.num number) ∧ number.value = n)
        (strategy.declared node) location.numbers → strategy.resolve node = some location) := by
  refine ⟨?_, ?_, ?_⟩
  · intro location h
    refine (resolve_eq_some_iff.mp h).1.imp ?_
    intro field n hn
    obtain ⟨value, rfl, hvalue⟩ := Option.bind_eq_some_iff.mp hn
    obtain ⟨number, k, rfl, hk, hcases, -⟩ := asOffset_eq_some hvalue
    refine ⟨number, rfl, ?_⟩
    rcases hcases with rfl | ⟨rfl, rfl⟩
    · exact .inl hk
    · exact .inr ⟨hk, rfl⟩
  · intro number hmem hrange hbad
    cases hresolve : strategy.resolve node with
    | none => rfl
    | some location =>
      obtain ⟨n, hn⟩ := exists_accepted (resolve_eq_some_iff.mp hresolve).1 hmem
      obtain ⟨_, k, heq, hk, -, hle⟩ := asOffset_eq_some hn
      cases heq
      have hbound : (k : ℚ) ≤ twoPow 64 := Nat.cast_le.mpr (hle hrange)
      rw [hk] at hbad
      rcases hbad with hneg | hfraction | hlarge
      · exact absurd hneg (not_lt.mpr (Nat.cast_nonneg k))
      · exact absurd ⟨(k : ℤ), (Int.cast_natCast k).symm⟩ hfraction
      · exact absurd hlarge (not_lt.mpr hbound)
  · intro location hordered hnumbers
    refine resolve_eq_some_iff.mpr ⟨hnumbers.imp ?_, hordered⟩
    rintro field n ⟨hlt, number, rfl, hvalue⟩
    exact asOffset_of_value hvalue hlt

/-! ### Doubles as offsets -/

/-- The double `2.5`. -/
def twoAndHalf : JsonNumber := .float ⟨false, 5629499534213120, -51⟩

/-- The double `4.0`. -/
def four : JsonNumber := .float ⟨false, 4503599627370496, -50⟩

theorem resolved_exactly_doubles :
    startEnd.resolve (.obj [("end", .num four), ("start", .ofNat 2)]) = some (.offsets 2 4) ∧
    List.Forall₂ (fun (field : Option Json) (n : Nat) =>
      ∃ number : JsonNumber, field = some (.num number) ∧
        (number.value = n ∨ number.value = twoPow 64 ∧ n = maxOffset))
      [some (.ofNat 2), some (.num four)] [2, 4] ∧
    startEnd.resolve (.obj [("end", .num four), ("start", .num twoAndHalf)]) = none := by
  have hstart : (JsonNumber.int 2).value = (2 : Nat) := by norm_num [JsonNumber.value]
  have hend : four.value = (4 : Nat) := by norm_num [four, JsonNumber.value, Binary64.value]
  have hresolve : startEnd.resolve (.obj [("end", .num four), ("start", .ofNat 2)]) =
      some (.offsets 2 4) :=
    (resolved_exactly startEnd _).2.2 (.offsets 2 4) (by decide : 2 ≤ 4)
      (.cons ⟨by decide, _, rfl, hstart⟩ (.cons ⟨by decide, _, rfl, hend⟩ .nil))
  refine ⟨hresolve, (resolved_exactly startEnd _).1 _ hresolve, ?_⟩
  refine (resolved_exactly startEnd _).2.1 twoAndHalf ?_ ?_ (.inr (.inl ?_))
  · exact List.mem_cons_self
  · exact ⟨by decide, by decide, by decide⟩
  · rintro ⟨i, hi⟩
    have hvalue : twoAndHalf.value = 5 / 2 := by
      norm_num [twoAndHalf, JsonNumber.value, Binary64.value]
    rw [hvalue, div_eq_iff (by norm_num)] at hi
    have htwice : (5 : ℤ) = i * 2 := by exact_mod_cast hi
    omega

/-- **The double `2 ^ 64` is no offset, and is read as the largest one.** -/
theorem offset_of_two_pow_64 :
    let number := JsonNumber.float ⟨false, 4503599627370496, 12⟩
    number.Representable ∧ number.value = 18446744073709551616 ∧
      startEnd.resolve (.obj [("end", .num number), ("start", .ofNat 0)]) =
        some (.offsets 0 18446744073709551615) := by
  refine ⟨⟨by decide, by decide, by decide⟩, ?_, by decide⟩
  norm_num [JsonNumber.value, Binary64.value]

end Strategy

end Arboretum
