import Arboretum.Proofs.Slices

/-!
# Points and offsets are in bijection

The offset of a line/column point is found line by line, the index of a source counts characters
byte by byte. Both write down a position of the source, so the points in reading order are numbered
by their offsets, without a gap.

* `Text.pointAt`: the point of an offset. `charOffset?_eq_some_iff_pointAt` says that it undoes
  `charOffset?`.
* `Text.charOffset?_lt_iff`: points are strictly ordered as their offsets are.
* `Text.charOffset?_column`: the point that the index gives for a byte has the offset that the index
  gives for it.
* `Text.points_numbered_by_offsets`: all of it, for every source.
-/

namespace Arboretum

namespace Text

/-- The point of an offset: where the characters before it end. -/
def pointAt (source : List Char) (offset : Nat) : Nat × Nat :=
  ((source.take offset).count '\n' + 1, (lastLine (source.take offset)).length)

/-- **The offset of a point and the point of an offset undo each other.** -/
theorem charOffset?_eq_some_iff_pointAt {source : List Char} {line column offset : Nat} :
    charOffset? source line column = some offset ↔
      offset ≤ source.length ∧ pointAt source offset = (line, column) := by
  rw [charOffset?_eq_some_iff, pointAt, Prod.mk.injEq]
  constructor
  · rintro ⟨pre, post, rfl, rfl, hends⟩
    rw [List.take_left]
    exact ⟨by simp, hends⟩
  · rintro ⟨hle, hends⟩
    exact ⟨source.take offset, source.drop offset, (List.take_append_drop offset source).symm,
      List.length_take_of_le hle, hends⟩

/-- **Points are strictly in order when their offsets are.** -/
theorem charOffset?_lt_iff {source : List Char} {line column line' column' a b : Nat}
    (ha : charOffset? source line column = some a)
    (hb : charOffset? source line' column' = some b) :
    a < b ↔ line < line' ∨ line = line' ∧ column < column' := by
  obtain ⟨pre, post, hpre, rfl, hends⟩ := charOffset?_eq_some_iff.mp ha
  obtain ⟨pre', post', hpre', rfl, hends'⟩ := charOffset?_eq_some_iff.mp hb
  -- both orders are total: one is strict where the other fails the other way round
  have hle := endsAt_le_iff ⟨post', hpre'.symm⟩ ⟨post, hpre.symm⟩ hends' hends
  omega

theorem existsUnique_point {source : List Char} {offset : Nat} (h : offset ≤ source.length) :
    ∃! point : Nat × Nat, charOffset? source point.1 point.2 = some offset := by
  refine ⟨pointAt source offset, charOffset?_eq_some_iff_pointAt.mpr ⟨h, rfl⟩, ?_⟩
  intro point hpoint
  exact (charOffset?_eq_some_iff_pointAt.mp hpoint).2.symm

/-- **The two ways to an offset agree**: by the line and column of a byte, and by the byte. -/
theorem charOffset?_column {source pre : List Char} (h : pre <+: source) :
    charOffset? source ((endPoint pre).row + 1)
        ((CharIndex.ofSource source).column (byteLength pre) (endPoint pre)) =
      some ((CharIndex.ofSource source).offset (byteLength pre)) := by
  obtain ⟨post, rfl⟩ := h
  rw [column_endPoint, CharIndex.offset_ofSource, charsBefore_append]
  exact charOffset?_append pre post

/-- **Points are numbered by their offsets.** In every source

* exactly the points on a line, up to its width, have an offset;
* of two points the earlier one in reading order has the smaller offset;
* offsets are at most the number of characters, and each number up to it is the offset of exactly
  one point;
* at the byte behind a prefix the line feeds before it and the characters since the last one, as the
  index counts them, make the point whose offset the index gives for the byte;
* on machine words the offset of a point is the same, whatever its line and column. -/
theorem points_numbered_by_offsets (source : List Char) :
    (∀ line column, (charOffset? source line column).isSome ↔ HasPoint source line column) ∧
    (∀ line column line' column' a b, charOffset? source line column = some a →
      charOffset? source line' column' = some b →
        (a < b ↔ line < line' ∨ line = line' ∧ column < column')) ∧
    (∀ line column a, charOffset? source line column = some a → a ≤ source.length) ∧
    (∀ a, a ≤ source.length →
      ∃! point : Nat × Nat, charOffset? source point.1 point.2 = some a) ∧
    (∀ pre, pre <+: source →
      let index := CharIndex.ofSource source
      let byte := byteLength pre
      let point : Point := ⟨pre.count '\n', byteLength (lastLine pre)⟩
      index.column byte point = (lastLine pre).length ∧
        charOffset? source (point.row + 1) (index.column byte point) = some (index.offset byte)) ∧
    (byteLength source < twoPow 63 → ∀ line column : UInt64,
      (wordOffset? line column (lines source) 0 0).map UInt64.toNat =
        charOffset? source line.toNat column.toNat) := by
  refine ⟨fun line column => isSome_charOffset?, ?_, ?_, ?_, ?_, ?_⟩
  · intro line column line' column' a b ha hb
    exact charOffset?_lt_iff ha hb
  · intro line column a ha
    exact (charOffset?_eq_some_iff_pointAt.mp ha).1
  · exact fun a ha => existsUnique_point ha
  · intro pre hpre index byte point
    refine ⟨?_, charOffset?_column hpre⟩
    obtain ⟨post, rfl⟩ := hpre
    exact column_endPoint pre post
  · exact fun h line column => wordOffset?_lines h line column

/-- The source ends with an empty line, so its end is the point behind the last line feed. -/
theorem points_numbered_by_offsets_last_line :
    let source := ['é', '\n', 'x', '\n']
    let index := CharIndex.ofSource source
    (charOffset? source 2 1 = some 3 ∧ charOffset? source 3 0 = some 4 ∧
      (3 < 4 ↔ 2 < 3 ∨ 2 = 3 ∧ 1 < 0)) ∧
    (∃! point : Nat × Nat, charOffset? source point.1 point.2 = some 4) ∧
    charOffset? source 3 (index.column 5 ⟨2, 0⟩) = some (index.offset 5) ∧
    (wordOffset? 1 18446744073709551615 (lines source) 0 0).map UInt64.toNat =
      charOffset? source 1 18446744073709551615 := by
  intro source index
  obtain ⟨-, horder, -, hunique, hbyte, hwords⟩ := points_numbered_by_offsets source
  have hlast : charOffset? source 2 1 = some 3 := by decide
  have hend : charOffset? source 3 0 = some 4 := by decide
  refine ⟨⟨hlast, hend, horder 2 1 3 0 3 4 hlast hend⟩, hunique 4 (by decide), ?_, ?_⟩
  · exact (hbyte source List.prefix_rfl).2
  · exact hwords (by decide) 1 18446744073709551615

end Text

end Arboretum
