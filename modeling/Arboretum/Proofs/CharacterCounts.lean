import Arboretum.Proofs.Slices
import Mathlib.Data.Nat.Find
import Mathlib.Order.Bounds.Basic

/-!
# The index counts characters

An index answers for every byte number how many characters end before it. Here the answer is
compared with the UTF-8 form of the source itself: where each character begins and ends in it, and
where the lines do.

* `Text.byteAt`, `Text.charsWithin`: the bytes of a character, and the characters between two bytes.
* `Text.charsWithin_zero`, `Text.charsWithin_byteAt`: how many characters end before a byte, and how
  many of them begin behind a given one.
* `CharIndex.ofSource_of_ascii`, `CharIndex.ofSource_of_wide`, `CharIndex.direct_eq_tabled_iff`: an
  index goes without a table exactly when it can.
* `Text.LineStart`: the byte at which the line of a byte begins.
* `CharIndex.counts_characters`: all of it, for every source and byte.
-/

namespace Arboretum

namespace Text

/-! ## Characters and their bytes -/

/-- The byte at which the character with an index begins in the UTF-8 form of a source, and the one
before it ends. -/
def byteAt (source : List Char) (i : Nat) : Nat := (String.ofList (source.take i)).utf8ByteSize

/-- How many characters of a source begin at or behind byte `start` and end at or before byte
`stop`. -/
def charsWithin (source : List Char) (start stop : Nat) : Nat :=
  (List.range source.length).countP fun i =>
    start ≤ byteAt source i ∧ byteAt source (i + 1) ≤ stop

theorem utf8ByteSize_ofList (cs : List Char) : (String.ofList cs).utf8ByteSize = byteLength cs := by
  induction cs with
  | nil => rfl
  | cons c cs ih =>
    rw [String.ofList_cons, String.utf8ByteSize_append, String.utf8ByteSize_singleton, ih,
      byteLength]

theorem byteAt_eq (source : List Char) (i : Nat) : byteAt source i = byteLength (source.take i) :=
  utf8ByteSize_ofList _

theorem byteAt_zero (source : List Char) : byteAt source 0 = 0 := rfl

theorem byteAt_cons_succ (c : Char) (cs : List Char) (i : Nat) :
    byteAt (c :: cs) (i + 1) = c.utf8Size + byteAt cs i := by
  rw [byteAt_eq, byteAt_eq, List.take_succ_cons, byteLength]

theorem byteAt_succ_pos {cs : List Char} {i : Nat} (h : i < cs.length) : 0 < byteAt cs (i + 1) := by
  cases cs with
  | nil => exact absurd h (Nat.not_lt_zero i)
  | cons c cs =>
    have hc := c.utf8Size_pos
    rw [byteAt_cons_succ]
    omega

/-- As many characters end before the beginning of a character as its index says. -/
theorem charsBefore_byteAt {source : List Char} {i : Nat} (h : i ≤ source.length) :
    charsBefore source (byteAt source i) = i := by
  have hbefore := charsBefore_append (source.take i) (source.drop i)
  rwa [List.take_append_drop, List.length_take_of_le h, ← byteAt_eq] at hbefore

theorem byteOf?_eq_byteAt {source : List Char} {i : Nat} (h : i ≤ source.length) :
    byteOf? source i = some (byteAt source i) := by
  have hbyte := byteOf?_append (source.take i) (source.drop i)
  rwa [List.take_append_drop, List.length_take_of_le h, ← byteAt_eq] at hbyte

/-- The first character is counted if it lies within the range; the others are counted from their
own beginning on. -/
theorem charsWithin_cons (c : Char) (cs : List Char) (start stop : Nat) :
    charsWithin (c :: cs) start stop =
      charsWithin cs (start - c.utf8Size) (stop - c.utf8Size) +
        if start = 0 ∧ c.utf8Size ≤ stop then 1 else 0 := by
  have hfirst : byteAt (c :: cs) (0 + 1) = c.utf8Size := by
    rw [byteAt_cons_succ, byteAt_zero, Nat.add_zero]
  have hrest : ∀ i ∈ List.range cs.length,
      (start ≤ byteAt (c :: cs) (i + 1) ∧ byteAt (c :: cs) (i + 1 + 1) ≤ stop ↔
        start - c.utf8Size ≤ byteAt cs i ∧ byteAt cs (i + 1) ≤ stop - c.utf8Size) := by
    intro i hi
    -- no character ends at byte zero, so none is counted where the difference stops at zero
    have hpos := byteAt_succ_pos (List.mem_range.mp hi)
    rw [byteAt_cons_succ, byteAt_cons_succ]
    omega
  unfold charsWithin
  rw [List.length_cons, List.range_succ_eq_map, List.countP_cons, List.countP_map, hfirst,
    byteAt_zero]
  congr 1
  · refine List.countP_congr fun i hi => ?_
    simpa using hrest i hi
  · simp

/-- The characters that end at or before a byte. -/
theorem charsWithin_zero (source : List Char) (byte : Nat) :
    charsWithin source 0 byte = charsBefore source byte := by
  induction source generalizing byte with
  | nil => rfl
  | cons c cs ih =>
    rw [charsWithin_cons, Nat.zero_sub, ih, charsBefore]
    by_cases hc : c.utf8Size ≤ byte
    · rw [if_pos hc, if_pos ⟨rfl, hc⟩]
    · rw [if_neg hc, if_neg (fun h => hc h.2), Nat.sub_eq_zero_of_le (by omega), charsBefore_zero]

/-- Behind the end of a prefix only the characters of the rest are counted. -/
theorem charsWithin_append (pre post : List Char) (n : Nat) :
    charsWithin (pre ++ post) (byteLength pre) (byteLength pre + n) = charsBefore post n := by
  induction pre with
  | nil => rw [byteLength, Nat.zero_add, List.nil_append, charsWithin_zero]
  | cons c pre ih =>
    have hc := c.utf8Size_pos
    have hstop : c.utf8Size + byteLength pre + n - c.utf8Size = byteLength pre + n := by omega
    rw [List.cons_append, charsWithin_cons, byteLength, Nat.add_sub_cancel_left, hstop, ih,
      if_neg (by omega), Nat.add_zero]

/-- Between the beginning of a character and a byte behind it lie as many characters as their
offsets differ by. -/
theorem charsWithin_byteAt (source : List Char) {i byte : Nat} (h : byteAt source i ≤ byte) :
    charsWithin source (byteAt source i) byte =
      charsBefore source byte - charsBefore source (byteAt source i) := by
  rw [byteAt_eq] at h ⊢
  obtain ⟨n, rfl⟩ := Nat.exists_eq_add_of_le h
  have hwithin := charsWithin_append (source.take i) (source.drop i) n
  have hupto := charsBefore_append_add (source.take i) (source.drop i) n
  have hstart := charsBefore_append (source.take i) (source.drop i)
  rw [List.take_append_drop] at hwithin hupto hstart
  rw [hwithin, hupto, hstart, Nat.add_sub_cancel_left]

theorem charsBefore_mono (source : List Char) : Monotone (charsBefore source) := by
  intro a b hab
  rw [← charsWithin_zero, ← charsWithin_zero]
  refine List.countP_mono_left fun i _ h => ?_
  simp only [decide_eq_true_eq] at h ⊢
  exact ⟨h.1, Nat.le_trans h.2 hab⟩

theorem charsBefore_le_length (source : List Char) (byte : Nat) :
    charsBefore source byte ≤ source.length := by
  rw [← charsWithin_zero]
  exact List.countP_le_length.trans_eq List.length_range

theorem charsBefore_byteLength (source : List Char) :
    charsBefore source (byteLength source) = source.length := by
  have hend := charsBefore_append source []
  rwa [List.append_nil] at hend

/-- Bytes past the end of the source count as its end. -/
theorem charsBefore_min (source : List Char) (byte : Nat) :
    charsBefore source (min byte (byteLength source)) = charsBefore source byte := by
  rcases Nat.le_total byte (byteLength source) with h | h
  · rw [Nat.min_eq_left h]
  · rw [Nat.min_eq_right h]
    refine Nat.le_antisymm (charsBefore_mono source h) ?_
    rw [charsBefore_byteLength]
    exact charsBefore_le_length source byte

theorem byteLength_eq_length_iff {cs : List Char} :
    byteLength cs = cs.length ↔ ∀ c ∈ cs, c.toNat < 128 := by
  induction cs with
  | nil => simp [byteLength]
  | cons c cs ih =>
    have hc := c.utf8Size_pos
    have hcs := length_le_byteLength cs
    rw [List.forall_mem_cons, ← ih, ← utf8Size_eq_one_iff, byteLength, List.length_cons]
    omega

end Text

open Text

/-! ## With and without a table -/

namespace CharIndex

/-- The index without a table, which takes every byte for a character. -/
def direct (source : List Char) : CharIndex := ⟨byteLength source, #[]⟩

theorem offset_direct (source : List Char) (byte : Nat) :
    (direct source).offset byte = min byte (byteLength source) := rfl

/-- An ASCII source goes without a table. -/
theorem ofSource_of_ascii {source : List Char} (h : ∀ c ∈ source, c.toNat < 128) :
    ofSource source = direct source := by
  rw [ofSource, if_pos (by simpa using h), direct, byteLength_eq_length_iff.mpr h]

/-- Every other source has one. -/
theorem ofSource_of_wide {source : List Char} (h : ∃ c ∈ source, 128 ≤ c.toNat) :
    ofSource source = tabled source := by
  rw [ofSource, if_neg (by simpa using h), tabled]

/-- **Bytes can be taken for characters exactly in ASCII sources.** -/
theorem direct_eq_tabled_iff (source : List Char) :
    (∀ byte, (direct source).offset byte = (tabled source).offset byte) ↔
      ∀ c ∈ source, c.toNat < 128 := by
  constructor
  · intro h
    have hbytes := h (byteLength source)
    rw [offset_direct, offset_tabled, Nat.min_self, charsBefore_byteLength] at hbytes
    exact byteLength_eq_length_iff.mp hbytes
  · intro h byte
    rw [offset_direct, offset_tabled, byteLength_eq_length_iff.mpr h,
      charsBefore_of_ascii fun c hc => utf8Size_eq_one_iff.mpr (h c hc)]

end CharIndex

/-! ## The line of a byte -/

namespace Text

/-- A line begins at the start of the source and behind every line feed. -/
def LineBegins (source : List Char) (start : Nat) : Prop :=
  start = 0 ∨ ∃ i, source[i]? = some '\n' ∧ byteAt source (i + 1) = start

/-- The line of a byte begins at `start`: it is the last one that begins at or before the byte. -/
def LineStart (source : List Char) (byte start : Nat) : Prop :=
  IsGreatest {s | LineBegins source s ∧ s ≤ byte} start

theorem LineBegins.exists_byteAt {source : List Char} {start : Nat} (h : LineBegins source start) :
    ∃ i, byteAt source i = start := by
  rcases h with rfl | ⟨i, -, hi⟩
  · exact ⟨0, byteAt_zero source⟩
  · exact ⟨i + 1, hi⟩

/-- Every byte is in one line. -/
theorem existsUnique_lineStart (source : List Char) (byte : Nat) :
    ∃! start, LineStart source byte start := by
  classical
  have hzero : LineBegins source 0 := .inl rfl
  have hgreatest : LineStart source byte (Nat.findGreatest (LineBegins source) byte) := by
    refine ⟨⟨Nat.findGreatest_spec (Nat.zero_le byte) hzero, Nat.findGreatest_le byte⟩, ?_⟩
    rintro later ⟨hbegins, hle⟩
    exact Nat.le_findGreatest hle hbegins
  exact ⟨_, hgreatest, fun start hstart => IsGreatest.unique hstart hgreatest⟩

end Text

/-! ## Offsets and columns -/

namespace CharIndex

theorem offset_mono (source : List Char) : Monotone (ofSource source).offset := by
  intro a b hab
  rw [offset_ofSource, offset_ofSource]
  exact charsBefore_mono source hab

/-- The column of a point that is right about where its line begins. -/
theorem column_of_lineStart {source : List Char} {byte start : Nat}
    (h : LineStart source byte start) {point : Point} (hpoint : point.column = byte - start) :
    (ofSource source).column byte point = charsWithin source start byte := by
  obtain ⟨⟨hbegins, hle⟩, -⟩ := h
  obtain ⟨i, rfl⟩ := hbegins.exists_byteAt
  rw [column, hpoint, Nat.sub_sub_self hle, offset_ofSource, offset_ofSource,
    charsWithin_byteAt source hle]

/-- **The index of a source counts its characters.** For every byte number, also inside a character
or past the end,

* the offset is the number of characters whose UTF-8 form ends at or before it;
* the table gives it for every source, and the index goes without one exactly where bytes are
  characters;
* offsets never decrease, are at most the number of characters, and undo the bytes of characters;
* a column is the difference of two offsets in order, whatever the point;
* each byte is in one line, and a point whose column is the distance from where that line begins has
  the number of characters in between as its character column. -/
theorem counts_characters (source : List Char) :
    (∀ byte, (ofSource source).offset byte =
      charsWithin source 0 (min byte (String.ofList source).utf8ByteSize)) ∧
    ((∀ c ∈ source, c.toNat < 128) → ofSource source = direct source) ∧
    ((∃ c ∈ source, 128 ≤ c.toNat) → ofSource source = tabled source) ∧
    (∀ byte, (tabled source).offset byte = (ofSource source).offset byte) ∧
    ((∀ byte, (direct source).offset byte = (tabled source).offset byte) ↔
      ∀ c ∈ source, c.toNat < 128) ∧
    (∀ a b, a ≤ b → (ofSource source).offset a ≤ (ofSource source).offset b) ∧
    (∀ byte, (ofSource source).offset byte ≤ source.length) ∧
    (∀ i, i ≤ source.length →
      byteOf? source i = some (byteAt source i) ∧
        (ofSource source).offset (byteAt source i) = i) ∧
    (∀ byte point,
      (ofSource source).offset (byte - point.column) ≤ (ofSource source).offset byte ∧
        (ofSource source).offset (byte - point.column) + (ofSource source).column byte point =
          (ofSource source).offset byte) ∧
    (∀ byte, ∃! start, LineStart source byte start) ∧
    (∀ byte start point, LineStart source byte start → point.column = byte - start →
      (ofSource source).column byte point = charsWithin source start byte) := by
  refine ⟨?_, ofSource_of_ascii, ofSource_of_wide, ?_, direct_eq_tabled_iff source, ?_, ?_, ?_, ?_,
    ?_, ?_⟩
  · intro byte
    rw [offset_ofSource, charsWithin_zero, utf8ByteSize_ofList, charsBefore_min]
  · intro byte
    rw [offset_tabled, offset_ofSource]
  · exact fun a b hab => offset_mono source hab
  · intro byte
    rw [offset_ofSource]
    exact charsBefore_le_length source byte
  · intro i hi
    rw [offset_ofSource, charsBefore_byteAt hi]
    exact ⟨byteOf?_eq_byteAt hi, rfl⟩
  · intro byte point
    have hle := offset_mono source (Nat.sub_le byte point.column)
    exact ⟨hle, Nat.add_sub_cancel' hle⟩
  · exact existsUnique_lineStart source
  · intro byte start point hstart hpoint
    exact column_of_lineStart hstart hpoint

/-- Byte 5 is inside the second `é`, on the line that begins at byte 3; the second point is on no
line of the source. -/
theorem counts_characters_inside_character :
    let source := ['é', '\n', 'x', 'é']
    let index := ofSource source
    index = tabled source ∧ index.offset 3 ≤ index.offset 5 ∧ index.offset 5 = 3 ∧
      index.offset (byteAt source 3) = 3 ∧ index.column 5 ⟨1, 2⟩ = 1 ∧
      index.offset (5 - 9) + index.column 5 ⟨0, 9⟩ = index.offset 5 := by
  intro source index
  obtain ⟨hoffset, -, hwide, -, -, hmono, -, hbyte, hcolumn, -, hline⟩ := counts_characters source
  have hstart : LineStart source 5 3 := by
    refine ⟨⟨.inr ⟨1, rfl, by decide⟩, by decide⟩, ?_⟩
    rintro later ⟨rfl | ⟨i, hi, rfl⟩, -⟩
    · decide
    · rcases i with _ | _ | _ | _ | i
      · simp [source] at hi
      · decide
      · simp [source] at hi
      · simp [source] at hi
      · simp [source] at hi
  refine ⟨hwide ⟨'é', by decide, by decide⟩, hmono 3 5 (by decide), ?_, (hbyte 3 (by decide)).2, ?_,
    (hcolumn 5 ⟨0, 9⟩).2⟩
  · exact (hoffset 5).trans (by decide)
  · exact (hline 5 3 ⟨1, 2⟩ hstart rfl).trans (by decide)

end CharIndex

end Arboretum
