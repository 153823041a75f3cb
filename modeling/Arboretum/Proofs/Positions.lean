import Arboretum.Location.Basic
import Mathlib.Data.List.DropRight
import Mathlib.Data.List.GetD

/-!
# Bytes, characters, lines

A position in a source is a prefix of it. Its byte, its character offset and its point are three
ways to write the prefix down, and every conversion between them is computed by another function
of the library. The lemmas here say what each function gives at the end of a prefix:

* `charsBefore_append`, `byteOf?_append`: from bytes to characters and back;
* `bytesBetween?_append`, `charsBetween?_append`: the text between two positions;
* `offset_ofSource`: the index of a source counts the characters before a byte, by its table as
  well as without one;
* `column_endPoint`, `charOffset?_append`: the column of a point, and the offset of a line and
  column.
-/

namespace Arboretum

namespace Text

/-! ## Bytes -/

@[simp] theorem byteLength_append (pre post : List Char) :
    byteLength (pre ++ post) = byteLength pre + byteLength post := by
  induction pre with
  | nil => simp [byteLength]
  | cons c pre ih =>
    simp only [List.cons_append, byteLength, ih]
    omega

theorem utf8Size_eq_one_iff {c : Char} : c.utf8Size = 1 ↔ c.toNat < 128 := by
  rw [Char.utf8Size_eq_one_iff, UInt32.le_iff_toNat_le]
  exact Nat.lt_succ_iff.symm

theorem charsBefore_zero (cs : List Char) : charsBefore cs 0 = 0 := by
  cases cs with
  | nil => rfl
  | cons c cs =>
    have hc := c.utf8Size_pos
    rw [charsBefore, if_neg (by omega)]

theorem charsBefore_append_add (pre post : List Char) (n : Nat) :
    charsBefore (pre ++ post) (byteLength pre + n) = pre.length + charsBefore post n := by
  induction pre with
  | nil => simp [byteLength]
  | cons c pre ih =>
    have hle : c.utf8Size ≤ c.utf8Size + byteLength pre + n := by omega
    have hsub : c.utf8Size + byteLength pre + n - c.utf8Size = byteLength pre + n := by omega
    rw [List.cons_append, byteLength, charsBefore, if_pos hle, hsub, ih, List.length_cons]
    omega

/-- As many characters lie before the end of a prefix as it has. -/
theorem charsBefore_append (pre post : List Char) :
    charsBefore (pre ++ post) (byteLength pre) = pre.length := by
  have h := charsBefore_append_add pre post 0
  rwa [charsBefore_zero, Nat.add_zero, Nat.add_zero] at h

theorem dropBytes?_cons (c : Char) (cs : List Char) (n : Nat) :
    dropBytes? (c :: cs) (c.utf8Size + n) = dropBytes? cs n := by
  obtain ⟨k, hk⟩ := Nat.exists_eq_succ_of_ne_zero (Nat.ne_of_gt c.utf8Size_pos)
  have hn : c.utf8Size + n = (k + n) + 1 := by omega
  rw [hn, dropBytes?, if_pos (by omega)]
  congr 1
  omega

theorem takeBytes?_cons (c : Char) (cs : List Char) (n : Nat) :
    takeBytes? (c :: cs) (c.utf8Size + n) = (takeBytes? cs n).map (c :: ·) := by
  obtain ⟨k, hk⟩ := Nat.exists_eq_succ_of_ne_zero (Nat.ne_of_gt c.utf8Size_pos)
  have hn : c.utf8Size + n = (k + n) + 1 := by omega
  have hsub : k + n + 1 - c.utf8Size = n := by omega
  rw [hn, takeBytes?, if_pos (by omega), hsub]

theorem dropBytes?_append (pre post : List Char) :
    dropBytes? (pre ++ post) (byteLength pre) = some post := by
  induction pre with
  | nil =>
    rw [byteLength, dropBytes?]
    rfl
  | cons c pre ih => rw [List.cons_append, byteLength, dropBytes?_cons, ih]

theorem takeBytes?_append (mid post : List Char) :
    takeBytes? (mid ++ post) (byteLength mid) = some mid := by
  induction mid with
  | nil => rw [byteLength, takeBytes?]
  | cons c mid ih =>
    rw [List.cons_append, byteLength, takeBytes?_cons, ih]
    rfl

/-- The text between the bytes of two positions. -/
theorem bytesBetween?_append (pre mid post : List Char) :
    bytesBetween? (pre ++ mid ++ post) (byteLength pre) (byteLength (pre ++ mid)) = some mid := by
  have hsub : byteLength pre + byteLength mid - byteLength pre = byteLength mid := by omega
  rw [bytesBetween?, byteLength_append, if_neg (by omega), hsub, List.append_assoc,
    dropBytes?_append, Option.bind_some, takeBytes?_append]

theorem byteStarts_append (byte : Nat) (pre post : List Char) :
    (byteStarts byte (pre ++ post))[pre.length]? = some (byte + byteLength pre) := by
  induction pre generalizing byte with
  | nil => cases post <;> rfl
  | cons c pre ih =>
    rw [List.cons_append, byteStarts, List.length_cons, List.getElem?_cons_succ, ih, byteLength,
      Nat.add_assoc]

/-- The byte behind a prefix. -/
theorem byteOf?_append (pre post : List Char) :
    byteOf? (pre ++ post) pre.length = some (byteLength pre) := by
  rw [byteOf?, byteStarts_append, Nat.zero_add]

end Text

/-- The text between the character offsets of two positions. -/
theorem Location.charsBetween?_append (pre mid post : List Char) :
    Location.charsBetween? (pre ++ mid ++ post) pre.length (pre ++ mid).length = some mid := by
  have hpre : Text.byteOf? (pre ++ mid ++ post) pre.length = some (Text.byteLength pre) := by
    rw [List.append_assoc, Text.byteOf?_append]
  rw [charsBetween?, if_neg (by simp), hpre, Text.byteOf?_append]
  exact Text.bytesBetween?_append pre mid post

/-! ## The index -/

namespace CharIndex

open Text

theorem charsBefore_of_ascii {cs : List Char} (h : ∀ c ∈ cs, c.utf8Size = 1) (byte : Nat) :
    charsBefore cs byte = min byte cs.length := by
  induction cs generalizing byte with
  | nil => simp [charsBefore]
  | cons c cs ih =>
    have hc : c.utf8Size = 1 := h c List.mem_cons_self
    rw [charsBefore, hc, List.length_cons]
    by_cases hb : 1 ≤ byte
    · rw [if_pos hb, ih fun d hd => h d (List.mem_cons_of_mem c hd)]
      omega
    · rw [if_neg hb]
      omega

theorem length_owners (i : Nat) (cs : List Char) :
    (owners i cs).length = byteLength cs + 1 := by
  induction cs generalizing i with
  | nil => rfl
  | cons c cs ih =>
    rw [owners, List.length_append, List.length_replicate, ih, byteLength]
    omega

/-- The table answers for every byte, those behind the end going to the last entry. -/
theorem owners_getD (i : Nat) (cs : List Char) (byte : Nat) :
    (owners i cs).getD (min byte (byteLength cs)) 0 = i + charsBefore cs byte := by
  induction cs generalizing i byte with
  | nil => simp [owners, byteLength, charsBefore]
  | cons c cs ih =>
    rw [owners, byteLength, charsBefore]
    by_cases hb : c.utf8Size ≤ byte
    · -- behind the first character: the rest of the table
      rw [if_pos hb, List.getD_append_right _ _ _ _ (by rw [List.length_replicate]; omega),
        List.length_replicate]
      have hmin : min byte (c.utf8Size + byteLength cs) - c.utf8Size =
          min (byte - c.utf8Size) (byteLength cs) := by omega
      rw [hmin, ih]
      omega
    · -- within the first character: its own entries
      rw [if_neg hb, List.getD_append _ _ _ _ (by rw [List.length_replicate]; omega),
        List.getD_replicate _ (by omega)]
      rfl

/-- The index of a source by its table, also when every character is one byte. -/
def tabled (source : List Char) : CharIndex := ⟨byteLength source, (owners 0 source).toArray⟩

/-- The table counts the characters before a byte. -/
theorem offset_tabled (source : List Char) (byte : Nat) :
    (tabled source).offset byte = charsBefore source byte := by
  unfold tabled offset
  have hsize : (owners 0 source).toArray.size = byteLength source + 1 := by
    rw [List.size_toArray, length_owners]
  have hne : (owners 0 source).toArray.isEmpty = false := by
    rw [Array.isEmpty_eq_false_iff, ← Array.size_pos_iff, hsize]
    exact Nat.succ_pos _
  have hget := owners_getD 0 source byte
  rw [Nat.zero_add] at hget
  simp only [hne, hsize, Nat.add_sub_cancel, Bool.false_eq_true, if_false]
  rw [← hget]
  simp [Array.getD_eq_getD_getElem?, List.getD_eq_getElem?_getD]

/-- **The index of a source counts the characters before a byte.** -/
theorem offset_ofSource (source : List Char) (byte : Nat) :
    (ofSource source).offset byte = charsBefore source byte := by
  unfold ofSource
  split
  · rename_i hascii
    have h1 : ∀ c ∈ source, c.utf8Size = 1 := fun c hc =>
      utf8Size_eq_one_iff.mpr (by simpa using List.all_eq_true.mp hascii c hc)
    rw [charsBefore_of_ascii h1]
    rfl
  · exact offset_tabled source byte

end CharIndex

/-! ## Lines -/

namespace Text

/-- The characters behind the last line feed of a text. -/
def lastLine (pre : List Char) : List Char := pre.rtakeWhile (· ≠ '\n')

/-- The point at the end of a text: as many rows as it has line feeds, and the bytes behind the
last one. -/
def endPoint (pre : List Char) : Point := ⟨pre.count '\n', byteLength (lastLine pre)⟩

theorem lastLine_append_of_not_mem (pre : List Char) {mid : List Char} (h : '\n' ∉ mid) :
    lastLine (pre ++ mid) = lastLine pre ++ mid := by
  induction mid using List.reverseRecOn with
  | nil => simp
  | append_singleton mid c ih =>
    have hc : c ≠ '\n' := fun hc => h (by simp [hc])
    have hmid : '\n' ∉ mid := fun hm => h (List.mem_append_left _ hm)
    unfold lastLine at ih ⊢
    rw [← List.append_assoc, List.rtakeWhile_concat_pos _ _ _ (by simpa using hc), ih hmid,
      List.append_assoc]

theorem lastLine_of_not_mem {pre : List Char} (h : '\n' ∉ pre) : lastLine pre = pre := by
  have := lastLine_append_of_not_mem [] h
  simpa [lastLine] using this

theorem lastLine_cons_of_mem (c : Char) {pre : List Char} (h : '\n' ∈ pre) :
    lastLine (c :: pre) = lastLine pre := by
  induction pre using List.reverseRecOn with
  | nil => exact absurd h List.not_mem_nil
  | append_singleton pre d ih =>
    unfold lastLine at ih ⊢
    rw [← List.cons_append]
    by_cases hd : d = '\n'
    · rw [List.rtakeWhile_concat_neg _ _ _ (by simp [hd]),
        List.rtakeWhile_concat_neg _ _ _ (by simp [hd])]
    · have hpre : '\n' ∈ pre := by
        rcases List.mem_append.mp h with hp | hp
        · exact hp
        · exact absurd (List.mem_singleton.mp hp).symm hd
      rw [List.rtakeWhile_concat_pos _ _ _ (by simpa using hd),
        List.rtakeWhile_concat_pos _ _ _ (by simpa using hd), ih hpre]

theorem lastLine_newline_cons (pre : List Char) : lastLine ('\n' :: pre) = lastLine pre := by
  by_cases h : '\n' ∈ pre
  · exact lastLine_cons_of_mem '\n' h
  · rw [lastLine_of_not_mem h]
    exact lastLine_append_of_not_mem ['\n'] h

/-- A text is what lies before its last line, and that line. -/
theorem exists_append_lastLine (pre : List Char) : ∃ head, pre = head ++ lastLine pre :=
  ⟨_, List.rdropWhile_append_rtakeWhile.symm⟩

theorem splitOn_newline_cons (cs : List Char) :
    splitOn '\n' ('\n' :: cs) = [] :: splitOn '\n' cs := rfl

theorem splitOn_cons_of_ne {c : Char} (hc : c ≠ '\n') {cs first : List Char}
    {rest : List (List Char)} (h : splitOn '\n' cs = first :: rest) :
    splitOn '\n' (c :: cs) = (c :: first) :: rest := by
  unfold splitOn at h ⊢
  rw [List.foldr_cons, h, if_neg hc]

/-- Every text has a first line. -/
theorem exists_splitOn_eq_cons (cs : List Char) :
    ∃ first rest, splitOn '\n' cs = first :: rest := by
  induction cs with
  | nil => exact ⟨[], [], rfl⟩
  | cons c cs ih =>
    obtain ⟨first, rest, h⟩ := ih
    by_cases hc : c = '\n'
    · subst hc
      exact ⟨[], _, splitOn_newline_cons cs⟩
    · exact ⟨c :: first, rest, splitOn_cons_of_ne hc h⟩

/-- The offset of a point among the given lines, by recursion on its line. -/
def offsetInLines : List (List Char) → (line column : Nat) → Option Nat
  | [], _, _ => none
  | _ :: _, 0, _ => none
  | first :: _, 1, column => if column ≤ first.length then some column else none
  | first :: rest, line + 2, column =>
    (offsetInLines rest (line + 1) column).map (first.length + 1 + ·)

theorem offsetInLines_zero (lines : List (List Char)) (column : Nat) :
    offsetInLines lines 0 column = none := by
  cases lines <;> rfl

/-- The search from some line on finds what is found among the lines that are left. -/
theorem offsetFrom?_eq (line column : Nat) (lines : List (List Char)) (index offset : Nat) :
    offsetFrom? id line column lines index offset =
      (offsetInLines lines (line - index) column).map (offset + ·) := by
  induction lines generalizing index offset with
  | nil => rfl
  | cons text rest ih =>
    have hrest := ih (index + 1) (offset + (text.length + 1))
    rw [Nat.sub_add_eq] at hrest
    simp only [offsetFrom?, pointSum?, id_eq] at hrest ⊢
    by_cases hhere : index + 1 = line
    · have hline : line - index = 1 := by omega
      rw [if_pos hhere, hline, offsetInLines, Option.bind_some, PointSum.offset?]
      by_cases hcolumn : column ≤ text.length
      · simp [hcolumn]
      · simp [hcolumn]
    · rw [if_neg hhere, hrest]
      rcases hk : line - index with _ | _ | k
      · rw [offsetInLines_zero, offsetInLines_zero]
        rfl
      · omega
      · rw [offsetInLines, Option.map_map]
        congr 1
        funext n
        simp only [Function.comp_apply]
        omega

theorem charOffset?_eq (source : List Char) (line column : Nat) :
    charOffset? source line column = offsetInLines (lines source) line column := by
  refine (offsetFrom?_eq line column (lines source) 0 0).trans ?_
  simp

theorem offsetInLines_append (pre post : List Char) :
    offsetInLines (splitOn '\n' (pre ++ post)) (pre.count '\n' + 1) (lastLine pre).length =
      some pre.length := by
  induction pre with
  | nil =>
    obtain ⟨first, rest, h⟩ := exists_splitOn_eq_cons post
    rw [List.nil_append, h]
    rfl
  | cons c pre ih =>
    by_cases hc : c = '\n'
    · subst hc
      rw [List.cons_append, splitOn_newline_cons, List.count_cons_self, lastLine_newline_cons,
        offsetInLines, ih, Option.map_some, List.length_nil, List.length_cons]
      congr 1
      omega
    · obtain ⟨first, rest, h⟩ := exists_splitOn_eq_cons (pre ++ post)
      rw [h] at ih
      rw [List.cons_append, splitOn_cons_of_ne hc h, List.count_cons_of_ne hc]
      by_cases hmem : '\n' ∈ pre
      · -- the point is on a later line, which the new character moves by one
        obtain ⟨n, hn⟩ := Nat.exists_eq_succ_of_ne_zero
          (Nat.ne_of_gt (List.count_pos_iff.mpr hmem))
        rw [hn, offsetInLines] at ih
        obtain ⟨x, hx, hlen⟩ := Option.map_eq_some_iff.mp ih
        rw [lastLine_cons_of_mem c hmem, hn, offsetInLines, hx, Option.map_some, List.length_cons,
          List.length_cons, ← hlen]
        congr 1
        omega
      · -- the point is on the first line
        have hnot : '\n' ∉ c :: pre := by
          simp only [List.mem_cons, not_or]
          exact ⟨Ne.symm hc, hmem⟩
        rw [List.count_eq_zero_of_not_mem hmem, lastLine_of_not_mem hmem, offsetInLines] at ih
        rw [List.count_eq_zero_of_not_mem hmem, lastLine_of_not_mem hnot, offsetInLines]
        split at ih
        · rename_i hle
          rw [if_pos (by simpa using hle)]
        · exact absurd ih (by simp)

/-- **The line and column at the end of a prefix give back its length.** -/
theorem charOffset?_append (pre post : List Char) :
    charOffset? (pre ++ post) (pre.count '\n' + 1) (lastLine pre).length = some pre.length :=
  (charOffset?_eq _ _ _).trans (offsetInLines_append pre post)

/-- Positions further on have a later point: a later row, or the same row and no smaller
column. -/
theorem endPoint_le (pre mid : List Char) :
    pre.count '\n' < (pre ++ mid).count '\n' ∨
      pre.count '\n' = (pre ++ mid).count '\n' ∧
        (lastLine pre).length ≤ (lastLine (pre ++ mid)).length := by
  rw [List.count_append]
  by_cases h : '\n' ∈ mid
  · have := List.count_pos_iff.mpr h
    left
    omega
  · right
    rw [List.count_eq_zero_of_not_mem h, lastLine_append_of_not_mem pre h, List.length_append]
    omega

/-- The column that the index gives for the point at the end of a prefix. -/
theorem column_endPoint (pre post : List Char) :
    (CharIndex.ofSource (pre ++ post)).column (byteLength pre) (endPoint pre) =
      (lastLine pre).length := by
  obtain ⟨head, hhead⟩ := exists_append_lastLine pre
  have hbytes : byteLength pre - byteLength (lastLine pre) = byteLength head := by
    have := congrArg byteLength hhead
    rw [byteLength_append] at this
    omega
  have hlen : pre.length = head.length + (lastLine pre).length := by
    have := congrArg List.length hhead
    rwa [List.length_append] at this
  have hstart : charsBefore (pre ++ post) (byteLength head) = head.length := by
    rw [hhead, List.append_assoc, charsBefore_append]
  unfold CharIndex.column endPoint
  rw [CharIndex.offset_ofSource, CharIndex.offset_ofSource, charsBefore_append, hbytes, hstart,
    hlen, Nat.add_sub_cancel_left]

end Text

end Arboretum
