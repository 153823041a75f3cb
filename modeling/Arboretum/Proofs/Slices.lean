import Arboretum.Proofs.Positions

/-!
# Slices cover the located characters

A location is sliced by turning its ends into character offsets and these into bytes. The lemmas on
positions say what each step gives at the end of a prefix; here are the converses, so that a slice
exists exactly when both ends do and are in order.

* `Location.charsBetween?_eq_some_iff`: offsets cut a source in three.
* `Text.charOffset?_eq_some_iff`: the offset of a point is the length of the one prefix that ends
  there; `isSome_charOffset?` says which points exist.
* `Text.endsAt_le_iff`: points are ordered as their offsets are.
* `Text.pointSum?_words`: the search for a point on machine words makes the sums of the search on
  natural numbers, wrapped around. `Text.SumOverflows`, `Location.Overflows`: the sum made for a
  point does not fit. It is not an offset then (`SumOverflows.charOffset?_eq_none`), so the two
  searches find the same (`offsetIn?_words`, `Location.spanIn?_words`).
* `Location.slice_covers`: all of it, for every location.
-/

namespace Arboretum

namespace Text

/-! ## Offsets -/

theorem length_byteStarts (byte : Nat) (cs : List Char) :
    (byteStarts byte cs).length = cs.length + 1 := by
  induction cs generalizing byte with
  | nil => rfl
  | cons c cs ih => rw [byteStarts, List.length_cons, ih, List.length_cons]

theorem length_le_byteLength (cs : List Char) : cs.length ≤ byteLength cs := by
  induction cs with
  | nil => exact Nat.le_refl 0
  | cons c cs ih =>
    have hc := c.utf8Size_pos
    rw [List.length_cons, byteLength]
    omega

/-- **The byte of an offset lies between two characters**, or at an end of the text. -/
theorem byteOf?_eq_some_iff {cs : List Char} {offset byte : Nat} :
    byteOf? cs offset = some byte ↔
      ∃ pre post, cs = pre ++ post ∧ pre.length = offset ∧ byteLength pre = byte := by
  constructor
  · intro h
    have hlt : offset < (byteStarts 0 cs).length := (List.getElem?_eq_some_iff.mp h).1
    rw [length_byteStarts] at hlt
    have hlength : (cs.take offset).length = offset := List.length_take_of_le (by omega)
    refine ⟨cs.take offset, cs.drop offset, (List.take_append_drop offset cs).symm, hlength, ?_⟩
    have hbyte := byteOf?_append (cs.take offset) (cs.drop offset)
    rw [List.take_append_drop, hlength, h] at hbyte
    exact (Option.some.inj hbyte).symm
  · rintro ⟨pre, post, rfl, rfl, rfl⟩
    exact byteOf?_append pre post

end Text

open Text

namespace Location

/-- **Offsets cut a source in three.** -/
theorem charsBetween?_eq_some_iff {source text : List Char} {start stop : Nat} :
    charsBetween? source start stop = some text ↔
      ∃ pre post, source = pre ++ text ++ post ∧ pre.length = start ∧
        (pre ++ text).length = stop := by
  constructor
  · intro h
    unfold charsBetween? at h
    split at h
    · cases h
    · rename_i hle
      obtain ⟨first, hfirst, h⟩ := Option.bind_eq_some_iff.mp h
      obtain ⟨last, hlast, h⟩ := Option.bind_eq_some_iff.mp h
      obtain ⟨pre, post, rfl, rfl, rfl⟩ := byteOf?_eq_some_iff.mp hlast
      obtain ⟨front, back, hsplit, rfl, rfl⟩ := byteOf?_eq_some_iff.mp hfirst
      -- the nearer of the two prefixes is a prefix of the other
      have hfront : front <+: pre :=
        List.prefix_of_prefix_length_le ⟨back, hsplit.symm⟩ ⟨post, rfl⟩ (by omega)
      obtain ⟨mid, rfl⟩ := hfront
      rw [bytesBetween?_append] at h
      cases h
      exact ⟨front, post, rfl, rfl, rfl⟩
  · rintro ⟨pre, post, rfl, rfl, rfl⟩
    exact charsBetween?_append pre text post

theorem charsBetween?_eq_some_iff_take {source text : List Char} {start stop : Nat} :
    charsBetween? source start stop = some text ↔
      start ≤ stop ∧ stop ≤ source.length ∧ text = (source.take stop).drop start := by
  rw [charsBetween?_eq_some_iff]
  constructor
  · rintro ⟨pre, post, rfl, rfl, rfl⟩
    refine ⟨by simp, by simp, ?_⟩
    rw [List.take_left, List.drop_left]
  · rintro ⟨hle, hstop, rfl⟩
    refine ⟨source.take start, source.drop stop, ?_, ?_, ?_⟩
    · have hcut : source.take start ++ (source.take stop).drop start = source.take stop := by
        have := List.take_append_drop start (source.take stop)
        rwa [List.take_take, Nat.min_eq_left hle] at this
      rw [hcut, List.take_append_drop]
    · exact List.length_take_of_le (by omega)
    · rw [List.length_append, List.length_take, List.length_drop, List.length_take]
      omega

/-- Two slices that meet make up one. -/
theorem charsBetween?_trans {source x y : List Char} {a b c : Nat}
    (hx : charsBetween? source a b = some x) (hy : charsBetween? source b c = some y) :
    charsBetween? source a c = some (x ++ y) := by
  obtain ⟨pre, post, rfl, rfl, rfl⟩ := charsBetween?_eq_some_iff.mp hx
  obtain ⟨pre', post', hsplit, hlength, rfl⟩ := charsBetween?_eq_some_iff.mp hy
  rw [List.append_assoc pre'] at hsplit
  obtain ⟨rfl, rfl⟩ := List.append_inj hsplit hlength.symm
  rw [← List.append_assoc, List.append_assoc pre]
  exact charsBetween?_append pre (x ++ y) post'

end Location

/-! ## Points -/

namespace Text

/-- A text ends at a point: lines from one, columns from zero, in characters. -/
def EndsAt (pre : List Char) (line column : Nat) : Prop :=
  pre.count '\n' + 1 = line ∧ (lastLine pre).length = column

/-- A source has a point: the line is one of those between line feeds, and the column at most its
width. -/
def HasPoint (source : List Char) (line column : Nat) : Prop :=
  1 ≤ line ∧ line ≤ source.count '\n' + 1 ∧
    ∃ text, (source.splitOn '\n')[line - 1]? = some text ∧ column ≤ text.length

theorem splitOn_eq_splitOn (sep : Char) (cs : List Char) :
    splitOn sep cs = cs.splitOn sep := by
  induction cs with
  | nil => rfl
  | cons c cs ih =>
    obtain ⟨first, rest, h⟩ := List.exists_cons_of_ne_nil (splitOn_ne_nil sep cs)
    rw [splitOn_cons, List.splitOn, List.splitOnP_cons_eq_if_modifyHead]
    rw [h, List.splitOn] at ih
    rw [h, ← ih]
    by_cases hc : c = sep
    · rw [if_pos hc, if_pos (beq_iff_eq.mpr hc)]
    · rw [if_neg hc, if_neg (by simpa using hc), List.modifyHead_cons]

theorem lines_eq_splitOn (source : List Char) : lines source = source.splitOn '\n' :=
  splitOn_eq_splitOn '\n' source

theorem length_lines (source : List Char) : (lines source).length = source.count '\n' + 1 := by
  unfold lines
  induction source with
  | nil => rfl
  | cons c cs ih =>
    by_cases hc : c = '\n'
    · subst hc
      rw [splitOn_newline_cons, List.length_cons, ih, List.count_cons_self]
    · obtain ⟨first, rest, h⟩ := exists_splitOn_eq_cons cs
      rw [h] at ih
      rw [splitOn_cons_of_ne hc h, List.count_cons_of_ne hc, ← ih]
      rfl

theorem isSome_offsetInLines (lines : List (List Char)) (line column : Nat) :
    (offsetInLines lines line column).isSome ↔
      1 ≤ line ∧ ∃ text, lines[line - 1]? = some text ∧ column ≤ text.length := by
  fun_induction offsetInLines lines line column with
  | case1 => simp
  | case2 => simp
  | case3 => simp_all
  | case4 => simp_all
  | case5 first rest line column ih => simp [ih]

/-- **The points of a source are those with an offset.** -/
theorem isSome_charOffset? {source : List Char} {line column : Nat} :
    (charOffset? source line column).isSome ↔ HasPoint source line column := by
  rw [charOffset?_eq, isSome_offsetInLines, HasPoint, ← length_lines, ← lines_eq_splitOn]
  constructor
  · rintro ⟨hline, text, htext, hcolumn⟩
    have hlt := (List.getElem?_eq_some_iff.mp htext).1
    exact ⟨hline, by omega, text, htext, hcolumn⟩
  · rintro ⟨hline, -, text, htext, hcolumn⟩
    exact ⟨hline, text, htext, hcolumn⟩

theorem EndsAt.newline_cons {pre : List Char} {line column : Nat} (h : EndsAt pre line column) :
    EndsAt ('\n' :: pre) (line + 1) column := by
  obtain ⟨rfl, rfl⟩ := h
  exact ⟨by rw [List.count_cons_self], by rw [lastLine_newline_cons]⟩

/-- A character in front of the first line moves the points of that line by one. -/
theorem EndsAt.cons_first {c : Char} (hc : c ≠ '\n') {pre : List Char} {column : Nat}
    (h : EndsAt pre 1 column) : EndsAt (c :: pre) 1 (column + 1) := by
  obtain ⟨hcount, rfl⟩ := h
  have hpre : '\n' ∉ pre := List.count_eq_zero.mp (Nat.succ.inj hcount)
  have hcons : '\n' ∉ c :: pre := by
    rw [List.mem_cons, not_or]
    exact ⟨Ne.symm hc, hpre⟩
  refine ⟨by rw [List.count_cons_of_ne hc, hcount], ?_⟩
  rw [lastLine_of_not_mem hcons, lastLine_of_not_mem hpre, List.length_cons]

/-- A character in front that is no line break leaves the points of every later line. -/
theorem EndsAt.cons_later {c : Char} (hc : c ≠ '\n') {pre : List Char} {line column : Nat}
    (h : EndsAt pre (line + 2) column) : EndsAt (c :: pre) (line + 2) column := by
  obtain ⟨hcount, rfl⟩ := h
  have hpre : '\n' ∈ pre := List.count_pos_iff.mp (by omega)
  exact ⟨by rw [List.count_cons_of_ne hc, hcount], by rw [lastLine_cons_of_mem c hpre]⟩

/-- An empty line has the one column zero. -/
theorem offsetInLines_empty_line {rest : List (List Char)} {column offset : Nat}
    (h : offsetInLines ([] :: rest) 1 column = some offset) : column = 0 ∧ offset = 0 := by
  obtain ⟨hcolumn, heq⟩ := Option.ite_none_right_eq_some.mp h
  cases heq
  exact ⟨Nat.le_zero.mp hcolumn, Nat.le_zero.mp hcolumn⟩

/-- An offset that is found is that of a prefix which ends at the point. -/
theorem exists_endsAt_of_offsetInLines {cs : List Char} : ∀ {line column offset : Nat},
    offsetInLines (splitOn '\n' cs) line column = some offset →
      ∃ pre post, cs = pre ++ post ∧ pre.length = offset ∧ EndsAt pre line column := by
  induction cs with
  | nil =>
    intro line column offset h
    rcases line with _ | _ | line
    · cases h
    · obtain ⟨rfl, rfl⟩ := offsetInLines_empty_line h
      exact ⟨[], [], rfl, rfl, rfl, rfl⟩
    · cases h
  | cons c cs ih =>
    intro line column offset h
    by_cases hc : c = '\n'
    · subst hc
      rw [splitOn_newline_cons] at h
      rcases line with _ | _ | line
      · cases h
      · obtain ⟨rfl, rfl⟩ := offsetInLines_empty_line h
        exact ⟨[], _, rfl, rfl, rfl, rfl⟩
      · obtain ⟨n, hn, rfl⟩ := Option.map_eq_some_iff.mp h
        obtain ⟨pre, post, rfl, rfl, hends⟩ := ih hn
        exact ⟨'\n' :: pre, post, rfl, by simp [Nat.add_comm], hends.newline_cons⟩
    · obtain ⟨first, rest, hsplit⟩ := exists_splitOn_eq_cons cs
      rw [splitOn_cons_of_ne hc hsplit] at h
      rw [hsplit] at ih
      rcases line with _ | _ | line
      · cases h
      · obtain ⟨hcolumn, heq⟩ := Option.ite_none_right_eq_some.mp h
        cases heq
        rcases column with _ | column
        · exact ⟨[], _, rfl, rfl, rfl, rfl⟩
        · have hfirst : offsetInLines (first :: rest) 1 column = some column :=
            if_pos (Nat.le_of_succ_le_succ hcolumn)
          obtain ⟨pre, post, rfl, hlength, hends⟩ := ih hfirst
          exact ⟨c :: pre, post, rfl, congrArg Nat.succ hlength, hends.cons_first hc⟩
      · obtain ⟨n, hn, rfl⟩ := Option.map_eq_some_iff.mp h
        have hlater : offsetInLines (first :: rest) (line + 2) column =
            some (first.length + 1 + n) := by
          rw [offsetInLines, hn, Option.map_some]
        obtain ⟨pre, post, rfl, hlength, hends⟩ := ih hlater
        refine ⟨c :: pre, post, rfl, ?_, hends.cons_later hc⟩
        rw [List.length_cons, List.length_cons, hlength]
        omega

/-- **The offset of a point is the length of the prefix that ends there.** -/
theorem charOffset?_eq_some_iff {source : List Char} {line column offset : Nat} :
    charOffset? source line column = some offset ↔
      ∃ pre post, source = pre ++ post ∧ pre.length = offset ∧ EndsAt pre line column := by
  constructor
  · intro h
    rw [charOffset?_eq] at h
    exact exists_endsAt_of_offsetInLines h
  · rintro ⟨pre, post, rfl, rfl, rfl, rfl⟩
    exact charOffset?_append pre post

theorem EndsAt.charOffset? {pre : List Char} {line column : Nat} (h : EndsAt pre line column)
    (post : List Char) : charOffset? (pre ++ post) line column = some pre.length :=
  charOffset?_eq_some_iff.mpr ⟨pre, post, rfl, rfl, h⟩

/-- A text that goes further ends at a later point. -/
theorem endPoint_lt (pre : List Char) {mid : List Char} (h : mid ≠ []) :
    pre.count '\n' < (pre ++ mid).count '\n' ∨
      pre.count '\n' = (pre ++ mid).count '\n' ∧
        (lastLine pre).length < (lastLine (pre ++ mid)).length := by
  rw [List.count_append]
  by_cases hmem : '\n' ∈ mid
  · have := List.count_pos_iff.mpr hmem
    left
    omega
  · have := List.length_pos_iff.mpr h
    right
    rw [List.count_eq_zero_of_not_mem hmem, lastLine_append_of_not_mem pre hmem, List.length_append]
    omega

/-- **Points are in order when their offsets are.** -/
theorem endsAt_le_iff {source a b : List Char} (ha : a <+: source) (hb : b <+: source)
    {lineA columnA lineB columnB : Nat} (hA : EndsAt a lineA columnA)
    (hB : EndsAt b lineB columnB) :
    a.length ≤ b.length ↔ lineA < lineB ∨ lineA = lineB ∧ columnA ≤ columnB := by
  obtain ⟨rfl, rfl⟩ := hA
  obtain ⟨rfl, rfl⟩ := hB
  constructor
  · intro hle
    obtain ⟨mid, rfl⟩ := List.prefix_of_prefix_length_le ha hb hle
    have := endPoint_le a mid
    omega
  · intro hpoint
    by_contra hlt
    obtain ⟨mid, rfl⟩ := List.prefix_of_prefix_length_le hb ha (by omega)
    have hmid : mid ≠ [] := by
      rintro rfl
      simp at hlt
    have := endPoint_lt b hmid
    omega

/-! ## Machine words -/

/-- How far the given lines reach, each with the line feed behind it. -/
def spread : List (List Char) → Nat
  | [] => 0
  | text :: rest => text.length + 1 + spread rest

theorem spread_splitOn (cs : List Char) : spread (splitOn '\n' cs) = cs.length + 1 := by
  induction cs with
  | nil => rfl
  | cons c cs ih =>
    by_cases hc : c = '\n'
    · subst hc
      rw [splitOn_newline_cons, spread, ih, List.length_nil, List.length_cons]
      omega
    · obtain ⟨first, rest, h⟩ := exists_splitOn_eq_cons cs
      rw [h, spread] at ih
      rw [splitOn_cons_of_ne hc h, spread, List.length_cons, List.length_cons]
      omega

theorem length_le_spread (lines : List (List Char)) : lines.length ≤ spread lines := by
  induction lines with
  | nil => exact Nat.le_refl 0
  | cons text rest ih =>
    rw [List.length_cons, spread]
    omega

/-- **On machine words the sum is wrapped around and the answer on the column is the same**, as long
as the lines fit into words. -/
theorem pointSum?_words (line column : UInt64) (lines : List (List Char)) (index offset : UInt64)
    (hoffset : offset.toNat + spread lines < 18446744073709551616)
    (hindex : index.toNat + lines.length < 18446744073709551616) :
    pointSum? UInt64.ofNat line column lines index offset =
      (pointSum? id line.toNat column.toNat lines index.toNat offset.toNat).map fun found =>
        ⟨.ofNat found.sum, found.onLine⟩ := by
  induction lines generalizing index offset with
  | nil => rfl
  | cons text rest ih =>
    rw [spread] at hoffset
    rw [List.length_cons] at hindex
    have hone : (UInt64.ofNat 1).toNat = 1 := rfl
    have hnext : (index + UInt64.ofNat 1).toNat = index.toNat + 1 := by
      rw [UInt64.toNat_add, hone]
      omega
    have hwidth : (UInt64.ofNat text.length).toNat = text.length := by
      rw [UInt64.toNat_ofNat']
      omega
    have hstep : (offset + (UInt64.ofNat text.length + UInt64.ofNat 1)).toNat =
        offset.toNat + (text.length + 1) := by
      rw [UInt64.toNat_add, UInt64.toNat_add, hwidth, hone]
      omega
    have hline : index + UInt64.ofNat 1 = line ↔ index.toNat + 1 = line.toNat := by
      rw [← UInt64.toNat_inj, hnext]
    have hfits : column ≤ UInt64.ofNat text.length ↔ column.toNat ≤ text.length := by
      rw [UInt64.le_iff_toNat_le, hwidth]
    have hsum : UInt64.ofNat (offset.toNat + column.toNat) = offset + column := by
      rw [UInt64.ofNat_add, UInt64.ofNat_toNat, UInt64.ofNat_toNat]
    simp only [pointSum?, hline, hfits, id_eq]
    by_cases hhere : index.toNat + 1 = line.toNat
    · rw [if_pos hhere, if_pos hhere, Option.map_some, hsum]
    · rw [if_neg hhere, if_neg hhere, ih _ _ (by omega) (by omega), hstep, hnext]

/-- What is found on a line lies within the lines. -/
theorem sum_lt_of_onLine {line column : Nat} {lines : List (List Char)} {index offset : Nat}
    {found : PointSum Nat} (h : pointSum? id line column lines index offset = some found)
    (honline : found.onLine = true) : found.sum < offset + spread lines := by
  induction lines generalizing index offset with
  | nil => cases h
  | cons text rest ih =>
    rw [spread]
    simp only [pointSum?, id_eq] at h
    split at h
    · cases h
      have hcolumn : column ≤ text.length := of_decide_eq_true honline
      dsimp only
      omega
    · have hrest := ih h
      omega

theorem charOffset?_eq_bind (source : List Char) (line column : Nat) :
    charOffset? source line column =
      (pointSum? id line column (lines source) 0 0).bind PointSum.offset? := rfl

/-- A source never fills the machine words. -/
theorem spread_lines_lt {source : List Char} (h : byteLength source < twoPow 63) :
    spread (lines source) < 18446744073709551616 := by
  have hpow : twoPow 63 = 9223372036854775808 := by decide
  have hlength := length_le_byteLength source
  have hspread : spread (lines source) = source.length + 1 := spread_splitOn source
  omega

/-- The offset of a point computed on words is its offset, whatever its line and column. -/
theorem wordOffset?_lines {source : List Char} (h : byteLength source < twoPow 63)
    (line column : UInt64) :
    (wordOffset? line column (lines source) 0 0).map UInt64.toNat =
      charOffset? source line.toNat column.toNat := by
  have hspread := spread_lines_lt h
  have hlines := length_le_spread (lines source)
  have hwords := pointSum?_words line column (lines source) 0 0
    (by rw [UInt64.toNat_zero]; omega) (by rw [UInt64.toNat_zero]; omega)
  rw [UInt64.toNat_zero] at hwords
  rw [wordOffset?, offsetFrom?, hwords, charOffset?_eq_bind]
  cases hfound : pointSum? id line.toNat column.toNat (lines source) 0 0 with
  | none => rfl
  | some found =>
    rw [Option.map_some, Option.bind_some, Option.bind_some, PointSum.offset?, PointSum.offset?]
    cases honline : found.onLine with
    | false => rfl
    | true =>
      have hlt := sum_lt_of_onLine hfound honline
      rw [if_pos rfl, if_pos rfl, Option.map_some, UInt64.toNat_ofNat',
        Nat.mod_eq_of_lt (by omega)]

/-- The offset of a point whose numbers fit into words is the same on words. -/
theorem offsetIn?_words {source : List Char} (h : byteLength source < twoPow 63)
    {line column : Nat} (hline : line < twoPow 64) (hcolumn : column < twoPow 64) :
    (offsetIn? UInt64.ofNat source line column).map UInt64.toNat =
      charOffset? source line column := by
  have hpow : twoPow 64 = 18446744073709551616 := by decide
  have hwords := wordOffset?_lines h (.ofNat line) (.ofNat column)
  rwa [UInt64.toNat_ofNat', UInt64.toNat_ofNat', Nat.mod_eq_of_lt (by omega),
    Nat.mod_eq_of_lt (by omega)] at hwords

/-! ## Overflows -/

/-- The sum that is made for a point does not fit into a machine word. -/
def SumOverflows (source : List Char) (line column : Nat) : Prop :=
  ∃ found, pointSum? id line column (lines source) 0 0 = some found ∧ twoPow 64 ≤ found.sum

/-- The sum is that of the beginning of the line and the column. -/
theorem sum_pointSum? (line column : Nat) (lines : List (List Char)) (index offset : Nat) :
    (pointSum? id line column lines index offset).map PointSum.sum =
      (offsetFrom? id line 0 lines index offset).map (· + column) := by
  induction lines generalizing index offset with
  | nil => rfl
  | cons text rest ih =>
    have hrest := ih (index + 1) (offset + (text.length + 1))
    simp only [offsetFrom?, pointSum?, id_eq] at hrest ⊢
    split
    · simp [PointSum.offset?]
    · exact hrest

/-- **A sum overflows where the column leads too far from the beginning of its line.** -/
theorem sumOverflows_iff {source : List Char} {line column : Nat} :
    SumOverflows source line column ↔ ∃ pre post, source = pre ++ post ∧ EndsAt pre line 0 ∧
      twoPow 64 ≤ pre.length + column := by
  have hsum : (pointSum? id line column (lines source) 0 0).map PointSum.sum =
      (charOffset? source line 0).map (· + column) := sum_pointSum? line column (lines source) 0 0
  constructor
  · rintro ⟨found, hfound, hlarge⟩
    rw [hfound, Option.map_some] at hsum
    obtain ⟨start, hstart, heq⟩ := Option.map_eq_some_iff.mp hsum.symm
    obtain ⟨pre, post, rfl, rfl, hends⟩ := charOffset?_eq_some_iff.mp hstart
    exact ⟨pre, post, rfl, hends, heq ▸ hlarge⟩
  · rintro ⟨pre, post, rfl, hends, hlarge⟩
    rw [hends.charOffset? post, Option.map_some] at hsum
    obtain ⟨found, hfound, heq⟩ := Option.map_eq_some_iff.mp hsum
    exact ⟨found, hfound, heq ▸ hlarge⟩

/-- **A sum that overflows is no offset**: there is no such point. -/
theorem SumOverflows.charOffset?_eq_none {source : List Char}
    (h : byteLength source < twoPow 63) {line column : Nat}
    (hoverflows : SumOverflows source line column) : charOffset? source line column = none := by
  obtain ⟨found, hfound, hlarge⟩ := hoverflows
  rw [charOffset?_eq_bind, hfound, Option.bind_some, PointSum.offset?]
  cases honline : found.onLine with
  | false => rfl
  | true =>
    have hpow : twoPow 64 = 18446744073709551616 := by decide
    have hspread := spread_lines_lt h
    have hlt := sum_lt_of_onLine hfound honline
    omega

end Text

/-! ## Slices -/

namespace Location

/-- The numbers of a location. -/
def numbers : Location → List Nat
  | .offsets start stop => [start, stop]
  | .lineColumn startLine startColumn endLine endColumn =>
    [startLine, startColumn, endLine, endColumn]

theorem span?_lineColumn (source : List Char) (startLine startColumn endLine endColumn : Nat) :
    (lineColumn startLine startColumn endLine endColumn).span? source =
      (charOffset? source startLine startColumn).bind fun start =>
        (charOffset? source endLine endColumn).map fun stop => (start, stop) := by
  rw [span?, spanIn?, charOffset?, charOffset?]
  cases offsetIn? id source startLine startColumn with
  | none => rfl
  | some start => cases offsetIn? id source endLine endColumn <;> rfl

/-- **On machine words a range has the offsets it has**, also where a sum overflows. -/
theorem spanIn?_words {source : List Char} (h : byteLength source < twoPow 63)
    {location : Location} (hwords : ∀ n ∈ location.numbers, n < twoPow 64) :
    (location.spanIn? UInt64.ofNat source).map (fun span => (span.1.toNat, span.2.toNat)) =
      location.span? source := by
  cases location with
  | offsets start stop =>
    have hpow : twoPow 64 = 18446744073709551616 := by decide
    have hword : ∀ n ∈ (offsets start stop).numbers, (UInt64.ofNat n).toNat = n := by
      intro n hn
      have hlt := hwords n hn
      rw [UInt64.toNat_ofNat']
      omega
    rw [spanIn?, Option.map_some, hword start (by simp [numbers]), hword stop (by simp [numbers])]
    rfl
  | lineColumn startLine startColumn endLine endColumn =>
    have hstart := offsetIn?_words h (hwords startLine (by simp [numbers]))
      (hwords startColumn (by simp [numbers]))
    have hstop := offsetIn?_words h (hwords endLine (by simp [numbers]))
      (hwords endColumn (by simp [numbers]))
    rw [span?_lineColumn, spanIn?, ← hstart, ← hstop]
    cases offsetIn? UInt64.ofNat source startLine startColumn with
    | none => rfl
    | some start => cases offsetIn? UInt64.ofNat source endLine endColumn <;> rfl

/-- A sum that is made for a location does not fit into a machine word. The end is looked for once
the start is found. -/
inductive Overflows (source : List Char) : Location → Prop
  | start {startLine startColumn endLine endColumn : Nat}
      (sum : SumOverflows source startLine startColumn) :
    Overflows source (lineColumn startLine startColumn endLine endColumn)
  | stop {startLine startColumn endLine endColumn : Nat}
      (found : (charOffset? source startLine startColumn).isSome)
      (sum : SumOverflows source endLine endColumn) :
    Overflows source (lineColumn startLine startColumn endLine endColumn)

theorem overflows_lineColumn_iff {source : List Char}
    {startLine startColumn endLine endColumn : Nat} :
    (lineColumn startLine startColumn endLine endColumn).Overflows source ↔
      SumOverflows source startLine startColumn ∨
        HasPoint source startLine startColumn ∧ SumOverflows source endLine endColumn := by
  rw [← isSome_charOffset?]
  constructor
  · rintro (⟨hsum⟩ | ⟨hfound, hsum⟩)
    · exact .inl hsum
    · exact .inr ⟨hfound, hsum⟩
  · rintro (hsum | ⟨hfound, hsum⟩)
    · exact .start hsum
    · exact .stop hfound hsum

/-- **A location that overflows cannot be sliced.** -/
theorem Overflows.slice_eq_none {source : String} (h : byteLength source.toList < twoPow 63)
    {location : Location} (hoverflows : location.Overflows source.toList) :
    location.slice source = none := by
  have hspan : location.span? source.toList = none := by
    cases hoverflows with
    | start hsum => rw [span?_lineColumn, hsum.charOffset?_eq_none h, Option.bind_none]
    | stop hfound hsum =>
      rw [span?_lineColumn, hsum.charOffset?_eq_none h]
      exact Option.bind_eq_none_iff.mpr fun _ _ => rfl
  rw [slice, sliceChars, hspan]
  rfl

theorem slice_eq_some_iff {location : Location} {source text : String} :
    location.slice source = some text ↔ location.sliceChars source.toList = some text.toList := by
  rw [slice, Option.map_eq_some_iff]
  constructor
  · rintro ⟨chars, hchars, rfl⟩
    rw [hchars, String.toList_ofList]
  · intro h
    exact ⟨text.toList, h, String.ofList_toList⟩

/-- **Points cut a source in three.** -/
theorem sliceChars_lineColumn_iff {source text : List Char} {startLine startColumn endLine
    endColumn : Nat} :
    (lineColumn startLine startColumn endLine endColumn).sliceChars source = some text ↔
      ∃ pre post, source = pre ++ text ++ post ∧ EndsAt pre startLine startColumn ∧
        EndsAt (pre ++ text) endLine endColumn := by
  constructor
  · intro h
    obtain ⟨⟨start, stop⟩, hspan, hcut⟩ := Option.bind_eq_some_iff.mp h
    obtain ⟨first, hfirst, hspan⟩ := Option.bind_eq_some_iff.mp hspan
    obtain ⟨last, hlast, heq⟩ := Option.bind_eq_some_iff.mp hspan
    cases heq
    obtain ⟨pre, post, rfl, rfl, rfl⟩ := charsBetween?_eq_some_iff.mp hcut
    obtain ⟨a, _, ha, halength, hstart⟩ := charOffset?_eq_some_iff.mp hfirst
    obtain ⟨b, _, hb, hblength, hstop⟩ := charOffset?_eq_some_iff.mp hlast
    rw [List.append_assoc] at ha
    obtain ⟨rfl, -⟩ := List.append_inj ha halength.symm
    obtain ⟨rfl, -⟩ := List.append_inj hb hblength.symm
    exact ⟨pre, post, rfl, hstart, hstop⟩
  · rintro ⟨pre, post, rfl, hstart, hstop⟩
    have hfirst := hstart.charOffset? (text ++ post)
    rw [← List.append_assoc] at hfirst
    have hspan : (lineColumn startLine startColumn endLine endColumn).span?
        (pre ++ text ++ post) = some (pre.length, (pre ++ text).length) := by
      rw [span?_lineColumn, hfirst, hstop.charOffset? post]
      rfl
    rw [sliceChars, hspan]
    exact charsBetween?_append pre text post

/-- Points can be sliced when both exist and they are in order. -/
theorem isSome_sliceChars_lineColumn {source : List Char} {startLine startColumn endLine
    endColumn : Nat} :
    ((lineColumn startLine startColumn endLine endColumn).sliceChars source).isSome ↔
      HasPoint source startLine startColumn ∧ HasPoint source endLine endColumn ∧
        (startLine < endLine ∨ startLine = endLine ∧ startColumn ≤ endColumn) := by
  rw [Option.isSome_iff_exists, ← isSome_charOffset?, ← isSome_charOffset?,
    Option.isSome_iff_exists, Option.isSome_iff_exists]
  constructor
  · rintro ⟨text, h⟩
    obtain ⟨pre, post, rfl, hstart, hstop⟩ := sliceChars_lineColumn_iff.mp h
    refine ⟨⟨pre.length, ?_⟩, ⟨_, hstop.charOffset? post⟩, ?_⟩
    · rw [List.append_assoc]
      exact hstart.charOffset? (text ++ post)
    · exact (endsAt_le_iff ⟨text, rfl⟩ List.prefix_rfl hstart hstop).mp (by simp)
  · rintro ⟨⟨first, hfirst⟩, ⟨last, hlast⟩, horder⟩
    obtain ⟨pre, _, ha, rfl, hstart⟩ := charOffset?_eq_some_iff.mp hfirst
    obtain ⟨b, post, hb, rfl, hstop⟩ := charOffset?_eq_some_iff.mp hlast
    have hpre : pre <+: source := ⟨_, ha.symm⟩
    have hle := (endsAt_le_iff hpre ⟨post, hb.symm⟩ hstart hstop).mpr horder
    obtain ⟨text, rfl⟩ := List.prefix_of_prefix_length_le hpre ⟨post, hb.symm⟩ hle
    exact ⟨text, sliceChars_lineColumn_iff.mpr ⟨pre, post, hb, hstart, hstop⟩⟩

/-- **Slices cover exactly the located characters.** In every source

* offsets can be sliced iff they are in order and within the source, and give the characters from
  the one up to the other;
* points can be sliced iff both exist and are in order, and give the text from the one to the
  other;
* slices that meet make up one;
* the byte of an offset is within the source and never inside a character;
* offsets never overflow. Points do when the column of one that is looked for, counted from the
  beginning of its line, leads beyond machine words. Then the location cannot be sliced, and on
  words every location of words gets the offsets it has. -/
theorem slice_covers (source : String) :
    (∀ start stop text, (Location.offsets start stop).slice source = some text ↔
      start ≤ stop ∧ stop ≤ source.length ∧
        text.toList = (source.toList.take stop).drop start) ∧
    (∀ startLine startColumn endLine endColumn,
      ((lineColumn startLine startColumn endLine endColumn).slice source).isSome ↔
        HasPoint source.toList startLine startColumn ∧ HasPoint source.toList endLine endColumn ∧
          (startLine < endLine ∨ startLine = endLine ∧ startColumn ≤ endColumn)) ∧
    (∀ startLine startColumn endLine endColumn text,
      (lineColumn startLine startColumn endLine endColumn).slice source = some text ↔
        ∃ pre post, source.toList = pre ++ text.toList ++ post ∧
          EndsAt pre startLine startColumn ∧ EndsAt (pre ++ text.toList) endLine endColumn) ∧
    (∀ a b c, a ≤ b → b ≤ c → c ≤ source.length → ∃ x y,
      (Location.offsets a b).slice source = some x ∧
      (Location.offsets b c).slice source = some y ∧
      (Location.offsets a c).slice source = some (x ++ y)) ∧
    (∀ offset byte, byteOf? source.toList offset = some byte →
      byte ≤ byteLength source.toList ∧
        ∃ pre post, source.toList = pre ++ post ∧ byteLength pre = byte) ∧
    (∀ start stop, ¬ (Location.offsets start stop).Overflows source.toList) ∧
    (∀ startLine startColumn endLine endColumn,
      let exceeds := fun line column : Nat => ∃ pre post, source.toList = pre ++ post ∧
        EndsAt pre line 0 ∧ twoPow 64 ≤ pre.length + column
      (lineColumn startLine startColumn endLine endColumn).Overflows source.toList ↔
        exceeds startLine startColumn ∨
          HasPoint source.toList startLine startColumn ∧ exceeds endLine endColumn) ∧
    (byteLength source.toList < twoPow 63 → ∀ location : Location,
      (location.Overflows source.toList → location.slice source = none) ∧
      ((∀ n ∈ location.numbers, n < twoPow 64) →
        (location.spanIn? UInt64.ofNat source.toList).map
            (fun span => (span.1.toNat, span.2.toNat)) =
          location.span? source.toList)) := by
  have hoffsets : ∀ start stop text, (Location.offsets start stop).slice source = some text ↔
      start ≤ stop ∧ stop ≤ source.length ∧
        text.toList = (source.toList.take stop).drop start := by
    intro start stop text
    rw [slice_eq_some_iff, ← String.length_toList]
    exact charsBetween?_eq_some_iff_take
  refine ⟨hoffsets, ?_, ?_, ?_, ?_, ?_, ?_, ?_⟩
  · intro startLine startColumn endLine endColumn
    rw [slice, Option.isSome_map]
    exact isSome_sliceChars_lineColumn
  · intro startLine startColumn endLine endColumn text
    rw [slice_eq_some_iff]
    exact sliceChars_lineColumn_iff
  · intro a b c hab hbc hc
    have hcut : ∀ i j, i ≤ j → j ≤ source.length →
        charsBetween? source.toList i j = some ((source.toList.take j).drop i) := by
      intro i j hij hj
      rw [← String.length_toList] at hj
      exact charsBetween?_eq_some_iff_take.mpr ⟨hij, hj, rfl⟩
    have hx := hcut a b hab (by omega)
    have hy := hcut b c hbc hc
    refine ⟨_, _, congrArg (Option.map String.ofList) hx, congrArg (Option.map String.ofList) hy, ?_⟩
    rw [← String.ofList_append]
    exact congrArg (Option.map String.ofList) (charsBetween?_trans hx hy)
  · intro offset byte h
    obtain ⟨pre, post, hsplit, -, rfl⟩ := byteOf?_eq_some_iff.mp h
    refine ⟨?_, pre, post, hsplit, rfl⟩
    rw [hsplit, byteLength_append]
    omega
  · rintro start stop ⟨⟩
  · intro startLine startColumn endLine endColumn exceeds
    rw [overflows_lineColumn_iff, sumOverflows_iff, sumOverflows_iff]
  · intro h location
    exact ⟨fun hoverflows => hoverflows.slice_eq_none h, fun hwords => spanIn?_words h hwords⟩

theorem slice_covers_two_lines :
    (lineColumn 1 1 2 1).slice "é\nx" = some "\nx" ∧
    (∃ x y, (Location.offsets 0 1).slice "é\nx" = some x ∧
      (Location.offsets 1 3).slice "é\nx" = some y ∧
      (Location.offsets 0 3).slice "é\nx" = some (x ++ y)) ∧
    (∃ pre post, "é\nx".toList = pre ++ post ∧ byteLength pre = 2) ∧
    ((lineColumn 1 0 1 18446744073709551615).spanIn? UInt64.ofNat "é\nx".toList).map
      (fun span => (span.1.toNat, span.2.toNat)) =
        (lineColumn 1 0 1 18446744073709551615).span? "é\nx".toList := by
  obtain ⟨-, -, hpoints, hmeet, hbyte, -, -, hwords⟩ := slice_covers "é\nx"
  refine ⟨?_, ?_, ?_, ?_⟩
  · exact (hpoints 1 1 2 1 "\nx").mpr
      ⟨['é'], [], by decide, ⟨by decide, by decide⟩, by decide, by decide⟩
  · exact hmeet 0 1 3 (by decide) (by decide) (by decide)
  · exact (hbyte 1 2 (by decide)).2
  · exact (hwords (by decide) _).2 (by decide)

/-- **Some locations overflow**: on the second line the largest column does not fit behind the line
before it. On words the sum for this point is wrapped around to one; it is dropped, since the line
does not reach to the column. -/
theorem overflows_on_second_line :
    (lineColumn 2 0 2 18446744073709551615).Overflows "é\nx".toList ∧
    pointSum? UInt64.ofNat 2 18446744073709551615 (lines "é\nx".toList) 0 0 =
      some ⟨1, false⟩ ∧
    (lineColumn 2 0 2 18446744073709551615).slice "é\nx" = none := by
  have hsum : SumOverflows "é\nx".toList 2 18446744073709551615 :=
    ⟨⟨18446744073709551617, false⟩, by decide, by decide⟩
  have hoverflows : (lineColumn 2 0 2 18446744073709551615).Overflows "é\nx".toList :=
    .stop (by decide) hsum
  exact ⟨hoverflows, by decide, hoverflows.slice_eq_none (by decide)⟩

end Location

end Arboretum
