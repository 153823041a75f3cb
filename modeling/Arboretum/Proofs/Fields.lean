import Arboretum.Json.Basic
import Mathlib.Data.List.Induction
import Mathlib.Data.List.Sort

/-!
# Looking up fields

What is found under a key of an object that was built field by field: the last value put there. Such
an object has its keys in order (`Fields.Sorted.overlay`), and what is found under every key
determines it (`Fields.Sorted.ext`), so the laws of overlaying are those of looking up.
-/

namespace Arboretum

namespace Fields

theorem get?_insert (fields : Fields) (key : String) (value : Json) (k : String) :
    (fields.insert key value).get? k = if k = key then some value else fields.get? k := by
  induction fields with
  | nil => simp only [insert, get?, eq_comm]
  | cons field rest ih =>
    obtain ⟨name, old⟩ := field
    unfold insert
    by_cases hlt : key < name
    · simp only [if_pos hlt, get?, eq_comm]
    · rw [if_neg hlt]
      by_cases heq : key = name
      · subst heq
        rw [if_pos rfl]
        simp only [get?]
        by_cases hk : key = k
        · rw [if_pos hk, if_pos hk.symm]
        · rw [if_neg hk, if_neg (Ne.symm hk), if_neg hk]
      · rw [if_neg heq]
        simp only [get?]
        by_cases hn : name = k
        · subst hn
          rw [if_pos rfl, if_neg (Ne.symm heq), if_pos rfl]
        · rw [if_neg hn, if_neg hn, ih]

/-- Where fields are laid over others, theirs are found first. -/
theorem get?_overlay (defaults : Fields) (user : List (String × Json)) (k : String) :
    (overlay defaults user).get? k = ((ofList user).get? k).or (defaults.get? k) := by
  induction user using List.reverseRecOn with
  | nil => rfl
  | append_singleton user field ih =>
    unfold ofList overlay at ih ⊢
    rw [List.foldl_append, List.foldl_append]
    simp only [List.foldl_cons, List.foldl_nil, get?_insert, ih]
    split <;> rfl

@[simp] theorem get?_ofList_nil (k : String) : (ofList []).get? k = none := rfl

theorem get?_ofList_append (front back : List (String × Json)) (k : String) :
    (ofList (front ++ back)).get? k = ((ofList back).get? k).or ((ofList front).get? k) := by
  have h : ofList (front ++ back) = overlay (ofList front) back := by
    unfold ofList overlay
    rw [List.foldl_append]
  rw [h, get?_overlay]

@[simp] theorem get?_ofList_cons (key : String) (value : Json) (rest : List (String × Json))
    (k : String) :
    (ofList ((key, value) :: rest)).get? k =
      ((ofList rest).get? k).or (if k = key then some value else none) := by
  have hone : (ofList [(key, value)]).get? k = if k = key then some value else none :=
    get?_insert [] key value k
  rw [← List.singleton_append, get?_ofList_append, hone]

/-- A field that may be left out. -/
theorem get?_ofList_toList (key : String) (value : Option Json) (k : String) :
    (ofList (value.map fun v => (key, v)).toList).get? k = if k = key then value else none := by
  cases value with
  | none => simp
  | some v => simp

/-! ## Fields in key order -/

theorem eq_or_mem_of_mem_insert {fields : Fields} {key : String} {value : Json}
    {field : String × Json} (h : field ∈ fields.insert key value) :
    field = (key, value) ∨ field ∈ fields := by
  induction fields with
  | nil => exact .inl (List.mem_singleton.mp h)
  | cons first rest ih =>
    obtain ⟨name, old⟩ := first
    unfold insert at h
    split at h
    · exact List.mem_cons.mp h
    · split at h
      · rename_i heq
        rcases List.mem_cons.mp h with hfirst | hrest
        · rw [heq]
          exact .inl hfirst
        · exact .inr (List.mem_cons_of_mem _ hrest)
      · rcases List.mem_cons.mp h with hfirst | hrest
        · exact .inr (hfirst ▸ List.mem_cons_self)
        · exact (ih hrest).imp_right (List.mem_cons_of_mem _)

namespace Sorted

variable {a b c fields : Fields}

theorem insert (h : fields.Sorted) (key : String) (value : Json) :
    (fields.insert key value).Sorted := by
  induction fields with
  | nil => exact List.pairwise_singleton _ _
  | cons first rest ih =>
    obtain ⟨name, old⟩ := first
    obtain ⟨hfirst, hrest⟩ := List.pairwise_cons.mp h
    unfold Fields.insert
    split
    · rename_i hlt
      refine List.pairwise_cons.mpr ⟨fun field hfield => ?_, h⟩
      rcases List.mem_cons.mp hfield with rfl | hmem
      · exact hlt
      · exact String.lt_trans hlt (hfirst field hmem)
    · rename_i hnlt
      split
      · exact List.pairwise_cons.mpr ⟨hfirst, hrest⟩
      · rename_i hne
        refine List.pairwise_cons.mpr ⟨fun field hfield => ?_, ih hrest⟩
        rcases eq_or_mem_of_mem_insert hfield with rfl | hmem
        · exact String.not_le.mp fun hle => hne (String.le_antisymm hle (String.not_lt.mp hnlt))
        · exact hfirst field hmem

/-- Whatever is laid over fields in key order, the keys stay in order. -/
theorem overlay (h : fields.Sorted) (user : List (String × Json)) :
    (Fields.overlay fields user).Sorted := by
  unfold Fields.overlay
  induction user generalizing fields with
  | nil => exact h
  | cons field rest ih => exact ih (h.insert field.1 field.2)

/-- Keys in order are distinct, so each field is the one that is found under its key. -/
theorem get?_eq_some_iff (h : fields.Sorted) {key : String} {value : Json} :
    fields.get? key = some value ↔ (key, value) ∈ fields := by
  induction fields with
  | nil => simp [get?]
  | cons first rest ih =>
    obtain ⟨name, old⟩ := first
    obtain ⟨hfirst, hrest⟩ := List.pairwise_cons.mp h
    rw [get?, List.mem_cons, Prod.mk.injEq]
    by_cases hname : name = key
    · subst hname
      have hrest : (name, value) ∉ rest := fun hmem => String.lt_irrefl name (hfirst _ hmem)
      rw [if_pos rfl, Option.some.injEq]
      simp [hrest, eq_comm]
    · rw [if_neg hname, ih hrest]
      simp [Ne.symm hname]

/-- **What is found under the keys determines fields in key order.** -/
theorem ext (ha : a.Sorted) (hb : b.Sorted) (h : ∀ key, a.get? key = b.get? key) : a = b := by
  have hirrefl : Std.Irrefl fun a b : String × Json => a.1 < b.1 :=
    ⟨fun field => String.lt_irrefl field.1⟩
  have hantisymm : Std.Antisymm fun a b : String × Json => a.1 < b.1 :=
    ⟨fun _ _ hab hba => absurd hba (String.lt_asymm hab)⟩
  refine List.Pairwise.eq_of_mem_iff ha hb fun field => ?_
  obtain ⟨key, value⟩ := field
  rw [← ha.get?_eq_some_iff, ← hb.get?_eq_some_iff, h]

theorem ofList_eq (h : fields.Sorted) : ofList fields = fields := by
  refine ext (overlay List.Pairwise.nil fields) h fun key => ?_
  induction fields with
  | nil => rfl
  | cons first rest ih =>
    obtain ⟨name, value⟩ := first
    obtain ⟨hfirst, hrest⟩ := List.pairwise_cons.mp h
    rw [get?_ofList_cons, ih hrest, get?]
    by_cases hkey : name = key
    · subst hkey
      have hnone : Fields.get? rest name = none := by
        refine Option.eq_none_iff_forall_ne_some.mpr fun found hfound => ?_
        exact String.lt_irrefl name (hfirst _ ((get?_eq_some_iff hrest).mp hfound))
      rw [if_pos rfl, if_pos rfl, hnone, Option.none_or]
    · rw [if_neg hkey, if_neg (Ne.symm hkey), Option.or_none]

/-- The fields laid over others are found first. -/
theorem get?_overlay (h : b.Sorted) (a : Fields) (key : String) :
    (Fields.overlay a b).get? key = (b.get? key).or (a.get? key) := by
  rw [Fields.get?_overlay, h.ofList_eq]

/-! ### Laws of overlaying -/

theorem overlay_nil_left (h : a.Sorted) : Fields.overlay [] a = a := h.ofList_eq

theorem overlay_assoc (ha : a.Sorted) (hb : b.Sorted) (hc : c.Sorted) :
    Fields.overlay (Fields.overlay a b) c = Fields.overlay a (Fields.overlay b c) := by
  refine ext ((ha.overlay b).overlay c) (ha.overlay _) fun key => ?_
  rw [hc.get?_overlay, hb.get?_overlay, (hb.overlay c).get?_overlay, hc.get?_overlay,
    Option.or_assoc]

theorem overlay_overlay_self (ha : a.Sorted) (hb : b.Sorted) :
    Fields.overlay (Fields.overlay a b) b = Fields.overlay a b := by
  refine ext ((ha.overlay b).overlay b) (ha.overlay b) fun key => ?_
  rw [hb.get?_overlay, hb.get?_overlay, ← Option.or_assoc, Option.or_self]

end Sorted

theorem sorted_ofList (fields : List (String × Json)) : (ofList fields).Sorted :=
  Sorted.overlay List.Pairwise.nil fields

/-! ## Fields without a key -/

theorem get?_eq_none_iff {fields : Fields} {key : String} :
    fields.get? key = none ↔ ∀ field ∈ fields, field.1 ≠ key := by
  induction fields with
  | nil => simp [get?]
  | cons field rest ih =>
    obtain ⟨name, value⟩ := field
    rw [get?, List.forall_mem_cons]
    by_cases h : name = key
    · simp [h]
    · rw [if_neg h, ih]
      exact ⟨fun hrest => ⟨h, hrest⟩, And.right⟩

theorem erase_of_absent {fields : Fields} {key : String} (h : fields.get? key = none) :
    fields.erase key = fields :=
  List.filter_eq_self.mpr fun field hfield => decide_eq_true (get?_eq_none_iff.mp h field hfield)

/-- What is put under a key is all that removing the key takes away. -/
theorem erase_insert (fields : Fields) (key : String) (value : Json) :
    (fields.insert key value).erase key = fields.erase key := by
  unfold erase
  induction fields with
  | nil => simp [insert]
  | cons field rest ih =>
    obtain ⟨name, old⟩ := field
    unfold insert
    split
    · simp
    · split
      · rename_i heq
        simp [heq]
      · rw [List.filter_cons, List.filter_cons, ih]

end Fields

namespace Json

@[simp] theorem get?_ofFields (fields : List (String × Json)) (k : String) :
    (Json.ofFields fields).get? k = (Fields.ofList fields).get? k := rfl

end Json

end Arboretum
