import Arboretum.Adapter.Registry
import Mathlib.Data.List.Nodup
import Mathlib.Data.List.Pairwise
import Mathlib.Data.List.Perm.Basic

/-!
# Registries with unique ids

A registry is built by one pass over its languages, in which the index of languages is also the set
of language ids seen before. What stops the pass is the first id that repeats an earlier one of its
kind; without one the index leads from every language id to the language that has it, and every id
leads to one language or one parser, whichever look-up is used.

* `firstRepeat?`: the search for a repeated element, and what it finds.
* `Registry.indexFrom_eq`: the pass is this search through the ids in their order, and ends with the
  positions of all languages.
* `Registry.Distinct`: languages without a repeated id. `Registry.Consistent`: their registry, with
  an index that agrees with the list; the look-ups in it.
* `Registry.unique_ids`: both together.
-/

namespace Arboretum

/-! ## Repeated elements -/

section Repeats

variable {α β : Type} [DecidableEq α] [DecidableEq β]

/-- The first element that was seen or repeats one before it. -/
def firstRepeat? : (seen items : List α) → Option α
  | _, [] => none
  | seen, x :: rest => if x ∈ seen then some x else firstRepeat? (x :: seen) rest

/-- Of those seen only the membership counts. -/
theorem firstRepeat?_congr {seen other : List α} (h : ∀ x, x ∈ seen ↔ x ∈ other)
    (items : List α) : firstRepeat? seen items = firstRepeat? other items := by
  induction items generalizing seen other with
  | nil => rfl
  | cons x rest ih =>
    have hnext : ∀ y, y ∈ x :: seen ↔ y ∈ x :: other := fun y => by
      rw [List.mem_cons, List.mem_cons, h y]
    simp only [firstRepeat?, h x, ih hnext]

theorem firstRepeat?_append (seen front back : List α) :
    firstRepeat? seen (front ++ back) =
      (firstRepeat? seen front).or (firstRepeat? (front.reverse ++ seen) back) := by
  induction front generalizing seen with
  | nil => rfl
  | cons x rest ih =>
    rw [List.cons_append, firstRepeat?, firstRepeat?]
    split
    · rfl
    · rw [ih, List.reverse_cons, List.append_assoc, List.singleton_append]

/-- The search is the same after an injective renaming. -/
theorem firstRepeat?_map {f : α → β} (hf : Function.Injective f) {seen : List α}
    {marked : List β} (h : ∀ x, f x ∈ marked ↔ x ∈ seen) (items : List α) :
    firstRepeat? marked (items.map f) = (firstRepeat? seen items).map f := by
  induction items generalizing seen marked with
  | nil => rfl
  | cons x rest ih =>
    have hnext : ∀ y, f y ∈ f x :: marked ↔ y ∈ x :: seen := fun y => by
      rw [List.mem_cons, List.mem_cons, h y, hf.eq_iff]
    rw [List.map_cons, firstRepeat?, firstRepeat?]
    by_cases hx : x ∈ seen
    · rw [if_pos hx, if_pos ((h x).mpr hx)]
      rfl
    · rw [if_neg hx, if_neg fun hin => hx ((h x).mp hin), ih hnext]

theorem firstRepeat?_eq_none_iff {seen items : List α} :
    firstRepeat? seen items = none ↔ items.Nodup ∧ ∀ x ∈ items, x ∉ seen := by
  induction items generalizing seen with
  | nil => simp [firstRepeat?]
  | cons x rest ih =>
    rw [firstRepeat?]
    by_cases hx : x ∈ seen
    · rw [if_pos hx]
      exact ⟨fun h => absurd h (by simp), fun h => absurd hx (h.2 x List.mem_cons_self)⟩
    · rw [if_neg hx, ih, List.nodup_cons]
      constructor
      · rintro ⟨hnodup, hnew⟩
        refine ⟨⟨fun hin => hnew x hin List.mem_cons_self, hnodup⟩, fun y hy => ?_⟩
        rcases List.mem_cons.mp hy with rfl | hy
        · exact hx
        · exact fun hseen => hnew y hy (List.mem_cons_of_mem x hseen)
      · rintro ⟨⟨hnot, hnodup⟩, hnew⟩
        refine ⟨hnodup, fun y hy hin => ?_⟩
        rcases List.mem_cons.mp hin with rfl | hseen
        · exact hnot hy
        · exact hnew y (List.mem_cons_of_mem x hy) hseen

theorem exists_of_firstRepeat? {seen items : List α} {x : α}
    (h : firstRepeat? seen items = some x) :
    ∃ before after, items = before ++ x :: after ∧ firstRepeat? seen before = none ∧
      x ∈ before.reverse ++ seen := by
  induction items generalizing seen with
  | nil => cases h
  | cons y rest ih =>
    rw [firstRepeat?] at h
    split at h
    · rename_i hseen
      cases h
      exact ⟨[], rest, rfl, rfl, hseen⟩
    · rename_i hnew
      obtain ⟨before, after, rfl, hnone, hmem⟩ := ih h
      refine ⟨y :: before, after, rfl, ?_, ?_⟩
      · rw [firstRepeat?, if_neg hnew, hnone]
      · rwa [List.reverse_cons, List.append_assoc, List.singleton_append]

/-- **What is found is the one repetition after elements without any.** -/
theorem firstRepeat?_nil_eq_some_iff {items : List α} {x : α} :
    firstRepeat? [] items = some x ↔
      ∃ before after, items = before ++ x :: after ∧ before.Nodup ∧ x ∈ before := by
  constructor
  · intro h
    obtain ⟨before, after, hitems, hnone, hmem⟩ := exists_of_firstRepeat? h
    rw [List.append_nil, List.mem_reverse] at hmem
    exact ⟨before, after, hitems, (firstRepeat?_eq_none_iff.mp hnone).1, hmem⟩
  · rintro ⟨before, after, rfl, hnodup, hmem⟩
    have hnone : firstRepeat? [] before = none :=
      firstRepeat?_eq_none_iff.mpr ⟨hnodup, fun _ _ => List.not_mem_nil⟩
    rw [firstRepeat?_append, hnone, Option.none_or, firstRepeat?, if_pos]
    rwa [List.append_nil, List.mem_reverse]

end Repeats

/-! ## The pass -/

/-- An id as the pass over languages meets it. -/
inductive RegistryId where
  | language (id : String)
  | parser (id : String)
  deriving DecidableEq, Repr

def RegistryId.text : RegistryId → String
  | .language id => id
  | .parser id => id

/-- The ids of a language: its own before those of its parsers. -/
def Language.ids (l : Language) : List RegistryId :=
  .language l.id :: (l.parsers.map Parser.id).map .parser

namespace Registry

/-- The ids of languages in the order of the pass. -/
def ids (languages : List Language) : List RegistryId := languages.flatMap Language.ids

theorem enroll_eq (seen new : List String) :
    enroll seen new =
      match firstRepeat? seen new with
      | none => .ok (new.reverse ++ seen)
      | some id => .error (.duplicateId id) := by
  induction new generalizing seen with
  | nil => rfl
  | cons id rest ih =>
    rw [enroll, firstRepeat?]
    by_cases hid : id ∈ seen
    · rw [if_pos hid, if_pos (List.contains_iff_mem.mpr hid)]
    · rw [if_neg hid, if_neg (fun hin => hid (List.contains_iff_mem.mp hin)), ih,
        List.reverse_cons, List.append_assoc, List.singleton_append]

/-- The ids of both kinds that were seen. -/
def seenIds (languageIds parserIds : List String) : List RegistryId :=
  languageIds.map .language ++ parserIds.map .parser

theorem language_mem_seenIds {languageIds parserIds : List String} {id : String} :
    .language id ∈ seenIds languageIds parserIds ↔ id ∈ languageIds := by
  simp [seenIds]

theorem parser_mem_seenIds {languageIds parserIds : List String} {id : String} :
    .parser id ∈ seenIds languageIds parserIds ↔ id ∈ parserIds := by
  simp [seenIds]

/-- After a language its id and those of its parsers have been seen. -/
theorem mem_seenIds_after (languageIds parserIds : List String) (l : Language) (x : RegistryId) :
    x ∈ l.ids.reverse ++ seenIds languageIds parserIds ↔
      x ∈ seenIds (l.id :: languageIds) ((l.parsers.map Parser.id).reverse ++ parserIds) := by
  rw [List.mem_append, List.mem_reverse, Language.ids]
  cases x with
  | language id =>
    rw [language_mem_seenIds, language_mem_seenIds]
    simp
  | parser id =>
    rw [parser_mem_seenIds, parser_mem_seenIds]
    simp

/-- The entries of an index for the languages at some positions, the latest first. -/
def entries (languages : List Language) (positions : List (Fin languages.length)) :
    Index languages.length :=
  (positions.map fun i => ((languages.get i).id, i)).reverse

theorem entries_cons (languages : List Language) (i : Fin languages.length)
    (rest : List (Fin languages.length)) :
    entries languages (i :: rest) = entries languages rest ++ [((languages.get i).id, i)] := by
  rw [entries, List.map_cons, List.reverse_cons]
  rfl

theorem lookup_eq_none_iff {size : Nat} {index : Index size} {id : String} :
    index.lookup id = none ↔ id ∉ index.map Prod.fst := by
  rw [List.lookup_eq_none_iff]
  constructor
  · intro hnone hmem
    obtain ⟨entry, hentry, rfl⟩ := List.mem_map.mp hmem
    simpa using hnone entry hentry
  · intro hnot entry hentry
    simp only [bne_iff_ne]
    exact fun heq => hnot (heq ▸ List.mem_map_of_mem hentry)

/-- **The pass searches the ids in their order for the first repeated one**, and without one has an
entry for each position. -/
theorem indexFrom_eq (languages : List Language) (positions : List (Fin languages.length))
    (byId : Index languages.length) (parserIds : List String) :
    indexFrom languages positions byId parserIds =
      match firstRepeat? (seenIds (byId.map Prod.fst) parserIds)
        (ids (positions.map languages.get)) with
      | none => .ok (entries languages positions ++ byId)
      | some x => .error (.duplicateId x.text) := by
  induction positions generalizing byId parserIds with
  | nil => rfl
  | cons i rest ih =>
    have hparsers : firstRepeat?
        (.language (languages.get i).id :: seenIds (byId.map Prod.fst) parserIds)
        (((languages.get i).parsers.map Parser.id).map .parser) =
          (firstRepeat? parserIds ((languages.get i).parsers.map Parser.id)).map .parser := by
      refine firstRepeat?_map (fun _ _ h => RegistryId.parser.inj h) (fun id => ?_) _
      rw [List.mem_cons, parser_mem_seenIds]
      simp
    rw [indexFrom, enroll_eq, List.map_cons, ids, List.flatMap_cons, firstRepeat?_append,
      firstRepeat?_congr (mem_seenIds_after _ parserIds (languages.get i)), Language.ids,
      firstRepeat?, hparsers]
    cases hfound : byId.lookup (languages.get i).id with
    | some j =>
      have hin : (languages.get i).id ∈ byId.map Prod.fst := by
        by_contra hnot
        rw [lookup_eq_none_iff.mpr hnot] at hfound
        cases hfound
      rw [if_pos (language_mem_seenIds.mpr hin)]
      rfl
    | none =>
      have hnot := lookup_eq_none_iff.mp hfound
      rw [if_neg fun hin => hnot (language_mem_seenIds.mp hin), entries_cons, List.append_assoc]
      cases firstRepeat? parserIds ((languages.get i).parsers.map Parser.id) with
      | some id => rfl
      | none => exact ih (((languages.get i).id, i) :: byId) _

/-- Languages with an entry of the index for each position. -/
def indexed (languages : List Language) : Registry :=
  ⟨languages, entries languages (List.finRange languages.length)⟩

theorem ofLanguages_eq (languages : List Language) :
    ofLanguages languages =
      match firstRepeat? [] (ids languages) with
      | none => .ok (indexed languages)
      | some x => .error (.duplicateId x.text) := by
  have hall : (List.finRange languages.length).map languages.get = languages :=
    List.map_getElem_finRange languages
  have hseen : seenIds (([] : Index languages.length).map Prod.fst) [] = [] := rfl
  rw [ofLanguages, indexFrom_eq, hall, hseen]
  cases firstRepeat? [] (ids languages) with
  | none =>
    rw [List.append_nil]
    rfl
  | some x => rfl

/-! ## Distinct ids -/

/-- Languages with distinct ids, also of all their parsers. -/
structure Distinct (languages : List Language) : Prop where
  languageIds : (languages.map Language.id).Nodup
  parserIds : (languages.flatMap fun l => l.parsers.map Parser.id).Nodup

/-- The ids in their order are those of the languages and those of the parsers. -/
theorem ids_perm (languages : List Language) :
    (ids languages).Perm (seenIds (languages.map Language.id)
      (languages.flatMap fun l => l.parsers.map Parser.id)) := by
  induction languages with
  | nil => exact .refl _
  | cons l rest ih =>
    have hparsers : (l.ids ++ ids rest).Perm (.language l.id ::
        ((l.parsers.map Parser.id).map .parser ++ seenIds (rest.map Language.id)
          (rest.flatMap fun l => l.parsers.map Parser.id))) :=
      .cons _ (ih.append_left _)
    refine hparsers.trans (.cons _ ?_)
    rw [List.flatMap_cons, List.map_append]
    exact (List.perm_append_comm_assoc _ _ _)

theorem nodup_ids_iff (languages : List Language) :
    (ids languages).Nodup ↔ Distinct languages := by
  have hlanguage : Function.Injective RegistryId.language := fun _ _ h => RegistryId.language.inj h
  have hparser : Function.Injective RegistryId.parser := fun _ _ h => RegistryId.parser.inj h
  rw [(ids_perm languages).nodup_iff, seenIds, List.nodup_append,
    List.nodup_map_iff hlanguage, List.nodup_map_iff hparser]
  constructor
  · rintro ⟨hlanguages, hparsers, -⟩
    exact ⟨hlanguages, hparsers⟩
  · rintro ⟨hlanguages, hparsers⟩
    refine ⟨hlanguages, hparsers, ?_⟩
    intro x hx y hy heq
    obtain ⟨id, -, rfl⟩ := List.mem_map.mp hx
    obtain ⟨other, -, rfl⟩ := List.mem_map.mp hy
    cases heq

theorem ofLanguages_eq_ok_iff {languages : List Language} {r : Registry} :
    ofLanguages languages = .ok r ↔ Distinct languages ∧ r = indexed languages := by
  have hnone : firstRepeat? [] (ids languages) = none ↔ Distinct languages := by
    rw [firstRepeat?_eq_none_iff, nodup_ids_iff]
    exact and_iff_left fun _ _ => List.not_mem_nil
  rw [ofLanguages_eq, ← hnone]
  cases firstRepeat? [] (ids languages) with
  | none => simp [eq_comm]
  | some x => simp

theorem ofLanguages_eq_error_iff {languages : List Language} {e : Error} :
    ofLanguages languages = .error e ↔
      ∃ before x after, ids languages = before ++ x :: after ∧ before.Nodup ∧ x ∈ before ∧
        e = .duplicateId x.text := by
  have hsome : ofLanguages languages = .error e ↔
      ∃ x, firstRepeat? [] (ids languages) = some x ∧ e = .duplicateId x.text := by
    rw [ofLanguages_eq]
    cases firstRepeat? [] (ids languages) with
    | none => simp
    | some x => simp [eq_comm]
  rw [hsome]
  constructor
  · rintro ⟨x, hx, he⟩
    obtain ⟨before, after, hids, hnodup, hmem⟩ := firstRepeat?_nil_eq_some_iff.mp hx
    exact ⟨before, x, after, hids, hnodup, hmem, he⟩
  · rintro ⟨before, x, after, hids, hnodup, hmem, he⟩
    exact ⟨x, firstRepeat?_nil_eq_some_iff.mpr ⟨before, after, hids, hnodup, hmem⟩, he⟩

end Registry

/-! ## Look-ups -/

/-- Where keys are distinct, a search by key finds the one element with the key. -/
theorem find?_key_eq_some_iff {α : Type} {key : α → String} {items : List α}
    (h : (items.map key).Nodup) {k : String} {x : α} :
    items.find? (fun x => key x = k) = some x ↔ x ∈ items ∧ key x = k := by
  constructor
  · intro hfound
    exact ⟨List.mem_of_find?_eq_some hfound, by simpa using List.find?_some hfound⟩
  · rintro ⟨hx, hkey⟩
    cases hfound : items.find? fun x => key x = k with
    | none => exact absurd hkey (by simpa using List.find?_eq_none.mp hfound x hx)
    | some y =>
      have hy : key y = k := by simpa using List.find?_some hfound
      rw [List.inj_on_of_nodup_map h (List.mem_of_find?_eq_some hfound) hx (hy.trans hkey.symm)]

/-- Where no key repeats in the keys of all elements, each key belongs to one element. -/
theorem owner_unique {α : Type} {keys : α → List String} {items : List α}
    (h : (items.flatMap keys).Nodup) {x y : α} (hx : x ∈ items) (hy : y ∈ items) {k : String}
    (hkx : k ∈ keys x) (hky : k ∈ keys y) : x = y := by
  by_contra hne
  have : Std.Symm (Function.onFun List.Disjoint keys) :=
    ⟨fun _ _ hdisjoint _ hleft hright => hdisjoint hright hleft⟩
  exact (List.nodup_flatMap.mp h).2.forall hx hy hne hkx hky

theorem Language.parser?_eq_none_iff {l : Language} {id : String} :
    l.parser? id = none ↔ ∀ p ∈ l.parsers, p.id ≠ id := by
  simp [parser?]

namespace Registry

variable {r : Registry} {id languageId parserId : String} {l other : Language} {p q : Parser}
  {e : Error}

namespace Distinct

theorem parser? {languages : List Language} (h : Distinct languages) (hl : l ∈ languages) :
    l.parser? id = some p ↔ p ∈ l.parsers ∧ p.id = id :=
  find?_key_eq_some_iff ((List.nodup_flatMap.mp h.parserIds).1 l hl)

/-- **A parser id belongs to one language.** -/
theorem holder_unique (h : Distinct r.languages) (hl : l ∈ r.languages)
    (hother : other ∈ r.languages) (hp : p ∈ l.parsers) (hq : q ∈ other.parsers)
    (hid : p.id = q.id) : l = other :=
  owner_unique h.parserIds hl hother (List.mem_map_of_mem hp) (hid ▸ List.mem_map_of_mem hq)

end Distinct

/-- **A registry with distinct ids and an index that agrees with its list.** -/
structure Consistent (r : Registry) : Prop where
  distinct : Distinct r.languages
  index : ∀ id i, r.byId.lookup id = some i ↔ (r.languages.get i).id = id

theorem lookup_eq_some_iff {size : Nat} {index : Index size} (h : (index.map Prod.fst).Nodup)
    {i : Fin size} : index.lookup id = some i ↔ (id, i) ∈ index := by
  constructor
  · intro hfound
    obtain ⟨front, back, rfl, -⟩ := List.lookup_eq_some_iff.mp hfound
    exact List.mem_append_right front List.mem_cons_self
  · intro hmem
    cases hfound : index.lookup id with
    | none => exact absurd (List.mem_map_of_mem hmem) (lookup_eq_none_iff.mp hfound)
    | some j =>
      obtain ⟨front, back, hindex, -⟩ := List.lookup_eq_some_iff.mp hfound
      have hj : (id, j) ∈ index := hindex ▸ List.mem_append_right front List.mem_cons_self
      have hsame : (id, j) = (id, i) := List.inj_on_of_nodup_map h hj hmem rfl
      exact congrArg some (congrArg Prod.snd hsame)

theorem Distinct.consistent {languages : List Language} (h : Distinct languages) :
    (indexed languages).Consistent := by
  refine ⟨h, fun id (i : Fin languages.length) => ?_⟩
  have hkeys : (entries languages (List.finRange languages.length)).map Prod.fst =
      (languages.map Language.id).reverse := by
    rw [entries, List.map_reverse, List.map_map]
    conv_rhs => rw [← List.map_getElem_finRange languages, List.map_map]
    rfl
  have hnodup : ((entries languages (List.finRange languages.length)).map Prod.fst).Nodup := by
    rw [hkeys]
    exact List.nodup_reverse.mpr h.languageIds
  have hentry : (id, i) ∈ entries languages (List.finRange languages.length) ↔
      (languages.get i).id = id := by
    simp [entries, eq_comm]
  exact (lookup_eq_some_iff hnodup).trans hentry

namespace Consistent

theorem language_eq_ok_iff (h : r.Consistent) :
    r.language id = .ok l ↔ l ∈ r.languages ∧ l.id = id := by
  have hfound : r.language id = .ok l ↔ ∃ i, r.byId.lookup id = some i ∧ r.languages.get i = l := by
    rw [language]
    cases r.byId.lookup id <;> simp
  rw [hfound]
  constructor
  · rintro ⟨i, hi, rfl⟩
    exact ⟨List.getElem_mem i.isLt, (h.index id i).mp hi⟩
  · rintro ⟨hl, hid⟩
    obtain ⟨n, hn, rfl⟩ := List.getElem_of_mem hl
    exact ⟨⟨n, hn⟩, (h.index id ⟨n, hn⟩).mpr hid, rfl⟩

theorem language_eq_error_iff (h : r.Consistent) :
    r.language id = .error e ↔ (∀ l ∈ r.languages, l.id ≠ id) ∧ e = .unknownLanguage id := by
  cases hl : r.language id with
  | ok l =>
    obtain ⟨hin, hid⟩ := h.language_eq_ok_iff.mp hl
    constructor
    · rintro ⟨⟩
    · rintro ⟨hnone, -⟩
      exact absurd hid (hnone l hin)
  | error cause =>
    have hcause : cause = .unknownLanguage id := by
      rw [language] at hl
      split at hl
      · cases hl
      · cases hl
        rfl
    have hnone : ∀ l ∈ r.languages, l.id ≠ id := by
      intro l hin hid
      rw [h.language_eq_ok_iff.mpr ⟨hin, hid⟩] at hl
      cases hl
    subst hcause
    constructor
    · rintro ⟨⟩
      exact ⟨hnone, rfl⟩
    · rintro ⟨-, rfl⟩
      rfl

end Consistent

theorem parser_of_language (hl : r.language languageId = .ok l) :
    r.parser languageId parserId =
      match l.parser? parserId with
      | some p => .ok p
      | none => .error (.unknownParser languageId parserId) := by
  rw [parser, hl]
  rfl

theorem parser_of_no_language (hl : r.language languageId = .error e) :
    r.parser languageId parserId = .error e := by
  rw [parser, hl]
  rfl

namespace Consistent

theorem parser_eq_ok_iff (h : r.Consistent) :
    r.parser languageId parserId = .ok p ↔
      ∃ l ∈ r.languages, l.id = languageId ∧ p ∈ l.parsers ∧ p.id = parserId := by
  cases hl : r.language languageId with
  | error e =>
    have hnone := (h.language_eq_error_iff.mp hl).1
    rw [parser_of_no_language hl]
    constructor
    · rintro ⟨⟩
    · rintro ⟨l, hin, hid, -⟩
      exact absurd hid (hnone l hin)
  | ok l =>
    obtain ⟨hin, hid⟩ := h.language_eq_ok_iff.mp hl
    rw [parser_of_language hl]
    constructor
    · intro hok
      split at hok
      · rename_i hfound
        cases hok
        exact ⟨l, hin, hid, (h.distinct.parser? hin).mp hfound⟩
      · cases hok
    · rintro ⟨other, hother, hotherId, hp⟩
      have heq : other = l := List.inj_on_of_nodup_map h.distinct.languageIds hother hin
        (hotherId.trans hid.symm)
      rw [heq] at hp
      rw [(h.distinct.parser? hin).mpr hp]

theorem parser_eq_error_iff (h : r.Consistent) :
    r.parser languageId parserId = .error e ↔
      (∀ l ∈ r.languages, l.id ≠ languageId) ∧ e = .unknownLanguage languageId ∨
      (∃ l ∈ r.languages, l.id = languageId ∧ ∀ p ∈ l.parsers, p.id ≠ parserId) ∧
        e = .unknownParser languageId parserId := by
  cases hl : r.language languageId with
  | error cause =>
    obtain ⟨hnone, rfl⟩ := h.language_eq_error_iff.mp hl
    rw [parser_of_no_language hl]
    constructor
    · rintro ⟨⟩
      exact .inl ⟨hnone, rfl⟩
    · rintro (⟨-, rfl⟩ | ⟨⟨l, hin, hid, -⟩, -⟩)
      · rfl
      · exact absurd hid (hnone l hin)
  | ok l =>
    obtain ⟨hin, hid⟩ := h.language_eq_ok_iff.mp hl
    rw [parser_of_language hl]
    constructor
    · intro herror
      split at herror
      · cases herror
      · rename_i hfound
        cases herror
        exact .inr ⟨⟨l, hin, hid, Language.parser?_eq_none_iff.mp hfound⟩, rfl⟩
    · rintro (⟨hnone, -⟩ | ⟨⟨other, hother, hotherId, hnot⟩, rfl⟩)
      · exact absurd hid (hnone l hin)
      · have heq : other = l := List.inj_on_of_nodup_map h.distinct.languageIds hother hin
          (hotherId.trans hid.symm)
        rw [heq] at hnot
        rw [Language.parser?_eq_none_iff.mpr hnot]

end Consistent

theorem Distinct.findParser?_eq_some_iff (h : Distinct r.languages) :
    r.findParser? parserId = some (l, p) ↔
      l ∈ r.languages ∧ p ∈ l.parsers ∧ p.id = parserId := by
  have hholds : ∀ m q, r.findParser? parserId = some (m, q) →
      m ∈ r.languages ∧ q ∈ m.parsers ∧ q.id = parserId := by
    intro m q hfound
    obtain ⟨first, hin, hsome⟩ := List.exists_of_findSome?_eq_some hfound
    obtain ⟨found, hparser, heq⟩ := Option.map_eq_some_iff.mp hsome
    cases heq
    exact ⟨hin, (h.parser? hin).mp hparser⟩
  refine ⟨hholds l p, ?_⟩
  rintro ⟨hin, hp, hid⟩
  cases hfound : r.findParser? parserId with
  | none =>
    have hnone := List.findSome?_eq_none_iff.mp hfound l hin
    rw [(h.parser? hin).mpr ⟨hp, hid⟩] at hnone
    cases hnone
  | some found =>
    obtain ⟨m, q⟩ := found
    obtain ⟨hm, hq, hqid⟩ := hholds m q hfound
    obtain rfl := h.holder_unique hm hin hq hp (hqid.trans hid.symm)
    have hsame := (h.parser? hm).mpr ⟨hq, hqid⟩
    rw [(h.parser? hm).mpr ⟨hp, hid⟩] at hsame
    rw [Option.some.inj hsame]

/-- **A registry has unique ids, and its look-ups agree.** For all languages:

* they make a registry exactly when the ids of the languages are distinct and so are the ids of all
  their parsers together;
* otherwise the error names the first id that repeats one of its kind, in the order of the
  languages, the id of each before those of its parsers;
* the index leads from each id to the position of the language that has it, and nowhere else;
* a look-up of a language finds the one with the id, and fails exactly when there is none;
* a look-up of a parser alone finds it with its language exactly when the look-up in this language
  finds it, and in no other language it is found;
* a look-up of a parser in a language finds the one that this language has, and tells an unknown
  language from a parser that the language does not have, whatever the other languages have. -/
theorem unique_ids (languages : List Language) :
    ((∃ r, ofLanguages languages = .ok r) ↔
      (languages.map Language.id).Nodup ∧
      (languages.flatMap fun l => l.parsers.map Parser.id).Nodup) ∧
    (∀ e, ofLanguages languages = .error e ↔
      ∃ before x after, ids languages = before ++ x :: after ∧ before.Nodup ∧ x ∈ before ∧
        e = .duplicateId x.text) ∧
    ∀ r, ofLanguages languages = .ok r →
      r.languages = languages ∧
      (∀ id i, r.byId.lookup id = some i ↔ (r.languages.get i).id = id) ∧
      (∀ id,
        (∀ l, r.language id = .ok l ↔ l ∈ languages ∧ l.id = id) ∧
        (∀ l ∈ languages, ∀ m ∈ languages, l.id = id → m.id = id → l = m) ∧
        ∀ e, r.language id = .error e ↔ (∀ l ∈ languages, l.id ≠ id) ∧ e = .unknownLanguage id) ∧
      (∀ parserId,
        (∀ l p, r.findParser? parserId = some (l, p) ↔
          l ∈ languages ∧ r.parser l.id parserId = .ok p) ∧
        ∀ l ∈ languages, ∀ m ∈ languages, ∀ p q, r.parser l.id parserId = .ok p →
          r.parser m.id parserId = .ok q → l = m ∧ p = q) ∧
      ∀ languageId parserId,
        (∀ p, r.parser languageId parserId = .ok p ↔
          ∃ l ∈ languages, l.id = languageId ∧ p ∈ l.parsers ∧ p.id = parserId) ∧
        ∀ e, r.parser languageId parserId = .error e ↔
          (∀ l ∈ languages, l.id ≠ languageId) ∧ e = .unknownLanguage languageId ∨
          (∃ l ∈ languages, l.id = languageId ∧ ∀ p ∈ l.parsers, p.id ≠ parserId) ∧
            e = .unknownParser languageId parserId := by
  refine ⟨?_, fun e => ofLanguages_eq_error_iff, ?_⟩
  · constructor
    · rintro ⟨r, hr⟩
      obtain ⟨hdistinct, -⟩ := ofLanguages_eq_ok_iff.mp hr
      exact ⟨hdistinct.languageIds, hdistinct.parserIds⟩
    · rintro ⟨hlanguages, hparsers⟩
      exact ⟨_, ofLanguages_eq_ok_iff.mpr ⟨⟨hlanguages, hparsers⟩, rfl⟩⟩
  · intro r hr
    obtain ⟨hdistinct, rfl⟩ := ofLanguages_eq_ok_iff.mp hr
    have h : (indexed languages).Consistent := hdistinct.consistent
    have hsame : ∀ l ∈ languages, ∀ m ∈ languages, l.id = m.id → l = m :=
      fun l hl m hm => List.inj_on_of_nodup_map hdistinct.languageIds hl hm
    have hfound : ∀ l ∈ languages, ∀ parserId p, (indexed languages).parser l.id parserId = .ok p →
        p ∈ l.parsers ∧ p.id = parserId := by
      intro l hl parserId p hp
      obtain ⟨m, hm, hid, hq⟩ := h.parser_eq_ok_iff.mp hp
      rwa [hsame m hm l hl hid] at hq
    refine ⟨rfl, h.index,
      fun id => ⟨fun l => h.language_eq_ok_iff, ?_, fun e => h.language_eq_error_iff⟩,
      fun parserId => ⟨fun l p => ?_, ?_⟩, fun languageId parserId =>
        ⟨fun p => h.parser_eq_ok_iff, fun e => h.parser_eq_error_iff⟩⟩
    · intro l hl m hm hlid hmid
      exact hsame l hl m hm (hlid.trans hmid.symm)
    · rw [h.distinct.findParser?_eq_some_iff]
      refine and_congr_right fun hl => ?_
      exact ⟨fun hp => h.parser_eq_ok_iff.mpr ⟨l, hl, rfl, hp⟩, hfound l hl parserId p⟩
    · intro l hl m hm p q hp hq
      obtain ⟨hpin, hpid⟩ := hfound l hl parserId p hp
      obtain ⟨hqin, hqid⟩ := hfound m hm parserId q hq
      obtain rfl := h.distinct.holder_unique hl hm hpin hqin (hpid.trans hqid.symm)
      refine ⟨rfl, ?_⟩
      rw [hp] at hq
      exact Except.ok.inj hq

end Registry

end Arboretum
