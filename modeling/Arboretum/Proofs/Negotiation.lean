import Arboretum.Options.Basic
import Arboretum.Proofs.Fields
import Mathlib.Data.List.TakeWhile

/-!
# The options in force

Options of the user are laid over the default. Either of the two may be a text that evaluates to no
object, and then there are no options; the default is evaluated first, and where the host may not
set options those of the user are not evaluated at all.

* `OptionsValue.EvaluatesTo`: the fields that options stand for. A text is read with its keys in
  order (`OptionsValue.EvaluatesTo.sorted`).
* `OptionsDescriptor.resolve_eq_error_iff`: why options are refused.
* `OptionsDescriptor.resolve_eq_ok_iff`: the options in force otherwise.
* `OptionsDescriptor.options_in_force`: both, with what is found under each key and the laws of
  laying options over each other.
-/

namespace Arboretum

/-! ## Evaluation -/

/-- Only white space is trimmed away whole. -/
theorem Text.trimChars_eq_nil_iff {cs : List Char} :
    trimChars cs = [] ↔ ∀ c ∈ cs, isWhiteSpace c = true := by
  rw [trimChars, List.reverse_eq_nil_iff, List.dropWhile_eq_nil_iff]
  constructor
  · intro h
    rw [← List.dropWhile_eq_nil_iff]
    by_contra hne
    -- what is left in front begins with another character, and that is trimmed from behind
    have hfirst := List.head_dropWhile_not isWhiteSpace hne
    rw [h _ (List.mem_reverse.mpr (List.head_mem hne))] at hfirst
    cases hfirst
  · intro h c hc
    exact h c ((List.dropWhile_sublist _).mem (List.mem_reverse.mp hc))

namespace OptionsValue

/-- Options as they are given: the keys of an object are in order and distinct. -/
def Ordered : OptionsValue → Prop
  | .object fields => fields.Sorted
  | .source _ _ => True

/-- The fields that options stand for: those of an object, none for a blank text, and for any other
text those of the object that it is read as. -/
inductive EvaluatesTo : OptionsValue → Fields → Prop
  | object (fields : Fields) : EvaluatesTo (.object fields) fields
  | blank {text : String} (language : OptionsLanguage)
      (spaces : ∀ c ∈ text.toList, Text.isWhiteSpace c = true) :
      EvaluatesTo (.source text language) []
  | text {text : String} {language : OptionsLanguage} {fields : Fields}
      (written : ¬ ∀ c ∈ text.toList, Text.isWhiteSpace c = true)
      (reads : readText text language = .ok (.obj fields)) :
      EvaluatesTo (.source text language) fields

theorem evaluate_eq_ok_iff {value : OptionsValue} {fields : Fields} :
    value.evaluate = .ok fields ↔ value.EvaluatesTo fields := by
  cases value with
  | object given =>
    constructor
    · rintro ⟨⟩
      exact .object _
    · rintro ⟨⟩
      rfl
  | source text language =>
    have hempty : (Text.trimChars text.toList).isEmpty = true ↔
        ∀ c ∈ text.toList, Text.isWhiteSpace c = true := by
      rw [List.isEmpty_iff, Text.trimChars_eq_nil_iff]
    rw [evaluate]
    by_cases hblank : ∀ c ∈ text.toList, Text.isWhiteSpace c = true
    · rw [if_pos (hempty.mpr hblank)]
      constructor
      · rintro ⟨⟩
        exact .blank language hblank
      · intro h
        cases h with
        | blank => rfl
        | text written => exact absurd hblank written
    · rw [if_neg (mt hempty.mp hblank)]
      constructor
      · intro h
        cases hread : readText text language with
        | error cause =>
          rw [hread] at h
          cases h
        | ok value =>
          rw [hread] at h
          cases value with
          | obj given =>
            cases h
            exact .text hblank hread
          | null | bool | num | str | arr => cases h
      · intro h
        cases h with
        | blank _ spaces => exact absurd spaces hblank
        | text _ reads =>
          rw [reads]
          rfl

/-- Texts of either language are read with the keys in order. -/
theorem sorted_of_readText {text : String} {language : OptionsLanguage} {fields : Fields}
    (h : readText text language = .ok (.obj fields)) : fields.Sorted := by
  unfold readText at h
  split at h
  · split at h
    · rename_i value hread
      cases h
      cases hraw : Json.readRaw text with
      | error rest =>
        rw [Json.read, hraw] at hread
        cases hread
      | ok raw =>
        rw [Json.read, hraw] at hread
        cases raw with
        | obj written =>
          rw [Except.map, Json.normalize] at hread
          cases hread
          exact Fields.sorted_ofList _
        | null | bool | num | str | arr => cases hread
    · cases h
  · split at h
    · split at h
      · cases h
        exact Fields.sorted_ofList _
      · cases h
    · cases h

theorem EvaluatesTo.sorted {value : OptionsValue} {fields : Fields} (h : value.EvaluatesTo fields)
    (hordered : value.Ordered) : fields.Sorted := by
  cases h with
  | object => exact hordered
  | blank => exact List.Pairwise.nil
  | text _ reads => exact sorted_of_readText reads

end OptionsValue

/-! ## Resolution -/

namespace OptionsDescriptor

variable {d : OptionsDescriptor} {user : Option OptionsValue}

/-- The options of the user that count: none where the host may not set any. -/
def given (d : OptionsDescriptor) : Option OptionsValue → Except OptionsError Fields
  | some value => if d.configurable then value.evaluate else .ok []
  | none => .ok []

/-- The default is evaluated before the options of the user that count, and those are laid over
it. -/
theorem resolve_eq (d : OptionsDescriptor) (user : Option OptionsValue) :
    d.resolve user = (do
      let defaults ← d.defaultValue.evaluate
      let given ← d.given user
      .ok (Fields.overlay defaults given)) := by
  rw [resolve]
  cases d.defaultValue.evaluate with
  | error cause => rfl
  | ok defaults =>
    cases user with
    | none => rfl
    | some value =>
      rw [given]
      by_cases hsettable : d.configurable = true
      · simp only [if_pos hsettable]
      · simp only [if_neg hsettable]
        rfl

/-- Without options of the user, those of the default are in force. -/
theorem resolve_none (d : OptionsDescriptor) : d.resolve none = d.defaultValue.evaluate := by
  rw [resolve]
  cases d.defaultValue.evaluate <;> rfl

/-- Where the host may not set options, those of the default are in force. -/
theorem resolve_of_fixed (h : d.configurable = false) (user : Option OptionsValue) :
    d.resolve user = d.defaultValue.evaluate := by
  cases user with
  | none => exact d.resolve_none
  | some value =>
    rw [resolve_eq, given, if_neg (by rw [h]; exact Bool.false_ne_true)]
    cases d.defaultValue.evaluate <;> rfl

/-- Options are refused. The default comes first, and those of the user count only where the host
may set any. -/
inductive Refuses (d : OptionsDescriptor) (user : Option OptionsValue) : OptionsError → Prop
  | default {cause : OptionsError} (evaluates : d.defaultValue.evaluate = .error cause) :
    Refuses d user cause
  | given {defaults : Fields} {value : OptionsValue} {cause : OptionsError}
      (evaluates : d.defaultValue.evaluate = .ok defaults) (settable : d.configurable = true)
      (asked : user = some value) (fails : value.evaluate = .error cause) :
    Refuses d user cause

/-- The fields of the user that count, as those of the evaluated options. -/
inductive Counts (d : OptionsDescriptor) : Option OptionsValue → Fields → Prop
  | absent : Counts d none []
  | ignored (value : OptionsValue) (fixed : d.configurable = false) : Counts d (some value) []
  | given {value : OptionsValue} {fields : Fields} (settable : d.configurable = true)
      (evaluates : value.EvaluatesTo fields) : Counts d (some value) fields

theorem given_eq_ok_iff {fields : Fields} : d.given user = .ok fields ↔ d.Counts user fields := by
  cases user with
  | none =>
    constructor
    · rintro ⟨⟩
      exact .absent
    · rintro ⟨⟩
      rfl
  | some value =>
    rw [given]
    cases hsettable : d.configurable with
    | false =>
      rw [if_neg Bool.false_ne_true]
      constructor
      · rintro ⟨⟩
        exact .ignored value hsettable
      · intro h
        cases h with
        | ignored => rfl
        | given settable => rw [hsettable] at settable; cases settable
    | true =>
      rw [if_pos rfl, OptionsValue.evaluate_eq_ok_iff]
      constructor
      · exact .given hsettable
      · intro h
        cases h with
        | ignored _ fixed => rw [hsettable] at fixed; cases fixed
        | given _ evaluates => exact evaluates

theorem given_eq_error_iff {cause : OptionsError} :
    d.given user = .error cause ↔
      d.configurable = true ∧ ∃ value, user = some value ∧ value.evaluate = .error cause := by
  cases user with
  | none => simp [given]
  | some value =>
    rw [given]
    by_cases hsettable : d.configurable = true <;> simp [hsettable]

theorem resolve_eq_error_iff {cause : OptionsError} :
    d.resolve user = .error cause ↔ d.Refuses user cause := by
  rw [resolve_eq]
  constructor
  · intro h
    cases hdefault : d.defaultValue.evaluate with
    | error first =>
      rw [hdefault] at h
      cases h
      exact .default hdefault
    | ok defaults =>
      cases hgiven : d.given user with
      | error second =>
        rw [hdefault, hgiven] at h
        cases h
        obtain ⟨settable, value, asked, fails⟩ := given_eq_error_iff.mp hgiven
        exact .given hdefault settable asked fails
      | ok fields =>
        rw [hdefault, hgiven] at h
        cases h
  · intro h
    cases h with
    | default evaluates =>
      rw [evaluates]
      rfl
    | given evaluates settable asked fails =>
      rw [evaluates, given_eq_error_iff.mpr ⟨settable, _, asked, fails⟩]
      rfl

theorem resolve_eq_ok_iff {result : Fields} :
    d.resolve user = .ok result ↔
      ∃ defaults given, d.defaultValue.EvaluatesTo defaults ∧ d.Counts user given ∧
        result = Fields.overlay defaults given := by
  rw [resolve_eq]
  constructor
  · intro h
    cases hdefault : d.defaultValue.evaluate with
    | error first =>
      rw [hdefault] at h
      cases h
    | ok defaults =>
      cases hgiven : d.given user with
      | error second =>
        rw [hdefault, hgiven] at h
        cases h
      | ok fields =>
        rw [hdefault, hgiven] at h
        cases h
        exact ⟨defaults, fields, OptionsValue.evaluate_eq_ok_iff.mp hdefault,
          given_eq_ok_iff.mp hgiven, rfl⟩
  · rintro ⟨defaults, fields, hdefaults, hcounts, rfl⟩
    rw [OptionsValue.evaluate_eq_ok_iff.mpr hdefaults, given_eq_ok_iff.mpr hcounts]
    rfl

theorem Counts.sorted {fields : Fields} (h : d.Counts user fields)
    (hordered : ∀ value ∈ user, value.Ordered) : fields.Sorted := by
  cases h with
  | absent => exact List.Pairwise.nil
  | ignored => exact List.Pairwise.nil
  | given _ evaluates => exact evaluates.sorted (hordered _ rfl)

/-- Options are refused when one of the evaluations that count comes to nothing. -/
theorem exists_resolve_eq_error_iff :
    (∃ cause, d.resolve user = .error cause) ↔
      (¬ ∃ fields, d.defaultValue.EvaluatesTo fields) ∨
      d.configurable = true ∧
        ∃ value, user = some value ∧ ¬ ∃ fields, value.EvaluatesTo fields := by
  have hfails : ∀ value : OptionsValue,
      (¬ ∃ fields, value.EvaluatesTo fields) ↔ ∃ cause, value.evaluate = .error cause := by
    intro value
    simp only [← OptionsValue.evaluate_eq_ok_iff]
    cases value.evaluate <;> simp
  simp only [resolve_eq_error_iff, hfails]
  constructor
  · rintro ⟨cause, evaluates | ⟨-, settable, asked, fails⟩⟩
    · exact .inl ⟨cause, evaluates⟩
    · exact .inr ⟨settable, _, asked, cause, fails⟩
  · rintro (⟨cause, evaluates⟩ | ⟨settable, value, asked, cause, fails⟩)
    · exact ⟨cause, .default evaluates⟩
    · -- the error of the default, if there is one, comes first
      cases hdefault : d.defaultValue.evaluate with
      | error first => exact ⟨first, .default hdefault⟩
      | ok defaults => exact ⟨cause, .given hdefault settable asked fails⟩

/-- **The options in force are those of the user over the default.** For every descriptor:

* options are refused exactly when the default evaluates to no object, or the host may set options
  and those that the user gives evaluate to none; the cause is that of the default if it is refused,
  and else that of the user;
* otherwise they have their keys in order, and under each key the value of the user if the host may
  set options and the user has the key, and else the value of the default, whole;
* where the host may not set options they are the same for all options of the user;
* to lay options over others is associative, has the empty options as identity on both sides, and
  does the same when it is done twice. -/
theorem options_in_force (d : OptionsDescriptor) :
    (∀ user,
      ((∃ cause, d.resolve user = .error cause) ↔
        (¬ ∃ fields, d.defaultValue.EvaluatesTo fields) ∨
        d.configurable = true ∧
          ∃ value, user = some value ∧ ¬ ∃ fields, value.EvaluatesTo fields) ∧
      (∀ cause, d.resolve user = .error cause ↔ d.Refuses user cause) ∧
      (d.defaultValue.Ordered → (∀ value ∈ user, value.Ordered) →
        ∀ result, d.resolve user = .ok result ↔
          result.Sorted ∧ ∃ defaults given, d.defaultValue.EvaluatesTo defaults ∧
            d.Counts user given ∧
            ∀ key, result.get? key = (given.get? key).or (defaults.get? key))) ∧
    (d.configurable = false → ∀ user other, d.resolve user = d.resolve other) ∧
    (∀ a b c : Fields, a.Sorted → b.Sorted → c.Sorted →
      Fields.overlay (Fields.overlay a b) c = Fields.overlay a (Fields.overlay b c)) ∧
    (∀ a : Fields, a.Sorted → Fields.overlay [] a = a ∧ Fields.overlay a [] = a) ∧
    (∀ a b : Fields, a.Sorted → b.Sorted →
      Fields.overlay (Fields.overlay a b) b = Fields.overlay a b) := by
  refine ⟨fun user => ⟨exists_resolve_eq_error_iff, fun cause => resolve_eq_error_iff, ?_⟩, ?_,
    fun a b c ha hb hc => ha.overlay_assoc hb hc, fun a ha => ⟨ha.overlay_nil_left, rfl⟩,
    fun a b ha hb => ha.overlay_overlay_self hb⟩
  · intro hdefault huser result
    rw [resolve_eq_ok_iff]
    constructor
    · rintro ⟨defaults, given, hdefaults, hcounts, rfl⟩
      exact ⟨(hdefaults.sorted hdefault).overlay given, defaults, given, hdefaults, hcounts,
        (hcounts.sorted huser).get?_overlay defaults⟩
    · rintro ⟨hsorted, defaults, given, hdefaults, hcounts, hkeys⟩
      refine ⟨defaults, given, hdefaults, hcounts, ?_⟩
      refine hsorted.ext ((hdefaults.sorted hdefault).overlay given) fun key => ?_
      rw [hkeys, (hcounts.sorted huser).get?_overlay]
  · intro hfixed user other
    rw [resolve_of_fixed hfixed, resolve_of_fixed hfixed]

/-! ### A nested object is replaced whole -/

/-- Two groups of options. -/
def grouped : OptionsDescriptor :=
  ofDefault (.obj [("compile", .obj [("id", .str "a.vue"), ("inline", .bool true)]),
    ("parse", .obj [])])

theorem options_in_force_nested :
    grouped.resolve (some (.object [("compile", .obj [("inline", .bool false)])])) =
        .ok [("compile", .obj [("inline", .bool false)]), ("parse", .obj [])] ∧
      (fixed (.obj [])).resolve (some (.source "\x7b" .json)) = (fixed (.obj [])).resolve none := by
  have hsorted : ∀ compile parse : Json,
      Fields.Sorted [("compile", compile), ("parse", parse)] := by
    intro compile parse
    exact List.pairwise_pair.mpr (by decide : "compile" < "parse")
  obtain ⟨hall, -⟩ := options_in_force grouped
  obtain ⟨-, hfixed, -⟩ := options_in_force (fixed (.obj []))
  refine ⟨?_, hfixed rfl _ _⟩
  obtain ⟨-, -, hresolve⟩ :=
    hall (some (.object [("compile", .obj [("inline", .bool false)])]))
  refine (hresolve (hsorted _ _) ?_ _).mpr
    ⟨hsorted _ _, _, _, .object _, .given rfl (.object _), fun key => ?_⟩
  · rintro value ⟨⟩
    exact List.pairwise_singleton _ _
  · by_cases hkey : "compile" = key <;> simp [Fields.get?, Json.fields?, hkey]

end OptionsDescriptor

end Arboretum
