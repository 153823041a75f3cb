import Arboretum.Options.Codec
import Arboretum.Proofs.Negotiation

/-!
# Reading descriptors back

Both kinds of default are written as objects, and every object is read as an object default. So a
descriptor can always be read from its JSON form, but a default that was a text is then an object
with the text in it.

* `OptionsDescriptor.ofJson?_toJson`: what is read.
* `OptionsDescriptor.read_back`: which descriptors survive, and what becomes of the others.
* `OptionsDescriptor.text_default_not_read_back`: the options in force are not the same then.
-/

namespace Arboretum

namespace OptionsLanguage

@[simp] theorem ofJson?_name (language : OptionsLanguage) :
    ofJson? (.str language.name) = some language := by
  cases language <;> rfl

end OptionsLanguage

namespace OptionsValue

/-- The fields of the JSON form of options. -/
def form : OptionsValue → Fields
  | .object fields => fields
  | .source text language => [("language", .str language.name), ("text", .str text)]

theorem toJson_eq (value : OptionsValue) : value.toJson = .obj value.form := by
  cases value with
  | object fields => rfl
  | source text language =>
    have hbefore : "language" < "text" := by decide
    simp [toJson, form, Json.ofFields, Fields.ofList, Fields.overlay, Fields.insert, hbefore]

/-- Options are read from their form as an object, so only objects are read as they were. -/
theorem object_form_eq_iff (value : OptionsValue) :
    .object value.form = value ↔ ∃ fields, value = .object fields := by
  cases value with
  | object fields => exact ⟨fun _ => ⟨fields, rfl⟩, fun _ => rfl⟩
  | source text language => simp

end OptionsValue

namespace OptionsDescriptor

/-- A descriptor with its default replaced by the form of that. -/
def formed (d : OptionsDescriptor) : OptionsDescriptor :=
  { d with defaultValue := .object d.defaultValue.form }

/-- **What is read from the JSON form of a descriptor.** -/
theorem ofJson?_toJson (d : OptionsDescriptor) : ofJson? d.toJson = some d.formed := by
  simp [toJson, Json.ofFields, ofJson?, ofParts?, OptionsValue.toJson_eq, OptionsValue.ofJson?,
    Json.bool?, formed]

theorem toJson_formed (d : OptionsDescriptor) : d.formed.toJson = d.toJson := by
  rw [toJson, toJson, OptionsValue.toJson_eq, OptionsValue.toJson_eq]
  rfl

theorem formed_eq_iff (d : OptionsDescriptor) :
    d.formed = d ↔ ∃ fields, d.defaultValue = .object fields := by
  rw [← OptionsValue.object_form_eq_iff]
  constructor
  · intro h
    exact congrArg defaultValue h
  · intro h
    rw [formed, h]

/-- **A descriptor is read back if its default is an object, and only then.** What is read from the
JSON form of a descriptor has the same form, so no reader could tell the two apart;

* it is the descriptor itself exactly when the default is an object, and then resolves all options of
  the user alike;
* a text is read as the object that holds the text and the name of its language, which are then the
  options in force, instead of those that the text evaluates to. -/
theorem read_back (d : OptionsDescriptor) :
    ∃ read, ofJson? d.toJson = some read ∧ read.toJson = d.toJson ∧
      (read = d ↔ ∃ fields, d.defaultValue = .object fields) ∧
      (∀ fields, d.defaultValue = .object fields → ∀ user, read.resolve user = d.resolve user) ∧
      ∀ text language, d.defaultValue = .source text language →
        let fields : Fields := [("language", .str language.name), ("text", .str text)]
        read = { d with defaultValue := .object fields } ∧
        (read.resolve none = d.resolve none ↔ d.defaultValue.evaluate = .ok fields) := by
  refine ⟨d.formed, d.ofJson?_toJson, d.toJson_formed, d.formed_eq_iff, ?_, ?_⟩
  · intro fields hobject user
    rw [d.formed_eq_iff.mpr ⟨fields, hobject⟩]
  · intro text language hsource fields
    have hformed : d.formed = { d with defaultValue := .object fields } := by
      rw [formed, hsource]
      rfl
    refine ⟨hformed, ?_⟩
    rw [resolve_none, resolve_none, hformed, eq_comm]
    rfl

/-- A text that sets one option; read back, two others are in force. -/
theorem text_default_not_read_back :
    let text := "includeAnonymous = false\n"
    let d : OptionsDescriptor := .ofSource text .toml
    ∃ read, ofJson? d.toJson = some read ∧ read ≠ d ∧
      (d.resolve none).toOption.map (fun fields => (Json.obj fields).compact) =
        some "\x7b\"includeAnonymous\":false\x7d" ∧
      read.resolve none = .ok [("language", .str "toml"), ("text", .str text)] := by
  intro text d
  refine ⟨d.formed, d.ofJson?_toJson, ?_, by decide +kernel, d.formed.resolve_none⟩
  intro heq
  obtain ⟨fields, hobject⟩ := d.formed_eq_iff.mp heq
  cases hobject

end OptionsDescriptor

end Arboretum
