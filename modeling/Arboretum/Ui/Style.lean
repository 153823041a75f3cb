/-!
# Icons and styles

The icons in front of messages, and the styles texts can be shown in. A plain theme shows every text
as it is.
-/

namespace Arboretum

namespace Icon

def check : String := "✅"
def cross : String := "❌"
def warning : String := "⚠️"
def info : String := "ℹ️"
def package : String := "📦"
def clock : String := "⏱️"
def pin : String := "📍"
def tree : String := "🌳"

end Icon

/-- A style by its display codes; the plain style has none. -/
structure Style where
  codes : List Nat
  deriving DecidableEq, Repr

/-- A text in a style: set before it and reset behind it. -/
def Style.apply (style : Style) (text : String) : String :=
  if style.codes.isEmpty then text
  else "\x1b[" ++ String.intercalate ";" (style.codes.map toString) ++ "m" ++ text ++ "\x1b[0m"

/-- The styles of the roles a text can have. -/
structure Theme where
  header : Style
  success : Style
  error : Style
  warn : Style
  info : Style
  dim : Style
  muted : Style
  deriving DecidableEq, Repr

namespace Theme

def plain : Theme := ⟨⟨[]⟩, ⟨[]⟩, ⟨[]⟩, ⟨[]⟩, ⟨[]⟩, ⟨[]⟩, ⟨[]⟩⟩

/-- Bold green, red and yellow for messages, cyan, dimmed white and grey for details. -/
def colored : Theme :=
  ⟨⟨[32, 1]⟩, ⟨[32, 1]⟩, ⟨[31, 1]⟩, ⟨[33, 1]⟩, ⟨[36]⟩, ⟨[37, 2]⟩, ⟨[90]⟩⟩

end Theme

end Arboretum
