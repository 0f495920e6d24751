import CallLight.Position

/-!
# Tokens

A token marks a piece of a text for the editor. Its type is an index into the legend that the server
advertises, its modifiers a bit set over the legend's modifiers.
-/

namespace CallLight

/-- An index into the legend's token types. -/
structure TokenType where
  index : UInt32
deriving DecidableEq, Repr

/-- A bit set over the legend's token modifiers. -/
structure TokenModifiers where
  bits : UInt32
deriving DecidableEq, Repr

/-- The names behind the numbers of tokens. -/
structure Legend where
  types : List String
  modifiers : List String

/-- The advertised legend. -/
def legend : Legend := ⟨["function"], ["declaration"]⟩

namespace TokenType

/-- A call of a declared procedure. -/
def function : TokenType := ⟨0⟩

/-- The name of the type in the legend. -/
def name (t : TokenType) : String := (legend.types[t.index.toNat]?).getD "unknown"

end TokenType

namespace TokenModifiers

/-- No modifiers. -/
def none : TokenModifiers := ⟨0⟩

/-- The one modifier of the legend, which every call carries. -/
def declaration : TokenModifiers := ⟨1⟩

/-- The name of the set. -/
def name (m : TokenModifiers) : String :=
  if m = none then "none" else if m = declaration then "declaration" else "unknown"

end TokenModifiers

/-- A marked piece of a text. -/
structure Token where
  type : TokenType
  modifiers : TokenModifiers
  span : Span
deriving DecidableEq, Repr

end CallLight
