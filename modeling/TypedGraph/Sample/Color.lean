/-
The enumeration of the sample model.
-/

namespace TypedGraph
namespace Sample

inductive Color
  | red
  | darkBlue
deriving DecidableEq, Repr

namespace Color

/-- In declaration order. -/
def all : List Color := [.red, .darkBlue]

/-- The literal as declared. -/
def literal : Color → String
  | .red => "RED"
  | .darkBlue => "DARK_BLUE"

def variantName : Color → String
  | .red => "Red"
  | .darkBlue => "DarkBlue"

def ofLiteral? (s : String) : Option Color := all.find? (·.literal == s)

def rank : Color → Nat
  | .red => 0
  | .darkBlue => 1

/-- Variants are ordered as they are declared. -/
def order (a b : Color) : Ordering := compare a.rank b.rank

end Color

end Sample
end TypedGraph
