/-
Nodes that learn.

A learner keeps the last value that it learned, and extrapolates just that.
-/
import TypedGraph.Nodes.Graph

namespace TypedGraph
namespace Nodes
namespace Learner

/-- Type name of learners. -/
def nodeName : String := "PolynomialNode"

/-- Attribute that the value is kept in. -/
def valueKey : String := "value"

/-- Registers learners. -/
def plugin : Plugin := { factories := [(nodeName, .learner)] }

def learn (g : Graph) (n : Node) (value : Value) : Graph := g.setParameter n valueKey value

def extrapolate (g : Graph) (n : Node) (k : ValueKind) : Option k.type := g.get n valueKey k

/-- The first learner among nodes. -/
def first? (nodes : List Node) : Option Node := nodes.findSome? (·.downcast? .learner)

end Learner
end Nodes
end TypedGraph
