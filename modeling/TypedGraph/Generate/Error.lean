/-
Why a generation run ends without artifacts.
-/
import TypedGraph.Schema.Name

namespace TypedGraph
namespace Generate

open Schema (SchemaError)

inductive GenerateError
  | unresolvedAttributeType (className property type : String)
  | invalidIdentifier (context value : String)
  | invalidPath (context value : String)
  /-- The generated text of an artifact cannot be read again. -/
  | unreadable (artifact : String)
  | schema (e : SchemaError)
deriving DecidableEq, Repr

namespace GenerateError

def message : GenerateError → String
  | .unresolvedAttributeType className property type =>
    "attribute '" ++ property ++ "' on '" ++ className ++ "' has type '" ++ type ++
      "', which is not one of Boolean, Double, Integer, Long, String"
  | .invalidIdentifier context value =>
    "'" ++ value ++ "' is not a valid identifier for " ++ context
  | .invalidPath context value => "'" ++ value ++ "' is not a valid path for " ++ context
  | .unreadable artifact => "generated code for '" ++ artifact ++ "' does not parse"
  | .schema e => e.message

end GenerateError

end Generate
end TypedGraph
