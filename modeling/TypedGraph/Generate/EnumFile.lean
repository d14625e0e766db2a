/-
What is generated for an enumeration: a type with one variant per literal, in
declaration order, and the way from literals to variants and back.
-/
import TypedGraph.Generate.AccessorFile

namespace TypedGraph
namespace Generate

open Schema (Enumeration)
open Code (Path Ty Expr Stmt Member Item)

/-- A literal with the variant that stands for it. -/
structure Variant where
  name : String
  literal : String
deriving DecidableEq, Repr

structure EnumPlan where
  fqn : String
  typeName : String
  variants : List Variant
deriving DecidableEq, Repr

namespace EnumPlan

/-- The variants of literals, no two of which may have the same Pascal-case
name. -/
def planVariants (fqn : String) (seen : List String) :
    List String → Except GenerateError (List Variant)
  | [] => return []
  | literal :: rest => do
    let name := Text.pascalCase literal
    if seen.contains name then
      .error (.invalidIdentifier ("a second literal of '" ++ fqn ++ "'") literal)
    else
      let variant ← checkedIdent name ("literal of '" ++ fqn ++ "'")
      return ⟨variant, literal⟩ :: (← planVariants fqn (name :: seen) rest)

def of (e : Enumeration) : Except GenerateError EnumPlan := do
  let fqn := e.ident.fqn
  let typeName ← checkedIdent e.ident.name ("enum '" ++ fqn ++ "'")
  let variants ← planVariants fqn [] e.literals
  return { fqn, typeName, variants }

def file (p : EnumPlan) : Code.File :=
  let type := Ty.name p.typeName
  { doc := some (headerDoc p.fqn)
    items := [
      .enum [derive ["Clone", "Copy", "Debug", "Eq", "Hash", "Ord", "PartialEq", "PartialOrd"]]
        "pub " p.typeName (p.variants.map Variant.name),
      .impl {} none type [
        .constant "pub " "ALL" (.ref (some "'static") false (.slice (.name "Self")))
          (.borrow (.array (p.variants.map fun v => .ofSelf v.name))),
        .function [.doc " Literal as declared in the model.", mustUse] "pub "
          { isConst := true, name := "literal", params := [.receiver "self"],
            output := some .staticStr }
          (some [.value (.matchOn selfName
            (p.variants.map fun v => .mk ("Self::" ++ v.name) (Generate.literal v.literal)))]),
        method [mustUse] "from_literal" [.typed "literal" (.borrowed (.name "str"))]
          (some (.app "Option" [.name "Self"]))
          [.value (.dot (.dot (.dot (.names ["Self", "ALL"]) "iter" []) "copied" []) "find"
            [.closure false [("v", none)]
              (.infixed (.dot (.name "v") "literal" []) "==" (.name "literal"))])]],
      .impl {} (some (.std ["fmt", "Display"])) type [
        traitMethod "fmt"
          [refSelf, .typed "f" (.ref none true (.path true
            [.plain "std", .plain "fmt", .generic "Formatter" false [.lifetime "'_"]]))]
          (some (Path.std ["fmt", "Result"]).ty)
          [.value (.dot (.name "f") "write_str" [.dot selfName "literal" []])]]] }

end EnumPlan

/-- The type of an enumeration as an artifact. -/
def enumArtifact (e : Enumeration) : Except GenerateError Artifact := do
  let plan ← EnumPlan.of e
  Artifact.render e.ident.name e.ident.modulePackage .enumeration plan.file

end Generate
end TypedGraph
