/-
Which trees are source text.

Most trees are, by their shape.  What can go wrong comes from paths given as
text: one that starts with `try` is no type, and one with arguments directly
after a name is no expression.  Between commas such a path may still be read, as
comparisons.
-/
import TypedGraph.Code.PathReader

namespace TypedGraph
namespace Code

mutual

def Ty.valid : Ty → Bool
  | .path leading segments =>
    (leading || segments.head?.all (fun s => s.name != "try")) && Segment.validAll segments
  | .ref _ _ target => target.valid
  | .slice element => element.valid
  | .array element _ => element.valid
  | .tuple items => Ty.validAll items
  | .parenthesized inner => inner.valid
  | .marked _ target => target.valid
  | .word _ => true

def Ty.validAll : List Ty → Bool
  | [] => true
  | t :: rest => t.valid && Ty.validAll rest

def Segment.validAll : List Segment → Bool
  | [] => true
  | .plain _ :: rest => Segment.validAll rest
  | .generic _ _ args :: rest => Argument.validAll args && Segment.validAll rest
  | .callable _ inputs output :: rest =>
    Ty.validAll inputs && (match output with
      | some t => t.valid
      | none => true) && Segment.validAll rest

def Argument.validAll : List Argument → Bool
  | [] => true
  | .type t :: rest => t.valid && Argument.validAll rest
  | _ :: rest => Argument.validAll rest

end

mutual

def Expr.valid : Expr → Bool
  | .word _ | .name _ => true
  | .path p => p.inExpression && Segment.validAll p.segments
  | .assoc self segments =>
    self.valid && segments.all Segment.inExpression && Segment.validAll segments
  | .call function args => function.valid && Expr.validAll args
  | .method receiver _ generics args => receiver.valid && Ty.validAll generics && Expr.validAll args
  | .field receiver _ => receiver.valid
  | .borrow target => target.valid
  | .array items => Expr.validAll items
  | .closure _ params body => params.all (fun p => p.2.all Ty.valid) && body.valid
  | .block body => Stmt.validAll body
  | .matchOn subject arms => subject.valid && Arm.validAll arms
  | .branch condition yes no =>
    condition.valid && Stmt.validAll yes && (match no with
      | some no => Stmt.validAll no
      | none => true)
  | .binds _ value => value.valid
  | .forEach _ items body => items.valid && Stmt.validAll body
  | .record _ fields => FieldValue.validAll fields
  | .vecOf element count => element.valid && count.valid
  | .infixed left _ right => left.valid && right.valid

def Expr.validAll : List Expr → Bool
  | [] => true
  | e :: rest => e.valid && Expr.validAll rest

def Arm.validAll : List Arm → Bool
  | [] => true
  | .mk _ body :: rest => body.valid && Arm.validAll rest

def FieldValue.validAll : List FieldValue → Bool
  | [] => true
  | .mk _ (some value) :: rest => value.valid && FieldValue.validAll rest
  | .mk _ none :: rest => FieldValue.validAll rest

def Stmt.validAll : List Stmt → Bool
  | [] => true
  | .bind _ t value :: rest => t.all Ty.valid && value.valid && Stmt.validAll rest
  | .expr value _ :: rest => value.valid && Stmt.validAll rest

end

def Bound.valid : Bound → Bool
  | .type t => t.valid
  | .lifetime _ => true

def Param.valid : Param → Bool
  | .receiver _ => true
  | .typed _ t => t.valid

def Generics.valid (g : Generics) : Bool :=
  g.params.all (·.bounds.all Bound.valid) &&
    g.predicates.all fun p => p.type.valid && p.bounds.all Bound.valid

def Signature.valid (s : Signature) : Bool :=
  s.generics.valid && s.params.all Param.valid && s.output.all Ty.valid

def Member.valid : Member → Bool
  | .constant _ _ t value => t.valid && value.valid
  | .type _ target => target.valid
  | .function _ _ s body => s.valid && body.all Stmt.validAll

def Fields.valid : Fields → Bool
  | .named fields | .positional fields => fields.all (·.2.valid)
  | .none => true

def Item.valid : Item → Bool
  | .use .. | .enum .. | .submodule .. => true
  | .constant _ _ t value | .staticValue _ _ t value => t.valid && value.valid
  | .struct _ _ _ generics fields => generics.valid && fields.valid
  | .trait _ _ _ supertraits members => supertraits.all Bound.valid && members.all Member.valid
  | .impl generics implemented target members =>
    generics.valid && implemented.all (fun p => p.ty.valid) && target.valid &&
      members.all Member.valid
  | .function _ _ s body => s.valid && Stmt.validAll body

/-- Whether the text of the file can be read again. -/
def File.valid (f : File) : Bool := f.items.all Item.valid

/-! ## Paths between commas -/

/-- An argument of a path read as an expression. -/
def Argument.asExpr? : Argument → Option Expr
  | .type (.path leading segments) =>
    if segments.all Segment.isPlain then some (.path { leading, segments }) else none
  | .literal text => some (.word text)
  | _ => none

/-- The comparisons that `a<b, c>::d` is between commas. -/
def comparisons? (front : Path) : List Segment → Option (List Expr)
  | [] => none
  | .generic name false args :: rest => do
    let operands ← args.mapM Argument.asExpr?
    match operands, operands.reverse with
    | first :: _ :: _, last :: _ =>
      if rest.isEmpty || !rest.all Segment.isPlain then none
      else
        let compared : Path := { front with segments := front.segments ++ [.plain name] }
        some ([.infixed (.path compared) "<" first] ++ (operands.drop 1).dropLast ++
          [.infixed last ">" (.path { leading := true, segments := rest })])
    | _, _ => none
  | s :: rest => comparisons? { front with segments := front.segments ++ [s] } rest

/-- The expressions that a path is in a list of arguments. -/
def Path.asArguments (p : Path) : List Expr :=
  if p.inExpression then [.path p]
  else (comparisons? { p with segments := [] } p.segments).getD [.path p]

end Code
end TypedGraph
