/-
The trees of generated source code.

A generated file is a list of items in the shapes that accessors need: paths
with type arguments, expressions, statements and declarations.  Names and
literals stand in the trees as text, checked where they come from a model.
-/

namespace TypedGraph
namespace Code

mutual

inductive Ty
  | path (leading : Bool) (segments : List Segment)
  | ref (lifetime : Option String) (mutable : Bool) (target : Ty)
  | slice (element : Ty)
  | array (element : Ty) (length : String)
  | tuple (items : List Ty)
  | parenthesized (inner : Ty)
  /-- A type after words such as `*const`. -/
  | marked (words : String) (target : Ty)
  | word (text : String)

/-- One name of a path, with what it is applied to. -/
inductive Segment
  | plain (name : String)
  /-- Written `name<args>`, or `name::<args>` when `turbofish` is set. -/
  | generic (name : String) (turbofish : Bool) (args : List Argument)
  | callable (name : String) (inputs : List Ty) (output : Option Ty)

inductive Argument
  | type (t : Ty)
  | lifetime (name : String)
  | literal (text : String)

end

/-- Names joined by `::`, with one in front of the first when `leading` is
set. -/
structure Path where
  leading : Bool := false
  segments : List Segment

namespace Path

def ty (p : Path) : Ty := .path p.leading p.segments

def ofNames (names : List String) : Path := { segments := names.map Segment.plain }

/-- `::std::a::b` for `["a", "b"]`. -/
def std (names : List String) : Path :=
  { leading := true, segments := ("std" :: names).map Segment.plain }

/-- The path continued by further names. -/
def join (p : Path) (names : List String) : Path :=
  { p with segments := p.segments ++ names.map Segment.plain }

end Path

namespace Ty

def name (n : String) : Ty := .path false [.plain n]

/-- `n<args>` -/
def app (n : String) (args : List Ty) : Ty :=
  .path false [.generic n false (args.map Argument.type)]

def borrowed (t : Ty) : Ty := .ref none false t

def staticStr : Ty := .ref (some "'static") false (.name "str")

end Ty

mutual

inductive Expr
  /-- A piece of code that is never broken. -/
  | word (text : String)
  | name (ident : String)
  | path (p : Path)
  /-- `<self>::a::b` -/
  | assoc (self : Ty) (segments : List Segment)
  | call (function : Expr) (args : List Expr)
  | method (receiver : Expr) (name : String) (generics : List Ty) (args : List Expr)
  | field (receiver : Expr) (name : String)
  | borrow (target : Expr)
  | array (items : List Expr)
  | closure (moves : Bool) (params : List (String × Option Ty)) (body : Expr)
  | block (body : List Stmt)
  | matchOn (subject : Expr) (arms : List Arm)
  | branch (condition : Expr) (yes : List Stmt) (no : Option (List Stmt))
  /-- `let pattern = value`, as a condition. -/
  | binds (pattern : String) (value : Expr)
  | forEach (pattern : String) (items : Expr) (body : List Stmt)
  | record (name : String) (fields : List FieldValue)
  /-- `vec![element; count]` -/
  | vecOf (element count : Expr)
  /-- `left operator right` -/
  | infixed (left : Expr) (operator : String) (right : Expr)

inductive Arm
  | mk (pattern : String) (body : Expr)

/-- A field without a value takes the variable of its name. -/
inductive FieldValue
  | mk (name : String) (value : Option Expr)

inductive Stmt
  | bind (pattern : String) (type : Option Ty) (value : Expr)
  | expr (value : Expr) (semicolon : Bool)

end

namespace Expr

/-- `receiver.name(args)` -/
def dot (receiver : Expr) (name : String) (args : List Expr) : Expr := .method receiver name [] args

/-- `a::b` for `["a", "b"]`. -/
def names (ns : List String) : Expr := .path (.ofNames ns)

/-- `Self::n` -/
def ofSelf (n : String) : Expr := .names ["Self", n]

/-- `<t>::n` -/
def ofType (t : Ty) (n : String) : Expr := .assoc t [.plain n]

end Expr

namespace Stmt

/-- An expression for its effect. -/
def run (e : Expr) : Stmt := .expr e true

/-- An expression whose value the block has. -/
def value (e : Expr) : Stmt := .expr e false

def bindTo (pattern : String) (e : Expr) : Stmt := .bind pattern none e

end Stmt

inductive Attribute
  /-- A documentation comment, before the item or at the start of the file. -/
  | doc (text : String)
  /-- What stands between `#[` and `]`. -/
  | mark (text : String)

inductive Bound
  | type (t : Ty)
  | lifetime (name : String)

/-- A type parameter with its bounds. -/
structure TypeParam where
  name : String
  bounds : List Bound := []

/-- `type: bounds` in a where clause. -/
structure Predicate where
  type : Ty
  bounds : List Bound

structure Generics where
  params : List TypeParam := []
  predicates : List Predicate := []

inductive Param
  /-- `self` or `&self`. -/
  | receiver (text : String)
  | typed (name : String) (type : Ty)

structure Signature where
  isConst : Bool := false
  name : String
  generics : Generics := {}
  params : List Param := []
  output : Option Ty := none

/-- A member of an implementation or a trait. -/
inductive Member
  | constant (visibility name : String) (type : Ty) (value : Expr)
  | type (name : String) (target : Ty)
  /-- A function without a body is only declared. -/
  | function (attributes : List Attribute) (visibility : String) (signature : Signature)
      (body : Option (List Stmt))

/-- The fields of a structure. -/
inductive Fields
  | named (fields : List (String × Ty))
  | positional (fields : List (String × Ty))
  | none

inductive Item
  /-- `use tree;` -/
  | use (visibility tree : String)
  | constant (visibility name : String) (type : Ty) (value : Expr)
  | staticValue (visibility name : String) (type : Ty) (value : Expr)
  | struct (attributes : List Attribute) (visibility name : String) (generics : Generics)
      (fields : Fields)
  | enum (attributes : List Attribute) (visibility name : String) (variants : List String)
  | trait (attributes : List Attribute) (visibility name : String) (supertraits : List Bound)
      (members : List Member)
  | impl (generics : Generics) (trait : Option Path) (target : Ty) (members : List Member)
  | function (attributes : List Attribute) (visibility : String) (signature : Signature)
      (body : List Stmt)
  | submodule (visibility name : String)

/-- A source file: the documentation of the file, then its items. -/
structure File where
  doc : Option String := none
  items : List Item := []

end Code
end TypedGraph
