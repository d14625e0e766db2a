/-
What the code of an enumeration computes.

The few forms of expressions that enumerations are written with have values here, and
so have the constants and the methods of a type that a file implements.  A variant hides
a constant of its name, and a constant or a method of types that the file itself declares
anew is no code.  On these terms the variants of an enumeration and its literals correspond.
-/
import TypedGraph.Generate.EnumFile
import TypedGraph.Proofs.FileMembers
import TypedGraph.Proofs.Placement
import TypedGraph.Proofs.StringLiterals

namespace TypedGraph
namespace Code

theorem identifier?_not_keyword {text name : String} (h : identifier? text = some name) :
    name ∉ keywords := by
  unfold identifier? at h
  split at h
  · split at h
    · exact nomatch h
    · next hword =>
      rw [← Option.some.inj h]
      exact fun hmem => hword (List.contains_iff_mem.mpr hmem)
  · exact nomatch h

inductive Datum
  | text (content : String)
  | truth (b : Bool)
  | variant (name : String)
  /-- A slice, and what iterates over it. -/
  | list (items : List Datum)
  | option (item : Option Datum)

/-- What the names in an expression stand for. -/
structure Meanings where
  /-- Of constants of the type itself. -/
  constant : String → Option Datum
  /-- Of methods of the type itself, called on a value. -/
  method : String → Datum → Option Datum
  locals : List (String × Datum) := []

namespace Meanings

def bind (m : Meanings) (name : String) (d : Datum) : Meanings :=
  { m with locals := (name, d) :: m.locals }

end Meanings

/-- The first item that a test holds of.  The test has to come to an answer for every
item before that. -/
def firstHeld? (test : Datum → Option Datum) : List Datum → Option (Option Datum)
  | [] => some none
  | d :: rest =>
    match test d with
    | some (.truth true) => some (some d)
    | some (.truth false) => firstHeld? test rest
    | _ => none

/-- Texts are compared with each other. -/
def Datum.equal? : Datum → Datum → Option Datum
  | .text a, .text b => some (.truth (a == b))
  | _, _ => none

mutual

/-- The value of an expression, unless it is of another form or makes no sense. -/
def Expr.eval? (m : Meanings) : Expr → Option Datum
  | .word text => (Text.unquote? text).map .text
  | .name n => m.locals.lookup n
  | .path ⟨false, [.plain "Self", .plain n]⟩ => m.constant n
  | .borrow target => target.eval? m
  | .array items => (Expr.evalAll? m items).map .list
  | .matchOn subject arms => (subject.eval? m).bind (Arm.select? m · arms)
  | .infixed left "==" right => (left.eval? m).bind fun l => (right.eval? m).bind l.equal?
  | .method receiver name [] args => (receiver.eval? m).bind (Expr.callOn? m name · args)
  | _ => none

def Expr.evalAll? (m : Meanings) : List Expr → Option (List Datum)
  | [] => some []
  | e :: rest => (e.eval? m).bind fun d => (Expr.evalAll? m rest).map (d :: ·)

/-- A method called on a value. -/
def Expr.callOn? (m : Meanings) (name : String) (receiver : Datum) : List Expr → Option Datum
  | [] =>
    match receiver with
    | .list items => if name = "iter" ∨ name = "copied" then some (.list items) else none
    | _ => m.method name receiver
  | [.closure false [(v, none)] body] =>
    match receiver with
    | .list items =>
      if name = "find" then (firstHeld? (fun d => body.eval? (m.bind v d)) items).map .option
      else none
    | _ => none
  | _ => none

/-- The value of the arm of a variant. -/
def Arm.select? (m : Meanings) : Datum → List Arm → Option Datum
  | .variant name, .mk pattern body :: rest =>
    if pattern = "Self::" ++ name then body.eval? m else Arm.select? m (.variant name) rest
  | _, _ => none

end

mutual

/-- The names that a type starts from. -/
def Ty.heads : Ty → List String
  | .path true _ => []
  | .path false segments => (segments.head?.map Segment.name).toList ++ Segment.headsAll segments
  | .ref _ _ target => target.heads
  | .slice element => element.heads
  | .array element _ => element.heads
  | .tuple items => Ty.headsAll items
  | .parenthesized inner => inner.heads
  | .marked _ target => target.heads
  | .word _ => []

def Ty.headsAll : List Ty → List String
  | [] => []
  | t :: rest => t.heads ++ Ty.headsAll rest

def Segment.headsAll : List Segment → List String
  | [] => []
  | .plain _ :: rest => Segment.headsAll rest
  | .generic _ _ args :: rest => Argument.headsAll args ++ Segment.headsAll rest
  | .callable _ inputs output :: rest =>
    Ty.headsAll inputs ++ (match output with
      | some t => t.heads
      | none => []) ++ Segment.headsAll rest

def Argument.headsAll : List Argument → List String
  | [] => []
  | .type t :: rest => t.heads ++ Argument.headsAll rest
  | _ :: rest => Argument.headsAll rest

end

namespace File

variable (f : File)

def variants : List String :=
  f.items.flatMap fun
    | .enum _ _ _ names => names
    | _ => []

/-- The types that the file declares.  The mark of a raw identifier is no part of a name. -/
def typeNames : List String :=
  f.items.flatMap fun
    | .enum _ _ name _ | .struct _ _ name .. | .trait _ _ name .. => [fileName name]
    | _ => []

/-- No name in the type is one that the file gives to a type of its own.  Nothing is
called `Self` beside the type itself. -/
def knows (t : Ty) : Bool := t.heads.all fun name => name = "Self" || !f.typeNames.contains name

def variant? (name : String) : Option Datum :=
  if name ∈ f.variants then some (.variant name) else none

end File

def Param.name : Param → String
  | .receiver _ => "self"
  | .typed name _ => name

def Param.type? : Param → Option Ty
  | .receiver _ => none
  | .typed _ type => some type

def Signature.types (s : Signature) : List Ty := s.params.filterMap Param.type? ++ s.output.toList

namespace Member

/-- What a constant of a name and of known types is defined as. -/
def constant? (known : Ty → Bool) (name : String) : Member → Option Expr
  | .constant _ n t value => if n = name ∧ known t then some value else none
  | _ => none

/-- The parameters and the body of a method of a name and of known types. -/
def method? (known : Ty → Bool) (name : String) : Member → Option (List String × Expr)
  | .function _ _ signature (some [.expr body false]) =>
    if signature.name = name ∧ signature.types.all known then
      some (signature.params.map Param.name, body)
    else none
  | _ => none

end Member

namespace File

variable (f : File)

/-- The value of a constant of the type, which may refer to variants.  A variant of the
name comes first. -/
def constant? (name : String) : Option Datum :=
  (f.variant? name).or
    ((f.inherentMembers.findSome? (Member.constant? f.knows name)).bind
      (Expr.eval? { constant := f.variant?, method := fun _ _ => none }))

/-- What names mean in a method, in terms of the methods that it calls. -/
def meanings (call : String → List Datum → Option Datum) (locals : List (String × Datum)) :
    Meanings where
  constant := f.constant?
  method name receiver := call name [receiver]
  locals := locals

/-- The value of a method of the type, where calls are nested to a depth at most. -/
def call? : Nat → String → List Datum → Option Datum
  | 0, _, _ => none
  | depth + 1, name, args =>
    (f.inherentMembers.findSome? (Member.method? f.knows name)).bind fun (params, body) =>
      if params.length = args.length then body.eval? (f.meanings (call? depth) (params.zip args))
      else none

/-- The value of a method, with calls nested as deep as need be. -/
def Returns (name : String) (args : List Datum) (d : Datum) : Prop :=
  ∃ least, ∀ depth, least ≤ depth → f.call? depth name args = some d

/-- The variants of a type are those of given literals, in the order of the literals. -/
structure Corresponds (literals : List String) : Prop where
  distinct : f.variants.Nodup
  all : f.constant? "ALL" = some (.list (f.variants.map .variant))
  literal : List.Forall₂ (fun v l => f.Returns "literal" [.variant v] (.text l)) f.variants literals
  injective : ∀ v ∈ f.variants, ∀ w ∈ f.variants, ∀ d,
    f.Returns "literal" [.variant v] d → f.Returns "literal" [.variant w] d → v = w
  fromLiteral : ∀ v ∈ f.variants, ∀ d, f.Returns "literal" [.variant v] d →
    f.Returns "from_literal" [d] (.option (some (.variant v)))
  undeclared : ∀ text, text ∉ literals → f.Returns "from_literal" [.text text] (.option none)

variable {f} {name : String} {args : List Datum} {d d' : Datum}

theorem Returns.unique (h : f.Returns name args d) (h' : f.Returns name args d') : d = d' := by
  obtain ⟨m, hm⟩ := h
  obtain ⟨n, hn⟩ := h'
  rw [← Option.some_inj, ← hm (max m n) (Nat.le_max_left m n)]
  exact hn (max m n) (Nat.le_max_right m n)

theorem not_returns (h : ∀ depth, f.call? depth name args = none) (d : Datum) :
    ¬ f.Returns name args d := by
  rintro ⟨least, hd⟩
  have hvalue := hd least (Nat.le_refl least)
  rw [h least] at hvalue
  cases hvalue

end File

/-- The first item that a test on made values holds of. -/
theorem firstHeld?_map {α : Type} {make : α → Datum} {test : Datum → Option Datum} {held : α → Bool}
    {as : List α} (h : ∀ a ∈ as, test (make a) = some (.truth (held a))) :
    firstHeld? test (as.map make) = some ((as.find? held).map make) := by
  induction as with
  | nil => rfl
  | cons a rest ih =>
    obtain ⟨ha, hrest⟩ := List.forall_mem_cons.mp h
    rw [List.map_cons, firstHeld?, ha, List.find?_cons]
    cases held a with
    | true => rfl
    | false => exact ih hrest

end Code

namespace Generate

open Schema (Enumeration)
open Code (Arm Datum Expr Item Meanings Member Stmt Ty)

/-! ## Plans -/

namespace EnumPlan

variable {p : EnumPlan} {fqn : String} {seen literals : List String} {variants : List Variant}

theorem planVariants_ok (h : planVariants fqn seen literals = .ok variants) :
    variants.map Variant.literal = literals ∧
    ∀ v ∈ variants, Code.identifier? (Text.pascalCase v.literal) = some v.name := by
  induction literals generalizing seen variants with
  | nil =>
    rw [← Except.ok.inj h]
    exact ⟨rfl, List.forall_mem_nil _⟩
  | cons literal rest ih =>
    simp only [planVariants] at h
    split at h
    · cases h
    · simp only [bind_eq_ok] at h
      obtain ⟨name, hname, others, hothers, h⟩ := h
      obtain ⟨hliterals, hnames⟩ := ih hothers
      rw [← Except.ok.inj h]
      exact ⟨congrArg (literal :: ·) hliterals,
        List.forall_mem_cons.mpr ⟨checkedIdent_eq_ok.mp hname, hnames⟩⟩

/-- Literals have variants when their names are identifiers and differ from each other
and from those seen before.  A literal is seen by those after it, so the names differ in
pairs. -/
theorem exists_planVariants_iff : (∃ variants, planVariants fqn seen literals = .ok variants) ↔
    (literals.map Text.pascalCase).Nodup ∧
    ∀ l ∈ literals, Text.pascalCase l ∉ seen ∧ Code.identifier? (Text.pascalCase l) ≠ none := by
  induction literals generalizing seen with
  | nil => exact iff_of_true ⟨[], rfl⟩ ⟨List.nodup_nil, List.forall_mem_nil _⟩
  | cons literal rest ih =>
    rw [List.map_cons, List.nodup_cons, List.forall_mem_cons]
    simp only [planVariants]
    split
    · next hseen =>
      refine iff_of_false ?_ fun h => h.2.1.1 (List.contains_iff_mem.mp hseen)
      rintro ⟨variants, h⟩
      cases h
    · next hnew =>
      constructor
      · rintro ⟨variants, h⟩
        simp only [bind_eq_ok] at h
        obtain ⟨name, hname, others, hothers, -⟩ := h
        obtain ⟨hnodup, hrest⟩ := ih.mp ⟨others, hothers⟩
        refine ⟨⟨fun hmem => ?_, hnodup⟩, ⟨fun hs => hnew (List.contains_iff_mem.mpr hs), ?_⟩,
          fun l hl => ⟨fun hs => (hrest l hl).1 (List.mem_cons_of_mem _ hs), (hrest l hl).2⟩⟩
        · obtain ⟨l, hl, heq⟩ := List.mem_map.mp hmem
          exact (hrest l hl).1 (heq ▸ List.mem_cons_self)
        · rw [checkedIdent_eq_ok.mp hname]
          exact Option.some_ne_none name
      · rintro ⟨⟨hnot, hnodup⟩, ⟨-, hident⟩, hrest⟩
        obtain ⟨name, hname⟩ := Option.ne_none_iff_exists'.mp hident
        have hunseen : ∀ l ∈ rest, Text.pascalCase l ∉ Text.pascalCase literal :: seen := by
          intro l hl hmem
          rcases List.mem_cons.mp hmem with heq | hseen
          · exact hnot (heq ▸ List.mem_map_of_mem hl)
          · exact (hrest l hl).1 hseen
        obtain ⟨others, hothers⟩ :=
          ih.mpr ⟨hnodup, fun l hl => ⟨hunseen l hl, (hrest l hl).2⟩⟩
        exact ⟨_, bind_eq_ok.mpr ⟨name, checkedIdent_eq_ok.mpr hname,
          bind_eq_ok.mpr ⟨others, hothers, rfl⟩⟩⟩

/-! ## Files -/

/-- The constant that lists the variants. -/
def allMember (p : EnumPlan) : Member :=
  .constant "pub " "ALL" (.ref (some "'static") false (.slice (.name "Self")))
    (.borrow (.array (p.variants.map fun v => .ofSelf v.name)))

/-- The method from a variant to its literal. -/
def literalMember (p : EnumPlan) : Member :=
  .function [.doc " Literal as declared in the model.", mustUse] "pub "
    { isConst := true, name := "literal", params := [.receiver "self"], output := some .staticStr }
    (some [.value (.matchOn selfName
      (p.variants.map fun v => .mk ("Self::" ++ v.name) (Generate.literal v.literal)))])

/-- The variants are searched for the one with a literal. -/
def fromLiteralBody : Expr :=
  .dot (.dot (.dot (.names ["Self", "ALL"]) "iter" []) "copied" []) "find"
    [.closure false [("v", none)] (.infixed (.dot (.name "v") "literal" []) "==" (.name "literal"))]

/-- The method from a literal to its variant. -/
def fromLiteralMember : Member :=
  method [mustUse] "from_literal" [.typed "literal" (.borrowed (.name "str"))]
    (some (.app "Option" [.name "Self"])) [.value fromLiteralBody]

theorem file_members : p.file.inherentMembers = [p.allMember, p.literalMember, fromLiteralMember] :=
  rfl

theorem allMember_valid : p.allMember.valid = true := by
  have h : ∀ vs : List Variant, Expr.validAll (vs.map fun v => .ofSelf v.name) = true := by
    intro vs
    induction vs with
    | nil => rfl
    | cons v rest ih => exact ih
  exact h p.variants

theorem literalMember_valid : p.literalMember.valid = true := by
  have h : ∀ vs : List Variant, Arm.validAll
      (vs.map fun v => .mk ("Self::" ++ v.name) (Generate.literal v.literal)) = true := by
    intro vs
    induction vs with
    | nil => rfl
    | cons v rest ih => exact ih
  have hbody : Stmt.validAll [.value (.matchOn selfName
      (p.variants.map fun v => .mk ("Self::" ++ v.name) (Generate.literal v.literal)))] = true := by
    simp [Stmt.validAll, Stmt.value, Expr.valid, selfName, h]
  rw [literalMember, Member.valid, Option.all_some, hbody]
  rfl

theorem file_valid (h : p.typeName ≠ "try") : p.file.valid = true := by
  have htype : (Ty.name p.typeName).valid = true := by
    simp [Ty.name, Ty.valid, Code.Segment.validAll, Code.Segment.name, h]
  have himpl : (Item.impl {} none (.name p.typeName)
      [p.allMember, p.literalMember, fromLiteralMember]).valid = true := by
    simp only [Item.valid, List.all_cons, htype, allMember_valid, literalMember_valid]
    rfl
  show (true && ((Item.impl {} none (.name p.typeName)
    [p.allMember, p.literalMember, fromLiteralMember]).valid && _)) = true
  rw [himpl]
  simp only [List.all_cons, Item.valid, htype]
  rfl

theorem file_variants : p.file.variants = p.variants.map Variant.name := by
  simp [Code.File.variants, file]

theorem file_typeNames : p.file.typeNames = [Code.fileName p.typeName] := rfl

/-- No name of the type or of a variant hides what the code of the type refers to. -/
structure HidesNothing (p : EnumPlan) : Prop where
  type : Code.fileName p.typeName ∉ ["Option", "str"]
  all : "ALL" ∉ p.variants.map Variant.name
  distinct : (p.variants.map Variant.name).Nodup

theorem file_variant? {v : Variant} (hv : v ∈ p.variants) :
    p.file.variant? v.name = some (.variant v.name) := by
  rw [Code.File.variant?, file_variants, if_pos (List.mem_map_of_mem hv)]

theorem evalAll?_variants {m : Meanings} {vs : List Variant}
    (h : ∀ v ∈ vs, m.constant v.name = some (.variant v.name)) :
    Expr.evalAll? m (vs.map fun v => .ofSelf v.name) = some (vs.map fun v => .variant v.name) := by
  induction vs with
  | nil => rfl
  | cons v rest ih =>
    obtain ⟨hv, hrest⟩ := List.forall_mem_cons.mp h
    have heval : (Expr.ofSelf v.name).eval? m = some (.variant v.name) := hv
    rw [List.map_cons, Expr.evalAll?, heval, ih hrest]
    rfl

/-- The arm of a variant is the first with its name. -/
theorem select?_arms {m : Meanings} {vs : List Variant} {v : Variant}
    (h : (vs.map Variant.name).Nodup) (hv : v ∈ vs) :
    Arm.select? m (.variant v.name)
      (vs.map fun v => .mk ("Self::" ++ v.name) (Generate.literal v.literal)) =
      some (.text v.literal) := by
  induction vs with
  | nil => exact absurd hv List.not_mem_nil
  | cons w rest ih =>
    rw [List.map_cons, List.nodup_cons] at h
    rw [List.map_cons, Arm.select?]
    rcases List.mem_cons.mp hv with rfl | hrest
    · rw [if_pos rfl, Generate.literal, Expr.eval?, Text.unquote?_quote]
      rfl
    · have hne : "Self::" ++ w.name ≠ "Self::" ++ v.name := fun heq =>
        h.1 ((String.append_right_inj "Self::").mp heq ▸ List.mem_map_of_mem hrest)
      rw [if_neg hne]
      exact ih h.2 hrest

theorem eval?_fromLiteralBody {m : Meanings} {vs : List Variant} {text : String}
    (hall : m.constant "ALL" = some (.list (vs.map fun v => .variant v.name)))
    (hliteral : ∀ v ∈ vs, m.method "literal" (.variant v.name) = some (.text v.literal))
    (htext : m.locals.lookup "literal" = some (.text text)) :
    fromLiteralBody.eval? m =
      some (.option ((vs.find? (·.literal == text)).map fun v => .variant v.name)) := by
  have hitems : (Expr.dot (.dot (.names ["Self", "ALL"]) "iter" []) "copied" []).eval? m =
      some (.list (vs.map fun v => .variant v.name)) := by
    show ((m.constant "ALL").bind _).bind _ = _
    rw [hall]
    rfl
  have htest : ∀ v ∈ vs, (Expr.infixed (.dot (.name "v") "literal" []) "==" (.name "literal")).eval?
      (m.bind "v" (.variant v.name)) = some (.truth (v.literal == text)) := by
    intro v hv
    show (m.method "literal" (.variant v.name)).bind (fun l => (m.locals.lookup "literal").bind _) = _
    rw [hliteral v hv, htext]
    rfl
  rw [fromLiteralBody, Expr.dot, Expr.eval?, hitems, Option.bind_some, Expr.callOn?, if_pos rfl,
    Code.firstHeld?_map htest]
  rfl

/-- A variant has no items. -/
theorem eval?_fromLiteralBody_hidden {m : Meanings}
    (hall : m.constant "ALL" = some (.variant "ALL"))
    (hiter : m.method "iter" (.variant "ALL") = none) : fromLiteralBody.eval? m = none := by
  have hitems : (Expr.dot (.names ["Self", "ALL"]) "iter" []).eval? m = none := by
    show (m.constant "ALL").bind _ = none
    rw [hall]
    exact hiter
  show (Option.bind (Expr.eval? m (.dot (.names ["Self", "ALL"]) "iter" [])) _).bind _ = none
  rw [hitems]
  rfl

theorem find?_literal {v : Variant} (h : (p.variants.map Variant.literal).Nodup)
    (hv : v ∈ p.variants) : p.variants.find? (·.literal == v.literal) = some v := by
  have hfound : (p.variants.find? (·.literal == v.literal)).isSome :=
    List.find?_isSome.mpr ⟨v, hv, beq_self_eq_true v.literal⟩
  obtain ⟨w, hw⟩ := Option.isSome_iff_exists.mp hfound
  have hliteral : w.literal = v.literal := by simpa using List.find?_some hw
  rw [hw, List.inj_on_of_nodup_map h (List.mem_of_find?_eq_some hw) hv hliteral]

namespace HidesNothing

variable (hp : p.HidesNothing)
include hp

theorem known {ts : List Ty} (h : ts.all (·.heads.all ["Self", "Option", "str"].contains) = true) :
    ts.all p.file.knows = true := by
  simp only [List.all_eq_true, List.contains_iff_mem] at h
  simp only [List.all_eq_true, Code.File.knows, file_typeNames]
  intro t ht name hname
  rcases List.mem_cons.mp (h t ht name hname) with hself | hother
  · rw [hself]
    rfl
  · have hne : name ≠ Code.fileName p.typeName := fun heq => hp.type (heq ▸ hother)
    simp [hne]

theorem constant?_all :
    p.file.constant? "ALL" = some (.list (p.variants.map fun v => .variant v.name)) := by
  have hvariant : p.file.variant? "ALL" = none := by
    rw [Code.File.variant?, file_variants, if_neg hp.all]
  have hmember : p.file.inherentMembers.findSome? (Member.constant? p.file.knows "ALL") =
      some (.borrow (.array (p.variants.map fun v => .ofSelf v.name))) := by
    have htype : [.ref (some "'static") false (.slice (.name "Self"))].all p.file.knows = true :=
      hp.known rfl
    rw [List.all_cons, Bool.and_eq_true] at htype
    rw [file_members, List.findSome?_cons, allMember, Member.constant?, if_pos ⟨rfl, htype.1⟩]
  rw [Code.File.constant?, hvariant, Option.none_or, hmember, Option.bind_some, Expr.eval?, Expr.eval?,
    evalAll?_variants fun v hv => file_variant? hv]
  rfl

theorem call?_literal {v : Variant} (hv : v ∈ p.variants) (depth : Nat) :
    p.file.call? (depth + 1) "literal" [.variant v.name] = some (.text v.literal) := by
  have hmethod : Member.method? p.file.knows "literal" p.literalMember =
      some (["self"], .matchOn selfName
        (p.variants.map fun v => .mk ("Self::" ++ v.name) (Generate.literal v.literal))) :=
    if_pos ⟨rfl, hp.known rfl⟩
  rw [Code.File.call?, file_members, List.findSome?_cons_of_isNone rfl, List.findSome?_cons, hmethod]
  exact select?_arms hp.distinct hv

theorem call?_fromLiteral (text : String) (depth : Nat) :
    p.file.call? (depth + 2) "from_literal" [.text text] =
      some (.option ((p.variants.find? (·.literal == text)).map fun v => .variant v.name)) := by
  have hmethod : Member.method? p.file.knows "from_literal" fromLiteralMember =
      some (["literal"], fromLiteralBody) := if_pos ⟨rfl, hp.known rfl⟩
  rw [Code.File.call?, file_members, List.findSome?_cons_of_isNone rfl,
    List.findSome?_cons_of_isNone rfl, List.findSome?_cons, hmethod]
  exact eval?_fromLiteralBody hp.constant?_all (fun v hv => hp.call?_literal hv depth) rfl

theorem returns_literal {v : Variant} (hv : v ∈ p.variants) :
    p.file.Returns "literal" [.variant v.name] (.text v.literal) := by
  refine ⟨1, fun depth hdepth => ?_⟩
  obtain ⟨n, rfl⟩ := Nat.exists_eq_add_of_le' hdepth
  exact hp.call?_literal hv n

theorem returns_fromLiteral {text : String} {found : Option Variant}
    (h : p.variants.find? (·.literal == text) = found) :
    p.file.Returns "from_literal" [.text text] (.option (found.map fun v => .variant v.name)) := by
  refine ⟨2, fun depth hdepth => ?_⟩
  obtain ⟨n, rfl⟩ := Nat.exists_eq_add_of_le' hdepth
  rw [hp.call?_fromLiteral, h]

theorem corresponds (hliterals : (p.variants.map Variant.literal).Nodup) :
    p.file.Corresponds (p.variants.map Variant.literal) := by
  constructor
  case distinct =>
    rw [file_variants]
    exact hp.distinct
  case all =>
    rw [hp.constant?_all, file_variants, List.map_map]
    rfl
  case literal =>
    rw [file_variants, List.forall₂_map_left_iff, List.forall₂_map_right_iff, List.forall₂_same]
    exact fun v hv => hp.returns_literal hv
  case injective =>
    rw [file_variants]
    intro _ hname _ hname' d hd hd'
    obtain ⟨v, hv, rfl⟩ := List.mem_map.mp hname
    obtain ⟨w, hw, rfl⟩ := List.mem_map.mp hname'
    have hv' := (hp.returns_literal hv).unique hd
    have hw' := (hp.returns_literal hw).unique hd'
    have hliteral : v.literal = w.literal := Datum.text.inj (hv'.trans hw'.symm)
    rw [List.inj_on_of_nodup_map hliterals hv hw hliteral]
  case fromLiteral =>
    rw [file_variants]
    intro _ hname d hd
    obtain ⟨v, hv, rfl⟩ := List.mem_map.mp hname
    rw [← (hp.returns_literal hv).unique hd]
    exact hp.returns_fromLiteral (find?_literal hliterals hv)
  case undeclared =>
    intro text htext
    have hnone : p.variants.find? (·.literal == text) = none := by
      refine List.find?_eq_none.mpr fun v hv => ?_
      rw [beq_iff_eq]
      exact fun hsame => htext (hsame ▸ List.mem_map_of_mem hv)
    exact hp.returns_fromLiteral hnone

end HidesNothing

/-- Behind a variant `ALL` the list of variants is lost, and with it the way from literals
to variants. -/
theorem call?_hidden (h : "ALL" ∈ p.variants.map Variant.name) (depth : Nat) (text : String) :
    p.file.call? depth "from_literal" [.text text] = none := by
  have hall : p.file.constant? "ALL" = some (.variant "ALL") := by
    rw [Code.File.constant?, Code.File.variant?, file_variants, if_pos h, Option.some_or]
  have hiter (depth : Nat) : p.file.call? depth "iter" [.variant "ALL"] = none := by
    cases depth <;> rfl
  cases depth with
  | zero => rfl
  | succ depth =>
    rw [Code.File.call?, Option.bind_eq_none_iff]
    intro found hfound
    rw [file_members, List.findSome?_cons_of_isNone rfl, List.findSome?_cons_of_isNone rfl] at hfound
    -- Whether the types of the method are known is not asked: its body has no value.
    obtain ⟨member, hmember, hmethod⟩ := List.exists_of_findSome?_eq_some hfound
    rw [List.mem_singleton.mp hmember] at hmethod
    rw [← Option.some.inj (Option.ite_none_right_eq_some.mp hmethod).2]
    exact eval?_fromLiteralBody_hidden hall (hiter depth)

/-- A type that is called like one in the signature takes its place there. -/
theorem call?_unknown (h : Code.fileName p.typeName ∈ ["Option", "str"]) (depth : Nat)
    (args : List Datum) : p.file.call? depth "from_literal" args = none := by
  have hmethod : Member.method? p.file.knows "from_literal" fromLiteralMember = none := by
    refine if_neg fun hknown => ?_
    have hheads : ∀ n ∈ ["Option", "str"], n ≠ Code.fileName p.typeName := by
      simpa [Code.Signature.types, Code.Param.type?, Code.File.knows, file_typeNames, Ty.heads,
        Ty.borrowed, Ty.name, Ty.app, Code.Segment.name, Code.Segment.headsAll,
        Code.Argument.headsAll, and_comm] using hknown.2
    exact hheads _ h rfl
  cases depth with
  | zero => rfl
  | succ depth =>
    rw [Code.File.call?, file_members, List.findSome?_cons_of_isNone rfl,
      List.findSome?_cons_of_isNone rfl, List.findSome?_cons, hmethod]
    rfl

theorem of_eq_ok {e : Enumeration} : EnumPlan.of e = .ok p ↔
    Code.identifier? e.ident.name = some p.typeName ∧
    planVariants e.ident.fqn [] e.literals = .ok p.variants ∧ p.fqn = e.ident.fqn := by
  simp only [EnumPlan.of, bind_eq_ok]
  constructor
  · rintro ⟨typeName, htype, variants, hvariants, h⟩
    rw [← Except.ok.inj h]
    exact ⟨checkedIdent_eq_ok.mp htype, hvariants, rfl⟩
  · rintro ⟨htype, hvariants, hfqn⟩
    refine ⟨p.typeName, checkedIdent_eq_ok.mpr htype, p.variants, hvariants, ?_⟩
    rw [← hfqn]
    rfl

end EnumPlan

section

variable {e : Enumeration}

theorem enumArtifact_of_plan {p : EnumPlan} (h : EnumPlan.of e = .ok p) :
    enumArtifact e =
      .ok { name := e.ident.name, package := e.ident.modulePackage, kind := .enumeration,
            body := p.file.text } := by
  have hvalid : p.file.valid = true := by
    refine EnumPlan.file_valid fun heq => ?_
    have hword := Code.identifier?_not_keyword (EnumPlan.of_eq_ok.mp h).1
    rw [heq] at hword
    exact hword (by decide)
  rw [enumArtifact, h]
  exact if_pos hvalid

theorem exists_enumArtifact_iff : (∃ a, enumArtifact e = .ok a) ↔
    Code.identifier? e.ident.name ≠ none ∧ (e.literals.map Text.pascalCase).Nodup ∧
    ∀ l ∈ e.literals, Code.identifier? (Text.pascalCase l) ≠ none := by
  have hplan : (∃ a, enumArtifact e = .ok a) ↔ ∃ p, EnumPlan.of e = .ok p := by
    constructor
    · rintro ⟨a, h⟩
      obtain ⟨p, hp, -⟩ := bind_eq_ok.mp h
      exact ⟨p, hp⟩
    · rintro ⟨p, hp⟩
      exact ⟨_, enumArtifact_of_plan hp⟩
  have hvariants : (∃ vs, EnumPlan.planVariants e.ident.fqn [] e.literals = .ok vs) ↔
      (e.literals.map Text.pascalCase).Nodup ∧
      ∀ l ∈ e.literals, Code.identifier? (Text.pascalCase l) ≠ none := by
    rw [EnumPlan.exists_planVariants_iff]
    simp only [List.not_mem_nil, not_false_eq_true, true_and]
  rw [hplan, ← hvariants]
  constructor
  · rintro ⟨p, hp⟩
    obtain ⟨htype, hvs, -⟩ := EnumPlan.of_eq_ok.mp hp
    exact ⟨htype ▸ Option.some_ne_none _, _, hvs⟩
  · rintro ⟨htype, vs, hvs⟩
    obtain ⟨typeName, htype⟩ := Option.ne_none_iff_exists'.mp htype
    exact ⟨⟨e.ident.fqn, typeName, vs⟩, EnumPlan.of_eq_ok.mpr ⟨htype, hvs, rfl⟩⟩

/-- The variants are called as the literals are in Pascal case, and neither a variant nor
the type has a name that the code uses for something else. -/
structure KeepsNames (e : Enumeration) : Prop where
  variants : ∀ l ∈ e.literals, Code.IsPlain (Text.pascalCase l)
  all : "ALL" ∉ e.literals.map Text.pascalCase
  type : ∀ n, Code.identifier? e.ident.name = some n → Code.fileName n ∉ ["Option", "str"]

theorem KeepsNames.corresponds {p : EnumPlan} (h : KeepsNames e) (hp : EnumPlan.of e = .ok p) :
    p.file.Corresponds e.literals := by
  obtain ⟨htype, hplan, -⟩ := EnumPlan.of_eq_ok.mp hp
  obtain ⟨hliterals, hnames⟩ := EnumPlan.planVariants_ok hplan
  have hnodup := (EnumPlan.exists_planVariants_iff.mp ⟨_, hplan⟩).1
  have hpascal : p.variants.map Variant.name = e.literals.map Text.pascalCase := by
    rw [← hliterals, List.map_map, List.map_inj_left]
    intro v hv
    have hliteral : v.literal ∈ e.literals := hliterals ▸ List.mem_map_of_mem hv
    rw [← Option.some_inj, ← hnames v hv, (h.variants _ hliteral).identifier]
    rfl
  have hides : p.HidesNothing :=
    { type := h.type _ htype, all := hpascal ▸ h.all, distinct := hpascal ▸ hnodup }
  have hdistinct : (p.variants.map Variant.literal).Nodup := hliterals ▸ List.Nodup.of_map _ hnodup
  exact hliterals ▸ hides.corresponds hdistinct

end

/-! ## Enumerations -/

/-- An enumeration with a literal of two words. -/
def colors : Enumeration := { ident := .of "s" "Color", literals := ["RED", "DARK_BLUE"] }

/-- An enumeration of a name. -/
def reds (name : String) : Enumeration := { ident := .of "s" name, literals := ["RED"] }

def redsPlan (name : String) : EnumPlan := ⟨"s." ++ name, name, [⟨"Red", "RED"⟩]⟩

/-- An enumeration with a variant called `ALL`. -/
def letters : Enumeration := { ident := .of "s" "Letters", literals := ["A_L_L"] }

def lettersPlan : EnumPlan := ⟨"s.Letters", "Letters", [⟨"ALL", "A_L_L"⟩]⟩

theorem reds_planned {name : String} (h : name ∈ ["Option", "str"]) :
    EnumPlan.of (reds name) = .ok (redsPlan name) := by
  have hname : Code.identifier? name = some name :=
    (by decide +kernel : ∀ n ∈ ["Option", "str"], Code.identifier? n = some n) name h
  have hvariants : ∀ n ∈ ["Option", "str"], EnumPlan.planVariants (reds n).ident.fqn [] ["RED"] =
      .ok (redsPlan n).variants := by decide +kernel
  exact EnumPlan.of_eq_ok.mpr ⟨hname, hvariants name h, rfl⟩

end Generate
end TypedGraph
