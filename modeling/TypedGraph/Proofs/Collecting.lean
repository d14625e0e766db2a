/-
Collecting from generated code.

A `Collector` says what is taken where code names an item of a type and where it
calls something.  `collect` goes through all of the code for it, in the order of the
text.  The lemmas hold for every collector: the shapes that the generators share are
gone through once, whatever is taken from them.
-/
import TypedGraph.Generate.AccessorFile

namespace TypedGraph
namespace Code

/-- The name that a call of an expression goes by. -/
def Expr.callee? : Expr → Option String
  | .name n => some n
  | .path p => p.segments.getLast?.map Segment.name
  | .assoc _ segments => segments.getLast?.map Segment.name
  | _ => none

/-- What is taken from a piece of code, apart from what is taken from its parts. -/
structure Collector (α : Type) where
  /-- At `<t>::a::b`. -/
  item : Ty → List Segment → List α := fun _ _ => []
  /-- At a call by some name, or by none, with its arguments. -/
  call : Option String → List Expr → List α := fun _ _ => []

variable {α β : Type} {c : Collector α}

/-- Nothing is taken at the calls of a name. -/
def Collector.Passes (c : Collector α) (name : String) : Prop :=
  ∀ args, c.call (some name) args = []

mutual

/-- A callee with a name belongs to its call and is no part of its own. -/
def Expr.collect (c : Collector α) : Expr → List α
  | .word _ | .name _ | .path _ => []
  | .assoc t segments => c.item t segments
  | .call f args =>
    c.call f.callee? args ++ (if f.callee?.isSome then [] else f.collect c) ++ Expr.collectAll c args
  | .method receiver n _ args =>
    c.call (some n) args ++ receiver.collect c ++ Expr.collectAll c args
  | .field receiver _ => receiver.collect c
  | .borrow target => target.collect c
  | .array items => Expr.collectAll c items
  | .closure _ _ body => body.collect c
  | .block body => Stmt.collectAll c body
  | .matchOn subject arms => subject.collect c ++ Arm.collectAll c arms
  | .branch condition yes no =>
    condition.collect c ++ Stmt.collectAll c yes ++ (match no with
      | some no => Stmt.collectAll c no
      | none => [])
  | .binds _ value => value.collect c
  | .forEach _ items body => items.collect c ++ Stmt.collectAll c body
  | .record _ fields => FieldValue.collectAll c fields
  | .vecOf element count => element.collect c ++ count.collect c
  | .infixed left _ right => left.collect c ++ right.collect c

def Expr.collectAll (c : Collector α) : List Expr → List α
  | [] => []
  | e :: rest => e.collect c ++ Expr.collectAll c rest

def Arm.collect (c : Collector α) : Arm → List α
  | .mk _ body => body.collect c

def Arm.collectAll (c : Collector α) : List Arm → List α
  | [] => []
  | e :: rest => e.collect c ++ Arm.collectAll c rest

def FieldValue.collect (c : Collector α) : FieldValue → List α
  | .mk _ (some value) => value.collect c
  | .mk _ none => []

def FieldValue.collectAll (c : Collector α) : List FieldValue → List α
  | [] => []
  | e :: rest => e.collect c ++ FieldValue.collectAll c rest

def Stmt.collect (c : Collector α) : Stmt → List α
  | .bind _ _ value => value.collect c
  | .expr value _ => value.collect c

def Stmt.collectAll (c : Collector α) : List Stmt → List α
  | [] => []
  | e :: rest => e.collect c ++ Stmt.collectAll c rest

end

attribute [simp] Expr.collect Expr.collectAll Arm.collect Arm.collectAll FieldValue.collect
  FieldValue.collectAll Stmt.collect Stmt.collectAll

def Member.collect (c : Collector α) : Member → List α
  | .constant _ _ _ value => value.collect c
  | .function _ _ _ (some body) => Stmt.collectAll c body
  | .function _ _ _ none | .type .. => []

def Item.collect (c : Collector α) : Item → List α
  | .constant _ _ _ value | .staticValue _ _ _ value => value.collect c
  | .trait _ _ _ _ members | .impl _ _ _ members => members.flatMap (Member.collect c)
  | .function _ _ _ body => Stmt.collectAll c body
  | .use .. | .struct .. | .enum .. | .submodule .. => []

attribute [simp] Item.collect

@[simp] theorem Expr.callee?_name (n : String) : (Expr.name n).callee? = some n := rfl

@[simp] theorem Expr.callee?_ofType (t : Ty) (n : String) :
    (Expr.ofType t n).callee? = some n := rfl

theorem Expr.callee?_join (p : Path) (names : List String) (n : String) :
    (Expr.path (p.join (names ++ [n]))).callee? = some n := by
  simp [Expr.callee?, Path.join, Segment.name]

@[simp] theorem Expr.collect_dot (receiver : Expr) (n : String) (args : List Expr) :
    (Expr.dot receiver n args).collect c =
      c.call (some n) args ++ receiver.collect c ++ Expr.collectAll c args := by
  rw [Expr.dot, Expr.collect]

@[simp] theorem Expr.collect_names (ns : List String) : (Expr.names ns).collect c = [] := by
  rw [Expr.names, Expr.collect]

@[simp] theorem Expr.collect_ofSelf (n : String) : (Expr.ofSelf n).collect c = [] :=
  Expr.collect_names ["Self", n]

@[simp] theorem Expr.collect_ofType (t : Ty) (n : String) :
    (Expr.ofType t n).collect c = c.item t [.plain n] := by
  rw [Expr.ofType, Expr.collect]

@[simp] theorem Stmt.collect_run (e : Expr) : (Stmt.run e).collect c = e.collect c := by
  rw [Stmt.run, Stmt.collect]

@[simp] theorem Stmt.collect_value (e : Expr) : (Stmt.value e).collect c = e.collect c := by
  rw [Stmt.value, Stmt.collect]

@[simp] theorem Stmt.collect_bindTo (pattern : String) (e : Expr) :
    (Stmt.bindTo pattern e).collect c = e.collect c := by
  rw [Stmt.bindTo, Stmt.collect]

/-! ## Lists -/

theorem Expr.collectAll_eq (es : List Expr) :
    Expr.collectAll c es = es.flatMap (Expr.collect c) := by
  induction es with
  | nil => rfl
  | cons e rest ih => rw [Expr.collectAll, ih, List.flatMap_cons]

theorem Stmt.collectAll_eq (es : List Stmt) :
    Stmt.collectAll c es = es.flatMap (Stmt.collect c) := by
  induction es with
  | nil => rfl
  | cons e rest ih => rw [Stmt.collectAll, ih, List.flatMap_cons]

@[simp] theorem Expr.collectAll_append (es fs : List Expr) :
    Expr.collectAll c (es ++ fs) = Expr.collectAll c es ++ Expr.collectAll c fs := by
  simp only [Expr.collectAll_eq, List.flatMap_append]

@[simp] theorem Stmt.collectAll_append (es fs : List Stmt) :
    Stmt.collectAll c (es ++ fs) = Stmt.collectAll c es ++ Stmt.collectAll c fs := by
  simp only [Stmt.collectAll_eq, List.flatMap_append]

theorem Expr.collectAll_map (f : β → Expr) (as : List β) :
    Expr.collectAll c (as.map f) = as.flatMap fun a => (f a).collect c := by
  rw [Expr.collectAll_eq, List.flatMap_map]

theorem Stmt.collectAll_map (f : β → Stmt) (as : List β) :
    Stmt.collectAll c (as.map f) = as.flatMap fun a => (f a).collect c := by
  rw [Stmt.collectAll_eq, List.flatMap_map]

theorem Stmt.collectAll_map_eq_nil {f : β → Stmt} (h : ∀ a, (f a).collect c = []) (as : List β) :
    Stmt.collectAll c (as.map f) = [] := by
  rw [Stmt.collectAll_map, List.flatMap_eq_nil_iff]
  exact fun a _ => h a

theorem Arm.collectAll_map (f : β → Arm) (as : List β) :
    Arm.collectAll c (as.map f) = as.flatMap fun a => (f a).collect c := by
  induction as with
  | nil => rfl
  | cons a rest ih => rw [List.map_cons, Arm.collectAll, ih, List.flatMap_cons]

@[simp] theorem Expr.collectAll_ofSelf (keys : List String) :
    Expr.collectAll c (keys.map Expr.ofSelf) = [] := by
  rw [Expr.collectAll_map, List.flatMap_eq_nil_iff]
  exact fun key _ => Expr.collect_ofSelf key

/-! ## Paths between commas -/

/-- What a path between commas is made of: there is nothing to take from it. -/
inductive Expr.IsOperand : Expr → Prop
  | word (text : String) : IsOperand (.word text)
  | path (p : Path) : IsOperand (.path p)
  | infixed {left right : Expr} (operator : String) (hleft : IsOperand left)
    (hright : IsOperand right) : IsOperand (.infixed left operator right)

theorem Expr.IsOperand.collect_eq_nil {e : Expr} (h : e.IsOperand) : e.collect c = [] := by
  induction h with
  | word text => rw [Expr.collect]
  | path p => rw [Expr.collect]
  | infixed operator _ _ hleft hright => rw [Expr.collect, hleft, hright, List.append_nil]

theorem Argument.isOperand_asExpr? {a : Argument} {e : Expr} (h : a.asExpr? = some e) :
    e.IsOperand := by
  unfold Argument.asExpr? at h
  split at h
  · split at h
    · rw [← Option.some.inj h]
      exact .path _
    · exact nomatch h
  · rw [← Option.some.inj h]
    exact .word _
  · exact nomatch h

theorem isOperand_operands {args : List Argument} {operands : List Expr}
    (h : args.mapM Argument.asExpr? = some operands) : ∀ e ∈ operands, e.IsOperand := by
  induction args generalizing operands with
  | nil =>
    intro e he
    rw [← Option.some.inj h] at he
    exact absurd he List.not_mem_nil
  | cons a rest ih =>
    simp only [List.mapM_cons, Option.bind_eq_bind, Option.bind_eq_some_iff] at h
    obtain ⟨first, hfirst, others, hothers, h⟩ := h
    intro e he
    rw [← Option.some.inj h] at he
    rcases List.mem_cons.mp he with rfl | he
    · exact Argument.isOperand_asExpr? hfirst
    · exact ih hothers e he

theorem isOperand_comparisons {front : Path} {segments : List Segment} {es : List Expr}
    (h : comparisons? front segments = some es) : ∀ e ∈ es, e.IsOperand := by
  induction segments generalizing front es with
  | nil => exact nomatch h
  | cons segment rest ih =>
    unfold comparisons? at h
    split at h
    · exact nomatch h
    · next args rest' heq =>
      simp only [Option.bind_eq_bind, Option.bind_eq_some_iff] at h
      obtain ⟨operands, hoperands, h⟩ := h
      have hall : ∀ e ∈ operands, e.IsOperand := isOperand_operands hoperands
      split at h
      · next first second others last before hlast =>
        have hmem : last ∈ first :: second :: others := by
          rw [← List.mem_reverse, hlast]
          exact List.mem_cons_self
        split at h
        · exact nomatch h
        · rw [← Option.some.inj h]
          intro e he
          simp only [List.mem_append, List.mem_singleton] at he
          rcases he with (rfl | he) | rfl
          · exact .infixed _ (.path _) (hall first List.mem_cons_self)
          · exact hall e (List.mem_of_mem_drop ((List.dropLast_sublist _).subset he))
          · exact .infixed _ (hall last hmem) (.path _)
      · exact nomatch h
    · next heq =>
      obtain ⟨rfl, rfl⟩ := List.cons.inj heq
      exact ih h

theorem Path.isOperand_asArguments (p : Path) : ∀ e ∈ p.asArguments, e.IsOperand := by
  intro e he
  unfold Path.asArguments at he
  split at he
  · rw [List.mem_singleton.mp he]
    exact .path p
  · cases hcomparisons : comparisons? { p with segments := [] } p.segments with
    | none =>
      rw [hcomparisons] at he
      rw [List.mem_singleton.mp he]
      exact .path p
    | some es =>
      rw [hcomparisons] at he
      exact isOperand_comparisons hcomparisons e he

@[simp] theorem Path.collectAll_asArguments (p : Path) : Expr.collectAll c p.asArguments = [] := by
  rw [Expr.collectAll_eq, List.flatMap_eq_nil_iff]
  exact fun e he => (p.isOperand_asArguments e he).collect_eq_nil

/-! ## Members -/

@[simp] theorem Member.collect_constant (visibility n : String) (type : Ty) (value : Expr) :
    (Member.constant visibility n type value).collect c = value.collect c := rfl

@[simp] theorem Member.collect_type (n : String) (target : Ty) :
    (Member.type n target).collect c = [] := rfl

@[simp] theorem Member.collect_function (attributes : List Attribute) (visibility : String)
    (signature : Signature) (body : List Stmt) :
    (Member.function attributes visibility signature (some body)).collect c =
      Stmt.collectAll c body := rfl

@[simp] theorem Member.collect_declared (attributes : List Attribute) (visibility : String)
    (signature : Signature) :
    (Member.function attributes visibility signature none).collect c = [] := rfl

end Code

/-! ## Shapes that files share -/

namespace Generate

open Code (Collector Expr Stmt Ty)

variable {α : Type} {c : Collector α} {s : Scope}

@[simp] theorem collect_selfName : selfName.collect c = [] := by
  rw [selfName, Expr.collect]

@[simp] theorem collect_literal (text : String) : (literal text).collect c = [] := by
  rw [literal, Expr.collect]

@[simp] theorem collect_hostValue (names : List String) :
    (s.hostValue names).collect c = [] := by
  rw [Scope.hostValue, Expr.collect]

@[simp] theorem collectAll_downcastTo (type : Ty) : Expr.collectAll c (s.downcastTo type) = [] :=
  Code.Path.collectAll_asArguments _

theorem callee?_hostValue (s : Scope) (owner n : String) :
    (s.hostValue [owner, n]).callee? = some n :=
  Expr.callee?_join s.host [owner] n

@[simp] theorem collect_method (attributes : List Code.Attribute) (name : String)
    (params : List Code.Param) (output : Option Ty) (body : List Stmt) :
    (method attributes name params output body).collect c = Stmt.collectAll c body := rfl

@[simp] theorem collect_constMethod (attributes : List Code.Attribute) (name : String)
    (params : List Code.Param) (output : Option Ty) (body : List Stmt) :
    (constMethod attributes name params output body).collect c = Stmt.collectAll c body := rfl

@[simp] theorem collect_traitMethod (name : String) (params : List Code.Param) (output : Option Ty)
    (body : List Stmt) : (traitMethod name params output body).collect c = Stmt.collectAll c body :=
  rfl

@[simp] theorem collect_callbackMethod (name : String) (params : List Code.Param) (argument : Ty)
    (body : List Stmt) :
    (callbackMethod name params argument body).collect c = Stmt.collectAll c body := rfl

@[simp] theorem collect_textConstant (visibility name text : String) :
    (textConstant visibility name text).collect c = [] := by
  rw [textConstant, Code.Member.collect_constant, collect_literal]

end Generate
end TypedGraph
