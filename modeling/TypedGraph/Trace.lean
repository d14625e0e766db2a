/-
What a run reports about itself.

An event names what happened; its level, text and fields follow from that.  A
`Traced` computation carries the events up to its end, whether it ends in a
value or in an error, and `outcome_bind` says that tracing does not change what
is computed.
-/

namespace TypedGraph

inductive Level
  | error
  | warn
  | info
  | debug
deriving DecidableEq, Repr

namespace Level

/-- Lower is more severe. -/
def rank : Level → Nat
  | .error => 0
  | .warn => 1
  | .info => 2
  | .debug => 3

def name : Level → String
  | .error => "ERROR"
  | .warn => "WARN"
  | .info => "INFO"
  | .debug => "DEBUG"

end Level

inductive Event
  | parentMissing (class_ parent : String)
  | inheritanceCycle (class_ : String)
  | targetMissing (relation target : String)
  | primitiveTarget (class_ relation type : String)
  | oppositeUnstored (relation target opposite : String)
  | attributeNotStored (class_ property : String)
  | relationNotStored (class_ property : String)
  | parsing (path : String)
  | populated (classifiers : Nat)
  | loaded (files classifiers : Nat) (dir : String)
  | diagnosed (diagnostic : String)
  | generated (artifact : String)
  | completed (artifacts : Nat) (target : String)
  | notWritten (artifact error : String)
  | persisted (written failed : Nat)
deriving DecidableEq, Repr

namespace Event

def level : Event → Level
  | .parentMissing .. | .inheritanceCycle .. | .targetMissing .. | .primitiveTarget ..
  | .oppositeUnstored .. | .diagnosed .. => .warn
  | .loaded .. | .completed .. | .persisted .. => .info
  | .attributeNotStored .. | .relationNotStored .. | .parsing .. | .populated ..
  | .generated .. => .debug
  | .notWritten .. => .error

def message : Event → String
  | .parentMissing .. => "parent class not in model, using the base node"
  | .inheritanceCycle .. => "inheritance cycle, using the base node"
  | .targetMissing .. => "relation target not in model"
  | .primitiveTarget .. => "relation to a primitive type, skipped"
  | .oppositeUnstored .. =>
    "opposite is not a stored relation on the target, mutators stay one-sided"
  | .attributeNotStored .. => "derived or learned, no accessors"
  | .relationNotStored .. => "derived relation, no accessors"
  | .parsing .. => "parsing model file"
  | .populated .. => "model populated"
  | .loaded .. => "model loaded"
  | .diagnosed .. => "model diagnostic"
  | .generated .. => "artifact generated"
  | .completed .. => "generation complete"
  | .notWritten .. => "artifact not written"
  | .persisted .. => "artifacts persisted"

def fields : Event → List (String × String)
  | .parentMissing c p => [("class", c), ("parent", p)]
  | .inheritanceCycle c => [("class", c)]
  | .targetMissing r t => [("relation", r), ("target", t)]
  | .primitiveTarget c r t => [("class", c), ("relation", r), ("ty", t)]
  | .oppositeUnstored r t o => [("relation", r), ("target", t), ("opposite", o)]
  | .attributeNotStored c p => [("class", c), ("property", p)]
  | .relationNotStored c p => [("class", c), ("property", p)]
  | .parsing p => [("path", p)]
  | .populated n => [("classifiers", toString n)]
  | .loaded f c d => [("files", toString f), ("classifiers", toString c), ("dir", d)]
  | .diagnosed d => [("diag", d)]
  | .generated a => [("artifact", a)]
  | .completed a t => [("artifacts", toString a), ("target", t)]
  | .notWritten a e => [("artifact", a), ("error", e)]
  | .persisted w f => [("written", toString w), ("failed", toString f)]

end Event

/-- A sequence succeeds when its parts do. -/
theorem bind_eq_ok {ε α β : Type} {x : Except ε α} {f : α → Except ε β} {b : β} :
    (x >>= f) = .ok b ↔ ∃ a, x = .ok a ∧ f a = .ok b := by
  cases x with
  | error e =>
    constructor
    · intro h
      exact nomatch h
    · rintro ⟨a, ha, -⟩
      exact nomatch ha
  | ok a =>
    constructor
    · intro h
      exact ⟨a, rfl, h⟩
    · rintro ⟨a', ha, h⟩
      rw [Except.ok.inj ha]
      exact h

/-- A sequence fails when one of its parts does. -/
theorem bind_eq_error {ε α β : Type} {x : Except ε α} {f : α → Except ε β} {e : ε} :
    (x >>= f) = .error e ↔ x = .error e ∨ ∃ a, x = .ok a ∧ f a = .error e := by
  cases x with
  | error e' =>
    constructor
    · intro h
      exact .inl (congrArg Except.error (Except.error.inj h))
    · rintro (h | ⟨a, ha, -⟩)
      · exact congrArg Except.error (Except.error.inj h)
      · exact nomatch ha
  | ok a =>
    constructor
    · intro h
      exact .inr ⟨a, rfl, h⟩
    · rintro (h | ⟨a', ha, h⟩)
      · exact nomatch h
      · rw [Except.ok.inj ha]
        exact h

/-- What can be read off the value of a computation shows that there is one. -/
theorem exists_ok_of_map {ε α β : Type} {x : Except ε α} {f : α → β} {b : β}
    (h : x.toOption.map f = some b) : ∃ a, x = .ok a ∧ f a = b := by
  cases x with
  | error e => exact nomatch h
  | ok a => exact ⟨a, rfl, Option.some.inj h⟩

theorem exists_ok_of_isOk {ε α : Type} {x : Except ε α} (h : x.isOk = true) :
    ∃ a, x = .ok a := by
  cases x with
  | error e => exact nomatch h
  | ok a => exact ⟨a, rfl⟩

def failure? {ε α : Type} : Except ε α → Option ε
  | .error e => some e
  | .ok _ => none

theorem eq_error_of_failure? {ε α : Type} {x : Except ε α} {e : ε} (h : failure? x = some e) :
    x = .error e := by
  cases x with
  | error e' => exact congrArg Except.error (Option.some.inj h)
  | ok a => exact nomatch h

/-- A computation that ends in an error or a value, with the events before its
end. -/
structure Traced (ε α : Type) where
  events : List Event
  outcome : Except ε α

namespace Traced

variable {ε ε' α β : Type}

def of (outcome : Except ε α) : Traced ε α := ⟨[], outcome⟩

instance : Monad (Traced ε) where
  pure a := ⟨[], .ok a⟩
  bind x f :=
    match x.outcome with
    | .error e => ⟨x.events, .error e⟩
    | .ok a =>
      let y := f a
      ⟨x.events ++ y.events, y.outcome⟩

instance : MonadLift (Except ε) (Traced ε) where
  monadLift := of

def log (e : Event) : Traced ε Unit := ⟨[e], .ok ()⟩

def mapError (f : ε → ε') (x : Traced ε α) : Traced ε' α := ⟨x.events, x.outcome.mapError f⟩

@[simp] theorem outcome_of (o : Except ε α) : (of o).outcome = o := rfl

@[simp] theorem outcome_pure (a : α) : (pure a : Traced ε α).outcome = .ok a := rfl

@[simp] theorem outcome_log (e : Event) : (log e : Traced ε Unit).outcome = .ok () := rfl

/-- The outcome of a sequence is the sequence of the outcomes. -/
@[simp] theorem outcome_bind (x : Traced ε α) (f : α → Traced ε β) :
    (x >>= f).outcome = x.outcome >>= fun a => (f a).outcome := by
  obtain ⟨es, o⟩ := x
  cases o <;> rfl

@[simp] theorem outcome_lift (o : Except ε α) :
    (liftM o : Traced ε α).outcome = o := rfl

@[simp] theorem outcome_mapM_of (o : Option α) (f : α → Except ε β) :
    (o.mapM fun a => of (f a)).outcome = o.mapM f := by
  cases o with
  | none => rfl
  | some a =>
    show (of (f a) >>= fun b => pure (some b)).outcome = f a >>= fun b => pure (some b)
    rw [outcome_bind]
    rfl

end Traced

end TypedGraph
