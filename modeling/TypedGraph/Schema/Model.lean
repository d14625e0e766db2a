/-
The registry of a model.

Classifiers are kept, and traversed, by qualified name; a classifier replaces
one of the same name.  Beside them stand rows that tie each registered index to
its members, in the order of registration: an index that is replaced loses its
rows, whatever replaces it.
-/
import TypedGraph.Schema.Classifier

namespace TypedGraph
namespace Schema

/-- An index covers a property of a class. -/
structure IndexRow where
  index : String
  className : String
  property : String
deriving DecidableEq, Repr

/-- Every classifier stands under its qualified name. -/
structure Model where
  classifierMap : Std.TreeMap String Classifier := {}
  rows : List IndexRow := []
  keyed : ∀ (fqn : String) (c : Classifier), classifierMap[fqn]? = some c → c.fqn = fqn := by
    exact Schema.keyed_empty

namespace Model

def empty : Model := {}

def get? (m : Model) (fqn : String) : Option Classifier := m.classifierMap[fqn]?

def class? (m : Model) (fqn : String) : Option Class := (m.get? fqn).bind Classifier.class?

def index? (m : Model) (fqn : String) : Option Index := (m.get? fqn).bind Classifier.index?

theorem fqn_of_get? {m : Model} {fqn : String} {c : Classifier} (h : m.get? fqn = some c) :
    c.fqn = fqn := m.keyed fqn c h

theorem class?_eq_some {m : Model} {fqn : String} {c : Class} :
    m.class? fqn = some c ↔ m.get? fqn = some (.ofClass c) := by
  rw [class?, Option.bind_eq_some_iff]
  constructor
  · rintro ⟨d, hd, hc⟩
    cases d with
    | ofClass d => rw [hd, Option.some.inj hc]
    | ofEnum e => exact nomatch hc
    | ofIndex i => exact nomatch hc
  · intro h
    exact ⟨_, h, rfl⟩

theorem index?_eq_some {m : Model} {fqn : String} {i : Index} :
    m.index? fqn = some i ↔ m.get? fqn = some (.ofIndex i) := by
  rw [index?, Option.bind_eq_some_iff]
  constructor
  · rintro ⟨d, hd, hi⟩
    cases d with
    | ofClass c => exact nomatch hi
    | ofEnum e => exact nomatch hi
    | ofIndex d => rw [hd, Option.some.inj hi]
  · intro h
    exact ⟨_, h, rfl⟩

theorem fqn_of_class? {m : Model} {fqn : String} {c : Class} (h : m.class? fqn = some c) :
    c.fqn = fqn := fqn_of_get? (class?_eq_some.mp h)

/-- The rows that registering a classifier adds. -/
def rowsOf : Classifier → List IndexRow
  | .ofIndex i => i.properties.map fun p => ⟨i.fqn, i.className, p⟩
  | _ => []

/-- Registers a classifier under its qualified name. -/
def add (m : Model) (c : Classifier) : Model :=
  let kept := match m.index? c.fqn with
    | some _ => m.rows.filter (·.index != c.fqn)
    | none => m.rows
  { classifierMap := m.classifierMap.insert c.fqn c
    rows := kept ++ rowsOf c
    keyed := by
      intro fqn d h
      rw [Std.TreeMap.getElem?_insert] at h
      split at h
      · rename_i hf
        rw [← Option.some.inj h]
        exact Std.LawfulEqCmp.eq_of_compare hf
      · exact m.keyed fqn d h }

theorem get?_add (m : Model) (c : Classifier) (fqn : String) :
    (m.add c).get? fqn = if c.fqn = fqn then some c else m.get? fqn := by
  rw [add, get?, get?, Std.TreeMap.getElem?_insert]
  simp only [Std.LawfulEqCmp.compare_eq_iff_eq]

/-- Registers an index over a registered class. -/
def addIndex (m : Model) (fqn className : String) (names : List String) :
    Except SchemaError Model := do
  let ident ← QualifiedName.parse fqn
  match m.class? className with
  | none => .error (.unknownIndexClass fqn className)
  | some owner => return m.add (.ofIndex (← Index.ofClass ident owner names))

def size (m : Model) : Nat := m.classifierMap.size

def isEmpty (m : Model) : Bool := m.classifierMap.isEmpty

/-- All classifiers in the order of their names. -/
def classifiers (m : Model) : List Classifier := m.classifierMap.values

def classes (m : Model) : List Class := m.classifiers.filterMap Classifier.class?

def enums (m : Model) : List Enumeration := m.classifiers.filterMap Classifier.enum?

def indexes (m : Model) : List Index := m.classifiers.filterMap Classifier.index?

theorem mem_classifiers {m : Model} {c : Classifier} :
    c ∈ m.classifiers ↔ m.get? c.fqn = some c := by
  rw [classifiers, values_eq_map_snd, List.mem_map]
  constructor
  · rintro ⟨⟨fqn, d⟩, hd, rfl⟩
    have h := Std.TreeMap.mem_toList_iff_getElem?_eq_some.mp hd
    rw [← m.keyed fqn d h] at h
    exact h
  · intro h
    exact ⟨(c.fqn, c), Std.TreeMap.mem_toList_iff_getElem?_eq_some.mpr h, rfl⟩

theorem mem_classes {m : Model} {c : Class} : c ∈ m.classes ↔ m.class? c.fqn = some c := by
  rw [classes, List.mem_filterMap, class?_eq_some]
  constructor
  · rintro ⟨d, hd, hc⟩
    cases d with
    | ofClass d =>
      rw [← Option.some.inj hc]
      exact mem_classifiers.mp hd
    | ofEnum e => exact nomatch hc
    | ofIndex i => exact nomatch hc
  · intro h
    exact ⟨.ofClass c, mem_classifiers.mpr h, rfl⟩

theorem mem_indexes {m : Model} {i : Index} : i ∈ m.indexes ↔ m.index? i.fqn = some i := by
  rw [indexes, List.mem_filterMap, index?_eq_some]
  constructor
  · rintro ⟨d, hd, hi⟩
    cases d with
    | ofClass c => exact nomatch hi
    | ofEnum e => exact nomatch hi
    | ofIndex d =>
      rw [← Option.some.inj hi]
      exact mem_classifiers.mp hd
  · intro h
    exact ⟨.ofIndex i, mem_classifiers.mpr h, rfl⟩

theorem ascending_classifiers (m : Model) :
    (m.classifiers.map Classifier.fqn).Pairwise fun a b => compare a b = .lt := by
  have hkeys : m.classifiers.map Classifier.fqn = m.classifierMap.keys := by
    rw [classifiers, values_eq_map_snd, List.map_map, ← Std.TreeMap.map_fst_toList_eq_keys]
    refine List.map_congr_left fun x hx => ?_
    exact m.keyed x.1 x.2 (Std.TreeMap.mem_toList_iff_getElem?_eq_some.mp hx)
  rw [hkeys]
  exact Std.TreeMap.ordered_keys

theorem ascending_classes (m : Model) :
    (m.classes.map Class.fqn).Pairwise fun a b => compare a b = .lt := by
  rw [List.pairwise_map, classes, List.pairwise_filterMap]
  refine (List.pairwise_map.mp m.ascending_classifiers).imp fun {a b} hlt c hc d hd => ?_
  have hfqn : ∀ {x : Classifier} {y : Class}, x.class? = some y → x.fqn = y.fqn := by
    intro x y h
    cases x with
    | ofClass z => rw [← Option.some.inj h]; rfl
    | ofEnum z => exact nomatch h
    | ofIndex z => exact nomatch h
  rw [← hfqn hc, ← hfqn hd]
  exact hlt

/-- The indexes that cover a property, in the order of registration. -/
def indexesOf (m : Model) (className property : String) : List Index :=
  (m.rows.filter fun r => r.className == className && r.property == property).filterMap fun r =>
    m.index? r.index

/-- The properties that an index covers, in name order. -/
def membersOf (m : Model) (index : String) : List String :=
  match m.index? index with
  | some i => i.properties
  | none => []

/-- The registered class that a class declares as its parent. -/
def parentOf (m : Model) (c : Class) : Option Class := c.parent.bind m.class?

/-- `chainFrom steps seen next` follows parents from `next`, and stops at a name
already seen. -/
def chainFrom (m : Model) : Nat → List String → Option Class → List Class
  | 0, _, _ => []
  | _ + 1, _, none => []
  | steps + 1, seen, some c =>
    if seen.contains c.fqn then [] else c :: chainFrom m steps (c.fqn :: seen) (m.parentOf c)

/-- A class followed by its ancestors, up to one without a registered parent or
to the first that would repeat.  A chain without repetition is no longer than
the registry. -/
def parentChain (m : Model) (fqn : String) : List Class :=
  m.chainFrom m.size [] (m.class? fqn)

/-- The nearest property of that name on a class and its ancestors, with the
class that has it. -/
def findProperty (m : Model) (className name : String) : Option (Class × Property) :=
  (m.parentChain className).findSome? fun c => (c.property? name).map (c, ·)

end Model

end Schema
end TypedGraph
