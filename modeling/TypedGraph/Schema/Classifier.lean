/-
The top-level definitions of a model: classes, enumerations and indexes.
-/
import TypedGraph.Schema.Name
import TypedGraph.Schema.Property
import Std.Data.TreeSet

namespace TypedGraph
namespace Schema

/-- The values of a map are those of its entries, in the order of the keys. -/
theorem values_eq_map_snd {α β : Type} {cmp : α → α → Ordering} (t : Std.TreeMap α β cmp) :
    t.values = t.toList.map Prod.snd := by
  have h : t.values = t.foldr (fun _ b bs => b :: bs) [] := rfl
  rw [h, Std.TreeMap.foldr_eq_foldr_toList, List.foldr_cons_eq_append, List.append_nil]

theorem keyed_empty {α : Type} {nameOf : α → String} (name : String) (a : α)
    (h : (∅ : Std.TreeMap String α)[name]? = some a) : nameOf a = name := by
  simp at h

theorem nodup_toList (names : Std.TreeSet String) : names.toList.Nodup :=
  names.distinct_toList.imp fun hne heq => hne (Std.LawfulEqCmp.compare_eq_iff_eq.mpr heq)

/-- A class with its own properties, each under its name.  The parent is a name,
which need not be that of a class. -/
structure Class where
  ident : QualifiedName
  parent : Option String := none
  propertyMap : Std.TreeMap String Property := {}
  keyed : ∀ (name : String) (p : Property), propertyMap[name]? = some p → p.name = name := by
    exact Schema.keyed_empty

namespace Class

def name (c : Class) : String := c.ident.name

def fqn (c : Class) : String := c.ident.fqn

def setParent (c : Class) (parent : String) : Class := { c with parent := some parent }

/-- A property replaces one of the same name. -/
def addProperty (c : Class) (p : Property) : Class :=
  { c with
    propertyMap := c.propertyMap.insert p.name p
    keyed := by
      intro name q h
      rw [Std.TreeMap.getElem?_insert] at h
      split at h
      · rename_i hn
        rw [← Option.some.inj h]
        exact Std.LawfulEqCmp.eq_of_compare hn
      · exact c.keyed name q h }

/-- The class's own properties in name order. -/
def properties (c : Class) : List Property := c.propertyMap.values

def property? (c : Class) (name : String) : Option Property := c.propertyMap[name]?

theorem name_of_property? {c : Class} {name : String} {p : Property}
    (h : c.property? name = some p) : p.name = name := c.keyed name p h

theorem mem_properties {c : Class} {p : Property} :
    p ∈ c.properties ↔ c.property? p.name = some p := by
  rw [properties, values_eq_map_snd, List.mem_map]
  constructor
  · rintro ⟨⟨name, q⟩, hq, rfl⟩
    have h := Std.TreeMap.mem_toList_iff_getElem?_eq_some.mp hq
    rw [← c.keyed name q h] at h
    exact h
  · intro h
    exact ⟨(p.name, p), Std.TreeMap.mem_toList_iff_getElem?_eq_some.mpr h, rfl⟩

theorem names_properties (c : Class) :
    c.properties.map Property.name = c.propertyMap.keys := by
  rw [properties, values_eq_map_snd, List.map_map, ← Std.TreeMap.map_fst_toList_eq_keys]
  refine List.map_congr_left fun x hx => ?_
  exact c.keyed x.1 x.2 (Std.TreeMap.mem_toList_iff_getElem?_eq_some.mp hx)

theorem ascending_properties (c : Class) :
    (c.properties.map Property.name).Pairwise fun a b => compare a b = .lt := by
  rw [names_properties]
  exact Std.TreeMap.ordered_keys

end Class

structure Enumeration where
  ident : QualifiedName
  /-- In declaration order. -/
  literals : List String := []

/-- A lookup key made of properties of one class, kept in name order. -/
structure Index where
  ident : QualifiedName
  className : String
  members : Std.TreeSet String := {}

namespace Index

def name (i : Index) : String := i.ident.name

def fqn (i : Index) : String := i.ident.fqn

def properties (i : Index) : List String := i.members.toList

/-- Adds a member, which has to be a property of the owner. -/
def addMember (owner : Class) (i : Index) (name : String) : Except SchemaError Index :=
  match owner.property? name with
  | some p => .ok { i with members := i.members.insert p.name }
  | none => .error (.unknownIndexProperty i.fqn owner.fqn name)

/-- The index over an owner's properties of the given names, or the error of
the first name that the owner lacks. -/
def ofClass (ident : QualifiedName) (owner : Class) (names : List String) :
    Except SchemaError Index :=
  names.foldlM (addMember owner) { ident, className := owner.fqn }

def display (i : Index) : String :=
  i.fqn ++ " ON " ++ i.className ++ " (" ++ ", ".intercalate i.properties ++ ")"

end Index

inductive Classifier
  | ofClass (c : Class)
  | ofEnum (e : Enumeration)
  | ofIndex (i : Index)

namespace Classifier

def ident : Classifier → QualifiedName
  | .ofClass c => c.ident
  | .ofEnum e => e.ident
  | .ofIndex i => i.ident

def fqn (c : Classifier) : String := c.ident.fqn

def kindName : Classifier → String
  | .ofClass _ => "Class"
  | .ofEnum _ => "Enum"
  | .ofIndex _ => "Index"

def class? : Classifier → Option Class
  | .ofClass c => some c
  | _ => none

def enum? : Classifier → Option Enumeration
  | .ofEnum e => some e
  | _ => none

def index? : Classifier → Option Index
  | .ofIndex i => some i
  | _ => none

end Classifier

end Schema
end TypedGraph
