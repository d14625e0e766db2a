/-
What a source adds to a builder.

A text that holds no document adds nothing.  The definitions of a document are
added in their order, up to the first class or enumeration that has no name, so
where that one stands tells all that the builder has gained (`addAll_append`).
What is gained is compared with its definition field by field: of the properties
of one name a class has the last.  Indexes are only noted, and what is wrong with
them shows when the model is built.
-/
import Mathlib.Data.List.Forall2
import TypedGraph.Proofs.IndexRegistration
import TypedGraph.Schema.Source

namespace TypedGraph

/-- A run of steps fails at the first step that does. -/
theorem foldlM_eq_error {ε σ α : Type} {f : σ → α → Except ε σ} {as : List α} {s : σ} {e : ε} :
    as.foldlM f s = .error e ↔
      ∃ before a after s', as = before ++ a :: after ∧ before.foldlM f s = .ok s' ∧
        f s' a = .error e := by
  induction as generalizing s with
  | nil =>
    refine ⟨nofun, ?_⟩
    intro ⟨before, a, after, s', hcut, _⟩
    exact absurd hcut.symm (List.append_ne_nil_of_right_ne_nil before (List.cons_ne_nil a after))
  | cons x rest ih =>
    rw [List.foldlM_cons]
    constructor
    · intro h
      cases hx : f s x with
      | error e' =>
        rw [hx] at h
        obtain rfl := Except.error.inj h
        exact ⟨[], x, rest, s, rfl, rfl, hx⟩
      | ok next =>
        rw [hx] at h
        obtain ⟨before, a, after, s', rfl, hbefore, ha⟩ := ih.mp h
        refine ⟨x :: before, a, after, s', rfl, ?_, ha⟩
        rw [List.foldlM_cons, hx]
        exact hbefore
    · intro ⟨before, a, after, s', hcut, hbefore, ha⟩
      cases before with
      | nil =>
        obtain ⟨rfl, rfl⟩ := List.cons.inj hcut
        obtain rfl := Except.ok.inj hbefore
        rw [ha]
        rfl
      | cons y before =>
        obtain ⟨rfl, rfl⟩ := List.cons.inj hcut
        rw [List.foldlM_cons, bind_eq_ok] at hbefore
        obtain ⟨next, hx, hbefore⟩ := hbefore
        rw [hx]
        exact ih.mpr ⟨before, a, after, s', rfl, hbefore, ha⟩

namespace Schema

/-! ## Properties -/

namespace Property

variable (p : Property)

theorem foldl_addParameter (entries : List (String × String)) :
    entries.foldl (fun p entry => p.addParameter entry.1 entry.2) p =
      { p with parameters := p.parameters.insertMany entries } := by
  induction entries generalizing p with
  | nil => rfl
  | cons entry rest ih =>
    rw [List.foldl_cons, ih, Std.TreeMap.insertMany_cons]
    rfl

theorem foldl_addDependency (paths : List String) :
    paths.foldl addDependency p = { p with dependencies := p.dependencies ++ paths } := by
  induction paths generalizing p with
  | nil => rw [List.append_nil, List.foldl_nil]
  | cons path rest ih =>
    rw [List.foldl_cons, ih]
    simp only [addDependency, List.append_assoc, List.singleton_append]

end Property

namespace PropertyDefinition

/-- A property is what its definition says. -/
structure Gives (d : PropertyDefinition) (p : Property) : Prop where
  name : p.name = d.name
  type : p.type = d.type
  kind : p.kind = d.kind
  algorithm : p.algorithm = d.algorithm
  derived : p.derived = d.derived
  learned : p.learned = d.learned
  isGlobal : p.isGlobal = d.isGlobal
  parameter : ∀ key : String, p.parameters[key]? = d.parameters[key]?
  dependencies : p.dependencies = d.dependencies

variable (d : PropertyDefinition)

theorem toProperty_eq : d.toProperty =
    { name := d.name, type := d.type, kind := d.kind, algorithm := d.algorithm,
      derived := d.derived, learned := d.learned, isGlobal := d.isGlobal,
      parameters := ({} : Std.TreeMap String String).insertMany d.parameters.toList,
      dependencies := d.dependencies } := by
  obtain ⟨name, type, kind, algorithm, derived, learned, isGlobal, parameters, dependencies⟩ := d
  simp only [toProperty, Std.TreeMap.foldl_eq_foldl_toList, Property.foldl_addParameter,
    Property.foldl_addDependency]
  cases algorithm <;> cases derived <;> cases learned <;> cases isGlobal <;> rfl

theorem gives_toProperty : d.Gives d.toProperty := by
  have hparameter : ∀ key : String,
      (({} : Std.TreeMap String String).insertMany d.parameters.toList)[key]? =
        d.parameters[key]? := by
    intro key
    cases h : d.parameters[key]? with
    | some value =>
      have hmem := Std.TreeMap.mem_toList_iff_getElem?_eq_some.mpr h
      exact Std.TreeMap.getElem?_insertMany_list_of_mem Std.ReflCmp.compare_self
        Std.TreeMap.distinct_keys_toList hmem
    | none =>
      -- A key of the list would have its value in the map.
      have hfalse : (d.parameters.toList.map Prod.fst).contains key = false := by
        rw [← Bool.not_eq_true, List.contains_iff_mem, List.mem_map]
        intro ⟨entry, hmem, hkey⟩
        rw [← hkey, Std.TreeMap.mem_toList_iff_getElem?_eq_some.mp hmem] at h
        exact nomatch h
      rw [Std.TreeMap.getElem?_insertMany_list_of_contains_eq_false hfalse]
      rfl
  rw [toProperty_eq]
  exact ⟨rfl, rfl, rfl, rfl, rfl, rfl, rfl, hparameter, rfl⟩

end PropertyDefinition

/-! ## Classes -/

namespace Class

theorem property?_addProperty (c : Class) (p : Property) (name : String) :
    (c.addProperty p).property? name = if p.name = name then some p else c.property? name := by
  rw [addProperty, property?, property?, Std.TreeMap.getElem?_insert]
  simp only [Std.LawfulEqCmp.compare_eq_iff_eq]

end Class

namespace ClassDefinition

/-- A class is what its definition says, and has of each name the last property. -/
structure Gives (d : ClassDefinition) (c : Class) : Prop where
  ident : QualifiedName.parse d.name = .ok c.ident
  parent : c.parent = d.parent
  last : ∀ before p after, d.properties = before ++ p :: after →
    (∀ other ∈ after, other.name ≠ p.name) → ∃ q, c.property? p.name = some q ∧ p.Gives q
  other : ∀ name, (∀ p ∈ d.properties, p.name ≠ name) → c.property? name = none

/-- The class with properties added in their order. -/
def withProperties (c : Class) (ps : List PropertyDefinition) : Class :=
  ps.foldl (fun c p => c.addProperty p.toProperty) c

variable {c : Class} {ps before after : List PropertyDefinition} {p : PropertyDefinition}
variable {name : String}

theorem ident_withProperties (c : Class) (ps : List PropertyDefinition) :
    (withProperties c ps).ident = c.ident ∧ (withProperties c ps).parent = c.parent := by
  induction ps generalizing c with
  | nil => exact ⟨rfl, rfl⟩
  | cons p rest ih => exact ih (c.addProperty p.toProperty)

theorem property?_withProperties (c : Class) (h : ∀ p ∈ ps, p.name ≠ name) :
    (withProperties c ps).property? name = c.property? name := by
  induction ps generalizing c with
  | nil => rfl
  | cons p rest ih =>
    have hne : p.toProperty.name ≠ name := by
      rw [(PropertyDefinition.gives_toProperty p).name]
      exact h p List.mem_cons_self
    have hrest := ih (c.addProperty p.toProperty) fun q hq => h q (List.mem_cons_of_mem p hq)
    rw [Class.property?_addProperty, if_neg hne] at hrest
    exact hrest

/-- What is added behind the last property of a name leaves it in place. -/
theorem property?_withProperties_last (c : Class) (h : ∀ other ∈ after, other.name ≠ p.name) :
    (withProperties c (before ++ p :: after)).property? p.name = some p.toProperty := by
  rw [withProperties, List.foldl_append]
  refine (property?_withProperties _ h).trans ?_
  rw [Class.property?_addProperty, if_pos (PropertyDefinition.gives_toProperty p).name]

theorem gives_toClass {d : ClassDefinition} (h : d.toClass = .ok c) : d.Gives c := by
  obtain ⟨ident, hident, hc⟩ := bind_eq_ok.mp h
  obtain rfl : withProperties { ident, parent := d.parent } d.properties = c := Except.ok.inj hc
  obtain ⟨hsame, hparent⟩ := ident_withProperties { ident, parent := d.parent } d.properties
  refine
    { ident := by rw [hident, hsame]
      parent := hparent
      last := fun before p after hcut hlast => ?_
      other := fun name hname => ?_ }
  · rw [hcut]
    exact ⟨_, property?_withProperties_last _ hlast, PropertyDefinition.gives_toProperty p⟩
  · rw [property?_withProperties _ hname]
    rfl

end ClassDefinition

/-! ## Definitions -/

/-- A text that names nothing. -/
def Nameless (text : String) : Prop :=
  text = "" ∨ ∃ front, text = front ++ "."

namespace Definition

/-- The name that has to be one as soon as the source is read. -/
def name? : Definition → Option String
  | .ofClass d => some d.name
  | .ofEnum d => some d.name
  | .ofIndex _ => none

def request? : Definition → Option IndexRequest
  | .ofIndex d => some ⟨d.name, d.className, d.properties⟩
  | _ => none

def Named (d : Definition) : Prop :=
  ∀ name, d.name? = some name → ¬Nameless name

/-- A classifier is what its definition says. -/
inductive Gives : Definition → Classifier → Prop
  | ofClass {d : ClassDefinition} {c : Class} : d.Gives c → Gives (.ofClass d) (.ofClass c)
  | ofEnum {d : EnumDefinition} {e : Enumeration} : QualifiedName.parse d.name = .ok e.ident →
    e.literals = d.literals → Gives (.ofEnum d) (.ofEnum e)

end Definition

/-- A builder has got definitions on top of what it had, in their order. -/
structure ModelBuilder.Gained (b : ModelBuilder) (ds : List Definition) (b' : ModelBuilder) :
    Prop where
  definitions : ∃ cs, b'.definitions = b.definitions ++ cs ∧
    List.Forall₂ Definition.Gives (ds.filter (·.name?.isSome)) cs
  indexes : b'.indexes = b.indexes ++ ds.filterMap Definition.request?

namespace ModelBuilder.Gained

variable {b b' b'' : ModelBuilder} {d : Definition} {ds es : List Definition}

theorem nil (b : ModelBuilder) : Gained b [] b :=
  ⟨⟨[], (List.append_nil _).symm, .nil⟩, (List.append_nil _).symm⟩

theorem append (h : Gained b ds b') (h' : Gained b' es b'') : Gained b (ds ++ es) b'' := by
  obtain ⟨⟨cs, hcs, hgives⟩, hindexes⟩ := h
  obtain ⟨⟨cs', hcs', hgives'⟩, hindexes'⟩ := h'
  refine ⟨⟨cs ++ cs', ?_, ?_⟩, ?_⟩
  · rw [hcs', hcs, List.append_assoc]
  · rw [List.filter_append]
    exact List.rel_append hgives hgives'
  · rw [hindexes', hindexes, List.filterMap_append, List.append_assoc]

end ModelBuilder.Gained

namespace Definition

variable {b : ModelBuilder} {d : Definition} {name : String}

theorem exists_parse (h : ¬Nameless name) : ∃ q, QualifiedName.parse name = .ok q := by
  cases hparse : QualifiedName.parse name with
  | ok q => exact ⟨q, rfl⟩
  | error e => exact absurd (QualifiedName.parse_eq_error.mp hparse).2 h

theorem addTo_named (b : ModelBuilder) (h : d.Named) :
    ∃ b', d.addTo b = .ok b' ∧ b.Gained [d] b' := by
  cases d with
  | ofClass d =>
    obtain ⟨q, hq⟩ := exists_parse (h d.name rfl)
    obtain ⟨c, hc⟩ : ∃ c, d.toClass = .ok c := by
      rw [ClassDefinition.toClass, hq]
      exact ⟨_, rfl⟩
    refine ⟨b.addClass c, by rw [addTo, hc]; rfl, ⟨[.ofClass c], rfl, ?_⟩, ?_⟩
    · exact .cons (.ofClass (ClassDefinition.gives_toClass hc)) .nil
    · exact (List.append_nil _).symm
  | ofEnum d =>
    obtain ⟨q, hq⟩ := exists_parse (h d.name rfl)
    have he : d.toEnum = .ok { ident := q, literals := d.literals } := by
      rw [EnumDefinition.toEnum, hq]
      rfl
    refine ⟨b.addEnum { ident := q, literals := d.literals }, by rw [addTo, he]; rfl,
      ⟨[.ofEnum _], rfl, .cons (.ofEnum hq rfl) .nil⟩, (List.append_nil _).symm⟩
  | ofIndex d =>
    exact ⟨b.addIndex d.name d.className d.properties, rfl,
      ⟨[], (List.append_nil _).symm, .nil⟩, rfl⟩

theorem addTo_nameless (b : ModelBuilder) (hname : d.name? = some name) (h : Nameless name) :
    d.addTo b = .error (.emptyName name) := by
  have hparse := QualifiedName.parse_eq_error.mpr ⟨rfl, h⟩
  cases d with
  | ofClass d =>
    obtain rfl := Option.some.inj hname
    rw [addTo, ClassDefinition.toClass, hparse]
    rfl
  | ofEnum d =>
    obtain rfl := Option.some.inj hname
    rw [addTo, EnumDefinition.toEnum, hparse]
    rfl
  | ofIndex d => exact nomatch hname

end Definition

namespace Document

variable {ds after : List Definition} {d : Definition} {name : String}

/-- Definitions that have names are all gained before what follows is looked at. -/
theorem addAll_append (b : ModelBuilder) (h : ∀ d ∈ ds, d.Named) :
    ∃ b', b.Gained ds b' ∧ ∀ rest, addAll b (ds ++ rest) = addAll b' rest := by
  induction ds generalizing b with
  | nil => exact ⟨b, .nil b, fun rest => rfl⟩
  | cons d ds ih =>
    obtain ⟨next, hnext, hfirst⟩ := Definition.addTo_named b (h d List.mem_cons_self)
    obtain ⟨b', hgained, hall⟩ := ih next fun d hd => h d (List.mem_cons_of_mem _ hd)
    refine ⟨b', hfirst.append hgained, fun rest => ?_⟩
    rw [List.cons_append, addAll, hnext]
    exact hall rest

theorem parseInto_of_parse {source : String} {document : Document} (path : Files.FilePath)
    (b : ModelBuilder) (h : Document.parse source = .ok document) :
    parseInto path source b =
      ((addAll b document.definitions).1, (addAll b document.definitions).2.map .schema) := by
  rw [parseInto, h]

theorem addAll_named (b : ModelBuilder) (h : ∀ d ∈ ds, d.Named) :
    ∃ b', addAll b ds = (b', none) ∧ b.Gained ds b' := by
  obtain ⟨b', hgained, hall⟩ := addAll_append b h
  have hrest := hall []
  rw [List.append_nil] at hrest
  exact ⟨b', hrest, hgained⟩

theorem addAll_nameless (b : ModelBuilder) (h : ∀ d ∈ ds, d.Named) (hname : d.name? = some name)
    (hnameless : Nameless name) :
    ∃ b', addAll b (ds ++ d :: after) = (b', some (.emptyName name)) ∧ b.Gained ds b' := by
  obtain ⟨b', hgained, hall⟩ := addAll_append b h
  refine ⟨b', ?_, hgained⟩
  rw [hall, addAll, Definition.addTo_nameless b' hname hnameless]

-- The index has no name either, but it is the class that ends the reading.
example :
    let (b, e) := addAll {} [.ofIndex { name := "" }, .ofEnum { name := "sample.Color" },
      .ofClass { name := "sample." }, .ofEnum { name := "sample.Shape" }]
    (b.definitions.map Classifier.fqn, b.indexes.length, e) =
      (["sample.Color"], 1, some (.emptyName "sample.")) := by
  rfl

/-- Without the indexes, the definitions end in the same error. -/
theorem addAll_without_indexes (b b' : ModelBuilder) (ds : List Definition) :
    (addAll b' (ds.filter (·.name?.isSome))).2 = (addAll b ds).2 := by
  induction ds generalizing b b' with
  | nil => rfl
  | cons d ds ih =>
    cases d with
    | ofClass d =>
      show (addAll b' (.ofClass d :: ds.filter (·.name?.isSome))).2 = _
      rw [addAll, addAll, Definition.addTo, Definition.addTo]
      cases d.toClass with
      | error e => rfl
      | ok c => exact ih (b.addClass c) (b'.addClass c)
    | ofEnum d =>
      show (addAll b' (.ofEnum d :: ds.filter (·.name?.isSome))).2 = _
      rw [addAll, addAll, Definition.addTo, Definition.addTo]
      cases d.toEnum with
      | error e => rfl
      | ok c => exact ih (b.addEnum c) (b'.addEnum c)
    | ofIndex d => exact ih (b.addIndex d.name d.className d.properties) b'

end Document

/-! ## Indexes -/

namespace ModelBuilder

variable {b : ModelBuilder} {e : SchemaError}

/-- A model is not built when an index is refused by what was built before it. -/
theorem build_eq_error : b.build = .error e ↔
    ∃ before r after m, b.indexes = before ++ r :: after ∧
      ({ b with indexes := before } : ModelBuilder).build = .ok m ∧
      m.Refused r.fqn r.className r.properties e := by
  simp only [← Model.addIndex_eq_error]
  exact foldlM_eq_error

end ModelBuilder

namespace Document

/-- What reading a source makes of a builder, and where it ends. -/
structure ParsesInto (path : Files.FilePath) (source : String) (b : ModelBuilder) : Prop where
  rejected : ∀ e, Document.parse source = .error e →
    parseInto path source b = (b, some (.unparsable path (e.message Number.Double.jsonText)))
  /-- The first class or enumeration that names nothing is the last that is looked at. -/
  stopped : ∀ document before d after name, Document.parse source = .ok document →
    document.definitions = before ++ d :: after → (∀ c ∈ before, c.Named) →
    d.name? = some name → Nameless name →
    ∃ b', parseInto path source b = (b', some (.schema (.emptyName name))) ∧ b.Gained before b'
  accepted : ∀ document, Document.parse source = .ok document →
    (∀ d ∈ document.definitions, d.Named) →
    ∃ b', parseInto path source b = (b', none) ∧ b.Gained document.definitions b'
  /-- No index decides on the end. -/
  unchecked : ∀ document, Document.parse source = .ok document →
    (parseInto path source b).2 =
      (addAll b (document.definitions.filter (·.name?.isSome))).2.map .schema
  /-- An index that is wrong shows when what the builder holds by then is built. -/
  checked : ∀ (b' : ModelBuilder) e, b'.build = .error e ↔
    ∃ before r after m, b'.indexes = before ++ r :: after ∧
      ({ b' with indexes := before } : ModelBuilder).build = .ok m ∧
      m.Refused r.fqn r.className r.properties e

theorem parseInto_gains (path : Files.FilePath) (source : String) (b : ModelBuilder) :
    ParsesInto path source b := by
  refine
    { rejected := fun e h => by rw [parseInto, h]
      stopped := fun document before d after name h hcut hbefore hname hnameless => ?_
      accepted := fun document h hall => ?_
      unchecked := fun document h => ?_
      checked := fun b' e => ModelBuilder.build_eq_error }
  · obtain ⟨b', hadd, hgained⟩ := addAll_nameless b hbefore hname hnameless
    rw [← hcut] at hadd
    exact ⟨b', by rw [parseInto_of_parse path b h, hadd]; rfl, hgained⟩
  · obtain ⟨b', hadd, hgained⟩ := addAll_named b hall
    exact ⟨b', by rw [parseInto_of_parse path b h, hadd]; rfl, hgained⟩
  · rw [parseInto_of_parse path b h, addAll_without_indexes b b]

end Document

end Schema
end TypedGraph
