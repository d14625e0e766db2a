/-
The names of the functions of the model facade.

Beside those that every facade has, there is one for each class and two for each
index.  The names for indexes all start with `find_`, and `find_all_` is one way
to go on: `find_all_x` is both the second name of `x` and the first of `all_x`.
-/
import Mathlib.Data.List.Perm.Basic
import TypedGraph.Proofs.FileMembers
import TypedGraph.Proofs.TaskNames

namespace TypedGraph

theorem concat_injective (front : String) : Function.Injective (front ++ ·) :=
  fun _ _ h => (String.append_right_inj front).mp h

namespace Schema

def Class.spelledName (c : Class) : String := Code.spelled (Text.snakeCase c.name)

def Class.factoryName (c : Class) : String := "new_" ++ c.spelledName

def Index.queryNames (i : Index) : List String :=
  ["find_" ++ i.spelledName, "find_all_" ++ i.spelledName]

namespace Model

/-- The functions that every facade has. -/
def facadeMethods : List String :=
  ["new", "graph", "planned_world", "now", "connect", "disconnect", "save"]

/-- The functions of the facade, in the order they are written. -/
def facadeNames (m : Model) : List String :=
  facadeMethods ++ m.classes.map Class.factoryName ++ m.indexes.flatMap Index.queryNames

/-- No two classes, and no two queries of indexes, are called the same in the
facade. -/
structure FacadeApart (m : Model) : Prop where
  classes : (m.classes.map Class.spelledName).Nodup
  indexes : (m.indexes.map Index.spelledName).Nodup
  queries : ∀ i ∈ m.indexes, ∀ j ∈ m.indexes, j.spelledName ≠ "all_" ++ i.spelledName

theorem nodup_factoryNames (m : Model) :
    (m.classes.map Class.factoryName).Nodup ↔ (m.classes.map Class.spelledName).Nodup := by
  have h : m.classes.map Class.factoryName = (m.classes.map Class.spelledName).map ("new_" ++ ·) := by
    rw [List.map_map]
    rfl
  rw [h, List.nodup_map_iff (concat_injective _)]

/-- The names for an index are `find_` and what it is called, with and without
`all_`. -/
theorem queryNames_perm (m : Model) :
    (m.indexes.flatMap Index.queryNames).Perm
      ((m.indexes.map Index.spelledName ++
        (m.indexes.map Index.spelledName).map ("all_" ++ ·)).map ("find_" ++ ·)) := by
  have hnames : Index.queryNames = fun i =>
      ["find_" ++ i.spelledName] ++ ["find_" ++ ("all_" ++ i.spelledName)] := by
    funext i
    rw [← String.append_assoc]
    rfl
  rw [hnames]
  refine (List.flatMap_append_perm m.indexes (fun i => ["find_" ++ i.spelledName])
    fun i => ["find_" ++ ("all_" ++ i.spelledName)]).symm.trans (List.Perm.of_eq ?_)
  rw [← List.map_eq_flatMap, ← List.map_eq_flatMap, List.map_append, List.map_map, List.map_map,
    List.map_map]
  rfl

theorem nodup_queryNames (m : Model) :
    (m.indexes.flatMap Index.queryNames).Nodup ↔
      (m.indexes.map Index.spelledName).Nodup ∧
        ∀ i ∈ m.indexes, ∀ j ∈ m.indexes, j.spelledName ≠ "all_" ++ i.spelledName := by
  rw [m.queryNames_perm.nodup_iff, List.nodup_map_iff (concat_injective _), List.nodup_append,
    List.nodup_map_iff (concat_injective _)]
  constructor
  · rintro ⟨hnodup, -, hdisjoint⟩
    refine ⟨hnodup, fun i hi j hj => ?_⟩
    exact hdisjoint _ (List.mem_map_of_mem hj) _ (List.mem_map_of_mem (List.mem_map_of_mem hi))
  · rintro ⟨hnodup, hqueries⟩
    refine ⟨hnodup, hnodup, fun a ha b hb => ?_⟩
    obtain ⟨j, hj, rfl⟩ := List.mem_map.mp ha
    obtain ⟨c, hc, rfl⟩ := List.mem_map.mp hb
    obtain ⟨i, hi, rfl⟩ := List.mem_map.mp hc
    exact hqueries i hi j hj

theorem factoryNames_start {m : Model} {name : String}
    (h : name ∈ m.classes.map Class.factoryName) : "new_".toList <+: name.toList := by
  obtain ⟨c, -, rfl⟩ := List.mem_map.mp h
  rw [Class.factoryName, String.toList_append]
  exact List.prefix_append _ _

theorem queryNames_start {m : Model} {name : String}
    (h : name ∈ m.indexes.flatMap Index.queryNames) : "find_".toList <+: name.toList := by
  obtain ⟨i, -, hi⟩ := List.mem_flatMap.mp h
  rcases List.mem_pair.mp hi with rfl | rfl
  · rw [String.toList_append]
    exact List.prefix_append _ _
  · have hfind : "find_".toList <+: "find_all_".toList := by decide
    rw [String.toList_append]
    exact hfind.trans (List.prefix_append _ _)

/-- Whether the names of the facade differ is a matter of classes among each
other and of indexes among each other. -/
theorem nodup_facadeNames (m : Model) : m.facadeNames.Nodup ↔ m.FacadeApart := by
  have hfixed : ∀ name ∈ facadeMethods, ¬ "new_".toList <+: name.toList ∧
      ¬ "find_".toList <+: name.toList := by
    decide
  have hverbs : ∀ name : String, "new_".toList <+: name.toList →
      ¬ "find_".toList <+: name.toList := by
    intro name hnew hfind
    exact absurd (List.prefix_or_prefix_of_prefix hnew hfind) (by decide)
  rw [facadeNames, List.nodup_append, List.nodup_append, nodup_factoryNames, nodup_queryNames]
  constructor
  · rintro ⟨⟨-, hclasses, -⟩, ⟨hindexes, hqueries⟩, -⟩
    exact ⟨hclasses, hindexes, hqueries⟩
  · intro h
    refine ⟨⟨by decide, h.classes, ?_⟩, ⟨h.indexes, h.queries⟩, ?_⟩
    · rintro name hname _ hmem rfl
      exact (hfixed name hname).1 (factoryNames_start hmem)
    · rintro name hname _ hmem rfl
      rcases List.mem_append.mp hname with hname | hname
      · exact (hfixed name hname).2 (queryNames_start hmem)
      · exact hverbs name (factoryNames_start hname) (queryNames_start hmem)

end Model
end Schema

namespace Generate

open Schema (Index Model)

namespace Scope

variable {s : Scope} {c : Schema.Class} {i : Index}

theorem planFactory_name {factory : Factory} (h : s.planFactory c = .ok factory) :
    factory.method = c.factoryName := by
  simp only [planFactory, bind_eq_ok] at h
  obtain ⟨accessor, -, method, hmethod, h⟩ := h
  rw [← Except.ok.inj h]
  exact checkedIdent_verb (by decide) hmethod

theorem planQuery_names {query : Query} (h : s.planQuery i = .ok query) :
    [query.find, query.findAll] = i.queryNames := by
  simp only [planQuery, bind_eq_ok] at h
  obtain ⟨_, -, accessor, -, constant, -, find, hfind, findAll, hfindAll, h⟩ := h
  rw [← Except.ok.inj h, Index.queryNames]
  show [find, findAll] = _
  rw [checkedIdent_verb (by decide) hfind, checkedIdent_verb (by decide) hfindAll]
  rfl

theorem planFacade_names {facade : Facade} (h : s.planFacade = .ok facade) :
    facade.factories.map Factory.method = s.model.classes.map Schema.Class.factoryName ∧
    facade.queries.flatMap (fun q => [q.find, q.findAll]) =
      s.model.indexes.flatMap Index.queryNames := by
  simp only [planFacade, bind_eq_ok] at h
  obtain ⟨typeName, -, plugin, -, constants, -, factories, hfactories, queries, hqueries, h⟩ := h
  rw [← Except.ok.inj h]
  constructor
  · rw [List.map_eq_flatMap, List.map_eq_flatMap]
    exact flatMap_of_mapM (fun c f hf => by rw [planFactory_name hf]) hfactories
  · exact flatMap_of_mapM (fun i q hq => planQuery_names hq) hqueries

end Scope

theorem Facade.inherentNames_file (s : Scope) (facade : Facade) :
    (facade.file s).inherentNames = Model.facadeMethods ++
      facade.factories.map Factory.method ++
      facade.queries.flatMap fun q => [q.find, q.findAll] := by
  have hconstants : facade.constantMembers.filterMap Code.Member.functionName? = [] := by
    rw [Facade.constantMembers, List.filterMap_append, List.filterMap_map]
    exact List.append_eq_nil_iff.mpr ⟨rfl, List.filterMap_eq_nil_iff.mpr fun c _ => rfl⟩
  have hfactory : Code.Member.functionName? ∘ Facade.factoryMethod = some ∘ Factory.method := rfl
  have hquery : ∀ q, (Facade.queryMethods s q).filterMap Code.Member.functionName? =
      [q.find, q.findAll] := fun _ => rfl
  simp only [Code.File.inherentNames, Facade.file, List.flatMap_cons, List.flatMap_nil,
    List.filterMap_append, List.filterMap_map, List.filterMap_flatMap, hconstants, hfactory,
    hquery, List.filterMap_eq_map, List.append_nil, List.nil_append]
  rfl

variable {m : Model} {config : Config} {artifacts : List Artifact}

theorem facade_of_generate (h : (generate m config).outcome = .ok artifacts) :
    ∃ file, IsOnlyFile artifacts .model file ∧ file.inherentNames = m.facadeNames := by
  obtain ⟨s, facade, api, hs, hfacade, -, honly, -⟩ := Scope.generate_globals h
  simp only [Scope.facadeArtifact, bind_eq_ok] at hfacade
  obtain ⟨plan, hplan, hrender⟩ := hfacade
  obtain ⟨hfactories, hqueries⟩ := Scope.planFacade_names hplan
  rw [(Scope.of_eq_ok hs).1] at hfactories hqueries
  refine ⟨_, honly.file hrender, ?_⟩
  rw [Facade.inherentNames_file, hfactories, hqueries]
  rfl

/-- A run declares each function of the facade once exactly when its classes have
different names, its indexes have different names, and no index is called `all_`
and then like another. -/
theorem facade_functions_distinct_iff (h : (generate m config).outcome = .ok artifacts) :
    ∃ file, IsOnlyFile artifacts .model file ∧ file.inherentNames = m.facadeNames ∧
      (file.inherentNames.Nodup ↔ m.FacadeApart) := by
  obtain ⟨file, hfile, hnames⟩ := facade_of_generate h
  refine ⟨file, hfile, hnames, ?_⟩
  rw [hnames]
  exact m.nodup_facadeNames

theorem town_functions_distinct :
    ∃ artifacts file, (generate town {}).outcome = .ok artifacts ∧
      IsOnlyFile artifacts .model file ∧ file.inherentNames.Nodup := by
  obtain ⟨artifacts, h, -⟩ := town_generates
  obtain ⟨file, hfile, -, hdistinct⟩ := facade_functions_distinct_iff h
  refine ⟨artifacts, file, h, hfile, hdistinct.mpr ?_⟩
  constructor <;> decide +kernel

/-- A class with two indexes over its attribute `x`: one called like it, and
another. -/
def listed (other : String) : Model :=
  let a := ({ ident := .of none "A" } : Schema.Class).addProperty
    { name := "x", type := "String", kind := .attribute }
  let index (name : String) : Index :=
    { ident := .of none name, className := "A", members := ({} : Std.TreeSet String).insert "x" }
  ((Model.empty.add (.ofClass a)).add (.ofIndex (index "x"))).add (.ofIndex (index other))

/-- The facade finds all nodes of `x` as `find_all_x`, and some of `all_x`. -/
theorem listed_functions_clash :
    ∃ artifacts file, (generate (listed "all_x") {}).outcome = .ok artifacts ∧
      IsOnlyFile artifacts .model file ∧ ¬ file.inherentNames.Nodup := by
  obtain ⟨artifacts, h⟩ : ∃ artifacts, (generate (listed "all_x") {}).outcome = .ok artifacts :=
    exists_ok_of_isOk (by decide +kernel)
  obtain ⟨file, hfile, hnames⟩ := facade_of_generate h
  refine ⟨artifacts, file, h, hfile, ?_⟩
  rw [hnames]
  decide +kernel

end Generate
end TypedGraph
