/-
The artifacts of a successful run.

`generate_ok` opens a run into the artifacts of classifiers, the global ones and
the module indexes.  Only the last are of the kind of an index, and every class
has its accessor among the first (`entityOf_generate`).
-/
import Mathlib.Data.List.Forall2
import TypedGraph.Generate.Run
import TypedGraph.Proofs.AccessorPlan
import TypedGraph.Proofs.Registry

namespace TypedGraph

/-- A traversal succeeds when each of its steps does. -/
theorem mapM_eq_ok {ε α β : Type} {f : α → Except ε β} {as : List α} {bs : List β} :
    as.mapM f = .ok bs ↔ List.Forall₂ (fun a b => f a = .ok b) as bs := by
  induction as generalizing bs with
  | nil =>
    rw [List.forall₂_nil_left_iff]
    exact ⟨fun h => (Except.ok.inj h).symm, fun h => by rw [h]; rfl⟩
  | cons a as ih =>
    simp only [List.mapM_cons, bind_eq_ok, List.forall₂_cons_left_iff, ih]
    constructor
    · rintro ⟨b, hb, rest, hrest, h⟩
      exact ⟨b, rest, hb, hrest, (Except.ok.inj h).symm⟩
    · rintro ⟨b, rest, hb, hrest, rfl⟩
      exact ⟨b, hb, rest, hrest, rfl⟩

/-- What a traversal makes agrees with what it was given, when each step does. -/
theorem flatMap_of_mapM {ε α β γ : Type} {plan : α → Except ε β} {f : β → List γ} {g : α → List γ}
    {as : List α} {bs : List β} (hplan : ∀ a b, plan a = .ok b → f b = g a)
    (h : as.mapM plan = .ok bs) : bs.flatMap f = as.flatMap g := by
  rw [mapM_eq_ok] at h
  induction h with
  | nil => rfl
  | cons hstep _ ih => rw [List.flatMap_cons, hplan _ _ hstep, ih, List.flatMap_cons]

theorem exists_left {α β : Type} {R : α → β → Prop} {as : List α} {bs : List β} {b : β}
    (h : List.Forall₂ R as bs) (hb : b ∈ bs) : ∃ a ∈ as, R a b := by
  induction h with
  | nil => exact absurd hb List.not_mem_nil
  | cons hhead _ ih =>
    rcases List.mem_cons.mp hb with rfl | hb
    · exact ⟨_, List.mem_cons_self, hhead⟩
    · obtain ⟨a, ha, hr⟩ := ih hb
      exact ⟨a, List.mem_cons_of_mem _ ha, hr⟩

theorem exists_right {α β : Type} {R : α → β → Prop} {as : List α} {bs : List β} {a : α}
    (h : List.Forall₂ R as bs) (ha : a ∈ as) : ∃ b ∈ bs, R a b :=
  exists_left (R := flip R) (List.Forall₂.flip h) ha

theorem ne_of_compare_lt {a b : String} (h : compare a b = .lt) : a ≠ b := by
  rintro rfl
  exact absurd h (Std.OrientedCmp.not_lt_of_lt h)

/-- Ascending names are told by which of them there are. -/
theorem eq_of_ascending {xs ys : List String} (hx : xs.Pairwise fun a b => compare a b = .lt)
    (hy : ys.Pairwise fun a b => compare a b = .lt) (h : ∀ a, a ∈ xs ↔ a ∈ ys) : xs = ys := by
  have hperm : xs.Perm ys :=
    (List.perm_ext_iff_of_nodup (hx.imp ne_of_compare_lt) (hy.imp ne_of_compare_lt)).mpr h
  refine hperm.eq_of_pairwise (fun a b _ _ hab hba => ?_) hx hy
  exact absurd hba (Std.OrientedCmp.not_lt_of_lt hab)

namespace Traced

theorem outcome_forM_log {ε α : Type} (as : List α) (f : α → Event) :
    (as.forM fun a => log (f a) : Traced ε Unit).outcome = .ok () := by
  induction as with
  | nil => rfl
  | cons a as ih =>
    show (log (f a) >>= fun _ => as.forM fun a => log (f a)).outcome = .ok ()
    rw [outcome_bind]
    exact ih

theorem outcome_some_map {ε α : Type} {x : Traced ε α} {made : Option α} :
    (some <$> x).outcome = .ok made ↔ ∃ a, x.outcome = .ok a ∧ made = some a := by
  show (x >>= fun a => pure (some a)).outcome = .ok made ↔ _
  rw [outcome_bind, bind_eq_ok]
  constructor
  · rintro ⟨a, ha, h⟩
    exact ⟨a, ha, (Except.ok.inj h).symm⟩
  · rintro ⟨a, ha, rfl⟩
    exact ⟨a, ha, rfl⟩

end Traced

theorem Schema.Model.mem_classifiers_of_class {m : Schema.Model} {c : Schema.Class}
    (h : c ∈ m.classes) : .ofClass c ∈ m.classifiers :=
  mem_classifiers.mpr (class?_eq_some.mp (mem_classes.mp h))

namespace Generate

open Schema (Classifier Model)

theorem Artifact.render_ok {name : String} {package : Option String} {kind : ArtifactKind}
    {file : Code.File} {x : Artifact} (h : Artifact.render name package kind file = .ok x) :
    x = { name, package, kind, body := file.text } := by
  unfold Artifact.render at h
  split at h
  · exact (Except.ok.inj h).symm
  · exact nomatch h

/-- An artifact of a run that has no other of its kind. -/
structure IsOnly (artifacts : List Artifact) (x : Artifact) : Prop where
  mem : x ∈ artifacts
  unique : ∀ y ∈ artifacts, y.kind = x.kind → y = x

/-- The text of a file is that of the one artifact of a kind. -/
def IsOnlyFile (artifacts : List Artifact) (kind : ArtifactKind) (file : Code.File) : Prop :=
  ∃ x, IsOnly artifacts x ∧ x.kind = kind ∧ x.body = file.text

theorem IsOnly.file {artifacts : List Artifact} {x : Artifact} {name : String}
    {package : Option String} {kind : ArtifactKind} {file : Code.File} (h : IsOnly artifacts x)
    (hx : Artifact.render name package kind file = .ok x) : IsOnlyFile artifacts kind file := by
  have heq := Artifact.render_ok hx
  exact ⟨x, h, congrArg Artifact.kind heq, congrArg Artifact.body heq⟩

namespace Scope

variable {s : Scope} {m : Model} {config : Config} {c : Schema.Class} {x : Artifact}
  {artifacts : List Artifact}

/-! ## Runs -/

/-- The artifacts of a run are those of classifiers, the global ones, and the
indexes of both. -/
theorem generate_ok (h : (generate m config).outcome = .ok artifacts) :
    ∃ s own global indexes, Scope.of m config = .ok s ∧
      (s.classifierArtifacts m.classifiers).outcome = .ok own ∧
      s.globalArtifacts = .ok global ∧ moduleIndexes (own ++ global) = .ok indexes ∧
      artifacts = own ++ global ++ indexes := by
  unfold generate Scope.artifacts at h
  simp only [Traced.outcome_bind, Traced.outcome_of, bind_eq_ok, Traced.outcome_forM_log] at h
  obtain ⟨s, hs, own, hown, global, hglobal, indexes, hindexes, _, -, _, -, h⟩ := h
  rw [(of_eq_ok hs).1] at hown
  exact ⟨s, own, global, indexes, hs, hown, hglobal, hindexes, (Except.ok.inj h).symm⟩

/-- The same of a scope that is at hand. -/
theorem parts_of_generate (h : (generate m config).outcome = .ok artifacts)
    (hs : Scope.of m config = .ok s) :
    ∃ own global indexes, (s.classifierArtifacts m.classifiers).outcome = .ok own ∧
      s.globalArtifacts = .ok global ∧ moduleIndexes (own ++ global) = .ok indexes ∧
      artifacts = own ++ global ++ indexes := by
  obtain ⟨s', own, global, indexes, hs', hparts⟩ := generate_ok h
  obtain rfl : s = s' := Except.ok.inj (hs.symm.trans hs')
  exact ⟨own, global, indexes, hparts⟩

theorem classifierArtifacts_ok {classifiers : List Classifier} {own : List Artifact}
    (h : (s.classifierArtifacts classifiers).outcome = .ok own) :
    (∀ f ∈ classifiers, ∃ made, (s.classifierArtifact f).outcome = .ok made ∧
      ∀ x, made = some x → x ∈ own) ∧
    ∀ x ∈ own, ∃ f ∈ classifiers, (s.classifierArtifact f).outcome = .ok (some x) := by
  induction classifiers generalizing own with
  | nil =>
    have hown := Except.ok.inj h
    subst hown
    exact ⟨fun f hf => absurd hf List.not_mem_nil, fun x hx => absurd hx List.not_mem_nil⟩
  | cons f rest ih =>
    simp only [classifierArtifacts, Traced.outcome_bind, bind_eq_ok] at h
    obtain ⟨made, hmade, others, hothers, h⟩ := h
    have hown := Except.ok.inj h
    subst hown
    obtain ⟨hall, honly⟩ := ih hothers
    constructor
    · intro g hg
      rcases List.mem_cons.mp hg with rfl | hg
      · refine ⟨made, hmade, fun x hx => List.mem_append_left others ?_⟩
        rw [hx]
        exact List.mem_singleton.mpr rfl
      · obtain ⟨made', hmade', hmem⟩ := hall g hg
        exact ⟨made', hmade', fun x hx => List.mem_append_right _ (hmem x hx)⟩
    · intro x hx
      rcases List.mem_append.mp hx with hx | hx
      · rw [Option.mem_toList.mp hx] at hmade
        exact ⟨f, List.mem_cons_self, hmade⟩
      · obtain ⟨g, hg, hmade'⟩ := honly x hx
        exact ⟨g, List.mem_cons_of_mem f hg, hmade'⟩

/-! ## Accessors among them -/

/-- The accessor that a class was given, with the artifact that holds its text. -/
structure EntityOf (s : Scope) (artifacts : List Artifact) (c : Schema.Class) (a : Accessor) :
    Prop where
  planned : (s.planAccessor c).outcome = .ok a
  written : { name := c.name, package := c.ident.modulePackage, kind := .entity,
              body := (a.file s).text } ∈ artifacts

theorem entityArtifact_ok (h : (s.entityArtifact c).outcome = .ok x) :
    ∃ a, (s.planAccessor c).outcome = .ok a ∧
      x = { name := c.name, package := c.ident.modulePackage, kind := .entity,
            body := (a.file s).text } := by
  unfold entityArtifact at h
  rw [Traced.outcome_bind, bind_eq_ok] at h
  obtain ⟨a, ha, h⟩ := h
  exact ⟨a, ha, Artifact.render_ok h⟩

/-- Every class has its accessor in a run that succeeds. -/
theorem exists_entityOf (h : (generate m config).outcome = .ok artifacts)
    (hs : Scope.of m config = .ok s) (hc : c ∈ m.classes) : ∃ a, EntityOf s artifacts c a := by
  obtain ⟨own, global, indexes, hown, -, -, rfl⟩ := parts_of_generate h hs
  obtain ⟨made, hmade, hmem⟩ := (classifierArtifacts_ok hown).1 (.ofClass c)
    (Model.mem_classifiers_of_class hc)
  obtain ⟨x, hx, hmade⟩ := Traced.outcome_some_map.mp hmade
  obtain ⟨a, ha, rfl⟩ := entityArtifact_ok hx
  refine ⟨a, ha, ?_⟩
  rw [List.append_assoc]
  exact List.mem_append_left _ (hmem _ hmade)

theorem entityOf_generate (h : (generate m config).outcome = .ok artifacts) :
    ∃ s, Scope.of m config = .ok s ∧ ∀ c ∈ m.classes, ∃ a, EntityOf s artifacts c a := by
  obtain ⟨s, -, -, -, hs, -⟩ := generate_ok h
  exact ⟨s, hs, fun c hc => exists_entityOf h hs hc⟩

/-! ## Kinds -/

/-- An artifact has the kind that it is rendered with. -/
theorem kind_of_render {α : Type} {plan : Except GenerateError α} {name : α → String}
    {package : Option String} {kind : ArtifactKind} {file : α → Code.File}
    (h : (plan >>= fun a => Artifact.render (name a) package kind (file a)) = .ok x) :
    x.kind = kind := by
  obtain ⟨a, -, h⟩ := bind_eq_ok.mp h
  rw [Artifact.render_ok h]

theorem not_index_of_kind {kind : ArtifactKind} (h : x.kind = kind) (hkind : kind ≠ .moduleIndex) :
    x.isModuleIndex = false := by
  rw [Artifact.isModuleIndex, h]
  exact beq_eq_false_iff_ne.mpr hkind

theorem kind_classifierArtifact {f : Classifier}
    (h : (s.classifierArtifact f).outcome = .ok (some x)) :
    x.kind = .enumeration ∨ x.kind = .entity := by
  match f with
  | .ofEnum e =>
    simp only [classifierArtifact, Traced.outcome_of, map_eq_pure_bind, bind_eq_ok] at h
    obtain ⟨y, hy, hx⟩ := h
    rw [← Option.some.inj (Except.ok.inj hx)]
    exact .inl (kind_of_render hy)
  | .ofClass c =>
    obtain ⟨y, hy, hx⟩ := Traced.outcome_some_map.mp h
    obtain ⟨a, -, rfl⟩ := entityArtifact_ok hy
    rw [Option.some.inj hx]
    exact .inr rfl
  | .ofIndex i => exact nomatch h

theorem not_index_classifierArtifact {f : Classifier}
    (h : (s.classifierArtifact f).outcome = .ok (some x)) : x.isModuleIndex = false := by
  rcases kind_classifierArtifact h with hkind | hkind
  · exact not_index_of_kind hkind (by decide)
  · exact not_index_of_kind hkind (by decide)

theorem kind_moduleIndexes {indexes : List Artifact} (h : moduleIndexes artifacts = .ok indexes) :
    ∀ x ∈ indexes, x.kind = .moduleIndex := by
  simp only [moduleIndexes, bind_eq_ok] at h
  obtain ⟨packages, -, _, -, h⟩ := h
  intro x hx
  obtain ⟨entry, -, hentry⟩ := exists_left (mapM_eq_ok.mp h) hx
  exact kind_of_render hentry

/-- The global artifacts in their order. -/
theorem globalArtifacts_eq {global : List Artifact} (h : s.globalArtifacts = .ok global) :
    ∃ plugin facade api action selections time, s.pluginArtifact = .ok plugin ∧
      s.facadeArtifact = .ok facade ∧ s.taskApiArtifact = .ok api ∧
      s.otherWorldArtifact = .ok action ∧
      List.Forall₂ (fun c x => s.selectionArtifact c = .ok x) s.model.classes selections ∧
      s.timeArtifact = .ok time ∧ global = [plugin, facade, api, action] ++ selections ++ [time] := by
  simp only [globalArtifacts, taskArtifacts, bind_eq_ok] at h
  obtain ⟨plugin, hplugin, facade, hfacade, tasks, ⟨_, -, api, hapi, action, haction, selections,
    hselections, htasks⟩, time, htime, h⟩ := h
  rw [← Except.ok.inj h, ← Except.ok.inj htasks]
  exact ⟨plugin, facade, api, action, selections, time, hplugin, hfacade, hapi, haction,
    mapM_eq_ok.mp hselections, htime, rfl⟩

/-- Where a global artifact comes from. -/
theorem made_of_mem_global {global : List Artifact} (h : s.globalArtifacts = .ok global)
    (hx : x ∈ global) : s.pluginArtifact = .ok x ∨ s.facadeArtifact = .ok x ∨
      s.taskApiArtifact = .ok x ∨ s.otherWorldArtifact = .ok x ∨
      (∃ c ∈ s.model.classes, s.selectionArtifact c = .ok x) ∨ s.timeArtifact = .ok x := by
  obtain ⟨plugin, facade, api, action, selections, time, hplugin, hfacade, hapi, haction,
    hselections, htime, rfl⟩ := globalArtifacts_eq h
  simp only [List.cons_append, List.nil_append, List.mem_cons, List.mem_append,
    List.not_mem_nil, or_false] at hx
  rcases hx with rfl | rfl | rfl | rfl | hx | rfl
  · exact .inl hplugin
  · exact .inr (.inl hfacade)
  · exact .inr (.inr (.inl hapi))
  · exact .inr (.inr (.inr (.inl haction)))
  · obtain ⟨c, hc, hx⟩ := exists_left hselections hx
    exact .inr (.inr (.inr (.inr (.inl ⟨c, hc, hx⟩))))
  · exact .inr (.inr (.inr (.inr (.inr htime))))

/-- The facade and the task api are one artifact each, and the others are of
other kinds. -/
theorem globalArtifacts_ok {global : List Artifact} (h : s.globalArtifacts = .ok global) :
    ∃ facade api, s.facadeArtifact = .ok facade ∧ s.taskApiArtifact = .ok api ∧
      facade ∈ global ∧ api ∈ global ∧
      ∀ x ∈ global, x = facade ∨ x = api ∨
        x.kind ∈ [.plugin, .action, .selection, .timeHelper] := by
  obtain ⟨plugin, facade, api, action, selections, time, -, hfacade, hapi, -, -, -, hglobal⟩ :=
    globalArtifacts_eq h
  refine ⟨facade, api, hfacade, hapi, by simp [hglobal], by simp [hglobal], fun x hx => ?_⟩
  rcases made_of_mem_global h hx with hx | hx | hx | hx | ⟨c, -, hx⟩ | hx
  · exact .inr (.inr (by rw [kind_of_render hx]; decide))
  · exact .inl (Except.ok.inj (hx.symm.trans hfacade))
  · exact .inr (.inl (Except.ok.inj (hx.symm.trans hapi)))
  · exact .inr (.inr (by rw [kind_of_render hx]; decide))
  · exact .inr (.inr (by rw [kind_of_render hx]; decide))
  · exact .inr (.inr (by rw [kind_of_render hx]; decide))

theorem not_index_globalArtifacts {global : List Artifact}
    (h : s.globalArtifacts = .ok global) :
    ∀ x ∈ global, x.isModuleIndex = false := by
  obtain ⟨facade, api, hfacade, hapi, -, -, hothers⟩ := globalArtifacts_ok h
  intro x hx
  rcases hothers x hx with rfl | rfl | hkind
  · exact not_index_of_kind (kind_of_render hfacade) (by decide)
  · exact not_index_of_kind (kind_of_render hapi) (by decide)
  · refine not_index_of_kind rfl fun heq => ?_
    rw [heq] at hkind
    exact absurd hkind (by decide)

/-- What is made for a classifier is an accessor only if it is a class. -/
theorem class_of_entity {f : Classifier} (h : (s.classifierArtifact f).outcome = .ok (some x))
    (hkind : x.kind = .entity) : ∃ c, f = .ofClass c ∧ (s.entityArtifact c).outcome = .ok x := by
  match f with
  | .ofEnum e =>
    simp only [classifierArtifact, Traced.outcome_of, map_eq_pure_bind, bind_eq_ok] at h
    obtain ⟨y, hy, hx⟩ := h
    rw [← Option.some.inj (Except.ok.inj hx), kind_of_render hy] at hkind
    exact nomatch hkind
  | .ofClass c =>
    obtain ⟨y, hy, hx⟩ := Traced.outcome_some_map.mp h
    rw [Option.some.inj hx]
    exact ⟨c, rfl, hy⟩
  | .ofIndex i => exact nomatch h

theorem not_entity_globalArtifacts {global : List Artifact} (h : s.globalArtifacts = .ok global) :
    ∀ x ∈ global, x.kind ≠ .entity := by
  obtain ⟨facade, api, hfacade, hapi, -, -, hothers⟩ := globalArtifacts_ok h
  intro x hx
  rcases hothers x hx with rfl | rfl | hkind
  · rw [kind_of_render hfacade]
    decide
  · rw [kind_of_render hapi]
    decide
  · intro heq
    rw [heq] at hkind
    exact absurd hkind (by decide)

/-- The accessors of a run are those of its classes. -/
theorem entities_of_generate (h : (generate m config).outcome = .ok artifacts) :
    ∃ s, Scope.of m config = .ok s ∧ (∀ c ∈ m.classes, ∃ a, EntityOf s artifacts c a) ∧
      ∀ x ∈ artifacts, x.kind = .entity →
        ∃ c ∈ m.classes, ∃ a, EntityOf s artifacts c a ∧ x.body = (a.file s).text := by
  obtain ⟨s, own, global, indexes, hs, hown, hglobal, hindexes, rfl⟩ := generate_ok h
  refine ⟨s, hs, fun c hc => exists_entityOf h hs hc, fun x hx hkind => ?_⟩
  have hmem := hx
  rw [List.append_assoc, List.mem_append, List.mem_append] at hmem
  rcases hmem with hmem | hmem | hmem
  · obtain ⟨f, hf, hmade⟩ := (classifierArtifacts_ok hown).2 x hmem
    obtain ⟨c, rfl, hc⟩ := class_of_entity hmade hkind
    obtain ⟨a, ha, rfl⟩ := entityArtifact_ok hc
    exact ⟨c, List.mem_filterMap.mpr ⟨_, hf, rfl⟩, a, ⟨ha, hx⟩, by dsimp only⟩
  · exact absurd hkind (not_entity_globalArtifacts hglobal x hmem)
  · rw [kind_moduleIndexes hindexes x hmem] at hkind
    exact nomatch hkind

theorem not_index_made {own global : List Artifact}
    (hown : (s.classifierArtifacts m.classifiers).outcome = .ok own)
    (hglobal : s.globalArtifacts = .ok global) :
    ∀ x ∈ own ++ global, x.isModuleIndex = false := by
  intro x hx
  rcases List.mem_append.mp hx with hx | hx
  · obtain ⟨f, -, hf⟩ := (classifierArtifacts_ok hown).2 x hx
    exact not_index_classifierArtifact hf
  · exact not_index_globalArtifacts hglobal x hx

/-- The indexes of a run are made last, and nothing before them is an index. -/
theorem generate_indexes (h : (generate m config).outcome = .ok artifacts) :
    ∃ made indexes, (∀ x ∈ made, x.isModuleIndex = false) ∧ moduleIndexes made = .ok indexes ∧
      artifacts = made ++ indexes := by
  obtain ⟨s, own, global, indexes, -, hown, hglobal, hindexes, h⟩ := generate_ok h
  exact ⟨own ++ global, indexes, not_index_made hown hglobal, hindexes, h⟩

/-! ## Artifacts that are alone in their kind -/

/-- A global artifact is the only one of its kind in a run when it is so among the
global ones: those of classifiers, and the indexes, are of kinds of their own. -/
theorem isOnly_of_global {own global indexes : List Artifact}
    (hown : (s.classifierArtifacts m.classifiers).outcome = .ok own)
    (hindexes : moduleIndexes (own ++ global) = .ok indexes) (hx : x ∈ global)
    (hkind : x.kind ∉ [.enumeration, .entity, .moduleIndex])
    (honly : ∀ y ∈ global, y.kind = x.kind → y = x) : IsOnly (own ++ global ++ indexes) x := by
  refine ⟨List.mem_append_left _ (List.mem_append_right _ hx), fun y hy hy_kind => ?_⟩
  rw [← hy_kind] at hkind
  rw [List.append_assoc, List.mem_append, List.mem_append] at hy
  rcases hy with hy | hy | hy
  · obtain ⟨f, -, hf⟩ := (classifierArtifacts_ok hown).2 y hy
    rcases kind_classifierArtifact hf with hclassifier | hclassifier
    · rw [hclassifier] at hkind
      exact absurd (by decide) hkind
    · rw [hclassifier] at hkind
      exact absurd (by decide) hkind
  · exact honly y hy hy_kind
  · rw [kind_moduleIndexes hindexes y hy] at hkind
    exact absurd (by decide) hkind

/-- The facade of a run, and the task api of a run, are the only artifacts of
their kinds. -/
theorem generate_globals (h : (generate m config).outcome = .ok artifacts) :
    ∃ s facade api, Scope.of m config = .ok s ∧ s.facadeArtifact = .ok facade ∧
      s.taskApiArtifact = .ok api ∧ IsOnly artifacts facade ∧ IsOnly artifacts api := by
  obtain ⟨s, own, global, indexes, hs, hown, hglobal, hindexes, rfl⟩ := generate_ok h
  obtain ⟨facade, api, hfacade, hapi, hmemFacade, hmemApi, hothers⟩ := globalArtifacts_ok hglobal
  have hkindFacade : facade.kind = .model := kind_of_render hfacade
  have hkindApi : api.kind = .taskApi := kind_of_render hapi
  refine ⟨s, facade, api, hs, hfacade, hapi, isOnly_of_global hown hindexes hmemFacade ?_ ?_,
    isOnly_of_global hown hindexes hmemApi ?_ ?_⟩
  · rw [hkindFacade]
    decide
  · intro x hx hkind
    rcases hothers x hx with rfl | rfl | hother
    · rfl
    · rw [hkindApi, hkindFacade] at hkind
      exact nomatch hkind
    · rw [hkind, hkindFacade] at hother
      exact absurd hother (by decide)
  · rw [hkindApi]
    decide
  · intro x hx hkind
    rcases hothers x hx with rfl | rfl | hother
    · rw [hkindApi, hkindFacade] at hkind
      exact nomatch hkind
    · rfl
    · rw [hkind, hkindApi] at hother
      exact absurd hother (by decide)

/-- The plugin of a run is the only artifact of its kind. -/
theorem exists_plugin (h : (generate m config).outcome = .ok artifacts)
    (hs : Scope.of m config = .ok s) :
    ∃ plugin, s.pluginArtifact = .ok plugin ∧ IsOnly artifacts plugin := by
  obtain ⟨own, global, indexes, hown, hglobal, hindexes, rfl⟩ := parts_of_generate h hs
  obtain ⟨plugin, _, _, _, _, _, hplugin, -, -, -, -, -, heq⟩ := globalArtifacts_eq hglobal
  have hkind : plugin.kind = .plugin := kind_of_render hplugin
  refine ⟨plugin, hplugin, isOnly_of_global hown hindexes (by simp [heq]) ?_ fun x hx hsame => ?_⟩
  · rw [hkind]
    decide
  · rw [hkind] at hsame
    rcases made_of_mem_global hglobal hx with hx | hx | hx | hx | ⟨c, -, hx⟩ | hx
    · exact Except.ok.inj (hx.symm.trans hplugin)
    all_goals
      rw [kind_of_render hx] at hsame
      cases hsame

end Scope

/-! ## Runs that succeed -/

def owner : Schema.Class :=
  ({ ident := .of "s" "Person" } : Schema.Class).addProperty
    { name := "owns", type := "s.Car", kind := .relation,
      parameters := ({} : Std.TreeMap String String).insert Schema.oppositeParameter "ownedBy" }

/-- Persons own cars, and the class that cars descend from says whose they are. -/
def garage : Model :=
  let vehicle := ({ ident := .of "s" "Vehicle" } : Schema.Class).addProperty
    { name := "ownedBy", type := "s.Person", kind := .relation }
  let car : Schema.Class := { ident := .of "s" "Car", parent := some "s.Vehicle" }
  ((Model.empty.add (.ofClass owner)).add (.ofClass vehicle)).add (.ofClass car)

theorem garage_generates : ∃ artifacts, (generate garage {}).outcome = .ok artifacts :=
  exists_ok_of_isOk (by decide +kernel)

/-- A class with an attribute that is derived, one that is learned with an algorithm,
and one that is stored. -/
def measured : Schema.Class :=
  ((({ ident := .of "s" "Person" } : Schema.Class).addProperty
    { name := "age", type := "Integer", kind := .attribute, derived := true }).addProperty
      { name := "mood", type := "Double", kind := .attribute, learned := true,
        algorithm := some "PolynomialNode" }).addProperty
          { name := "name", type := "String", kind := .attribute }

/-- The same with a relation that leads nowhere. -/
def resident : Schema.Class :=
  measured.addProperty { name := "tags", type := "String", kind := .relation }

def learnedPrice : Schema.Property :=
  { name := "price", type := "Double", kind := .attribute, algorithm := some "Regression" }

/-- An algorithm does not help a derived attribute. -/
def derivedRent : Schema.Property :=
  { name := "rent", type := "Double", kind := .attribute, algorithm := some "Regression",
    derived := true }

def house : Schema.Class :=
  (({ ident := .of "s" "House" } : Schema.Class).addProperty learnedPrice).addProperty derivedRent

/-- Classes in packages that are one in lower case, an enumeration below a package of no
classes, and an index over the relation that leads nowhere. -/
def town : Model :=
  Model.empty.run [
    .classifier (.ofClass resident), .classifier (.ofClass house),
    .classifier (.ofClass { ident := .of "S" "Car" }),
    .classifier (.ofEnum { ident := .of "paint.shop" "Hue", literals := ["Red"] }),
    .index "s.byTag" "s.Person" ["age", "tags"]]

/-- The packages and modules that are made for a town. -/
def townNames : List String :=
  ["s", "car", "house", "person", "paint", "shop", "hue", "app_plugin", "app_model", "task",
    "app_task_api", "action_resolved_in_other_world", "task_function_select_car",
    "task_function_select_house", "task_function_select_person", "time", "app_time_helper"]

theorem town_generates : ∃ artifacts, (generate town {}).outcome = .ok artifacts ∧
    ∀ a ∈ artifacts, a.isModuleIndex = false → ∀ n ∈ a.segments ++ [a.module_], n ∈ townNames := by
  have hrun : (generate town {}).outcome.toOption.map (fun artifacts => decide (∀ a ∈ artifacts,
      a.isModuleIndex = false → ∀ n ∈ a.segments ++ [a.module_], n ∈ townNames)) = some true := by
    decide +kernel
  obtain ⟨artifacts, h, hnames⟩ := exists_ok_of_map hrun
  exact ⟨artifacts, h, of_decide_eq_true hnames⟩

end Generate
end TypedGraph
