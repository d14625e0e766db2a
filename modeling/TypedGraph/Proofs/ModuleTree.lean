/-
The module tree of a run.

The indexes are made in one pass over all other artifacts.  `PackageMap.Lists` is
what the pass keeps true of the packages met so far, and the indexes follow from
it package by package.  That no two files of a run share a path
(`artifacts_form_module_tree`) rests on the collision check, on the shadowing
check, and on `mod` being a keyword, which keeps other artifacts from the name of
an index.
-/
import Mathlib.Data.List.Nodup
import TypedGraph.Proofs.Artifacts

namespace TypedGraph
namespace Generate

/-- A list that ends in a name starts a list at its head or further on. -/
theorem concat_prefix_cons {q rest : List String} {n segment : String} :
    q ++ [n] <+: segment :: rest ↔
      (q = [] ∧ n = segment) ∨ ∃ q', q = segment :: q' ∧ q' ++ [n] <+: rest := by
  cases q with
  | nil => simp
  | cons k q => simp [List.cons_prefix_cons, and_assoc]

theorem prefix_iff_eq_or_concat {p q : List String} :
    p <+: q ↔ q = p ∨ ∃ n, p ++ [n] <+: q := by
  constructor
  · rintro ⟨rest, rfl⟩
    cases rest with
    | nil => exact .inl (List.append_nil p)
    | cons n rest => exact .inr ⟨n, rest, by simp⟩
  · rintro (rfl | ⟨n, h⟩)
    · exact List.prefix_refl q
    · exact (List.prefix_append p [n]).trans h

namespace PackageMap

variable {m m' : PackageMap} {above rest p : List String} {n : String} {a : Artifact}
  {artifacts : List Artifact}

theorem contents_insert (q : List String) (c : PackageContents) :
    contents (m.insert q c) p = if q = p then c else m.contents p := by
  unfold contents
  rw [Std.TreeMap.getElem?_insert]
  simp only [Std.LawfulEqCmp.compare_eq_iff_eq]
  split <;> rfl

theorem children_insert {q : List String} {c : PackageContents}
    (h : c.children = (m.contents q).children) :
    (contents (m.insert q c) p).children = (m.contents p).children := by
  rw [contents_insert]
  by_cases hq : q = p
  · rw [if_pos hq, h, hq]
  · rw [if_neg hq]

theorem modules_insert {q : List String} {c : PackageContents}
    (h : c.modules = (m.contents q).modules) :
    (contents (m.insert q c) p).modules = (m.contents p).modules := by
  rw [contents_insert]
  by_cases hq : q = p
  · rw [if_pos hq, h, hq]
  · rw [if_neg hq]

/-! ## One artifact -/

theorem mem_addChildren : p ∈ m.addChildren above rest ↔
    p ∈ m ∨ ∃ q n, q ++ [n] <+: rest ∧ p = above ++ q := by
  induction rest generalizing m above with
  | nil => simp [addChildren]
  | cons segment rest ih =>
    rw [addChildren, ih, Std.TreeMap.mem_insert, Std.LawfulEqCmp.compare_eq_iff_eq]
    constructor
    · rintro ((rfl | h) | ⟨q, n, hq, rfl⟩)
      · exact .inr ⟨[], segment, by simp, by simp⟩
      · exact .inl h
      · exact .inr ⟨segment :: q, n, by simpa [List.cons_prefix_cons] using hq, by simp⟩
    · rintro (h | ⟨q, n, hq, rfl⟩)
      · exact .inl (.inr h)
      · rcases concat_prefix_cons.mp hq with ⟨rfl, -⟩ | ⟨q', rfl, hq'⟩
        · exact .inl (.inl (by simp))
        · exact .inr ⟨q', n, hq', by simp⟩

theorem modules_addChildren :
    ((m.addChildren above rest).contents p).modules = (m.contents p).modules := by
  induction rest generalizing m above with
  | nil => rfl
  | cons segment rest ih =>
    rw [addChildren, ih]
    exact modules_insert rfl

theorem mem_children_addChildren :
    n ∈ ((m.addChildren above rest).contents p).children ↔
      n ∈ (m.contents p).children ∨ ∃ q, q ++ [n] <+: rest ∧ p = above ++ q := by
  induction rest generalizing m above with
  | nil => simp [addChildren]
  | cons segment rest ih =>
    have hhere : n ∈ (contents (m.insert above { m.contents above with
        children := (m.contents above).children.insert segment }) p).children ↔
        n ∈ (m.contents p).children ∨ (p = above ∧ n = segment) := by
      rw [contents_insert]
      by_cases h : above = p
      · rw [if_pos h, Std.TreeSet.mem_insert, Std.LawfulEqCmp.compare_eq_iff_eq, h]
        constructor
        · rintro (rfl | hn)
          · exact .inr ⟨rfl, rfl⟩
          · exact .inl hn
        · rintro (hn | ⟨-, rfl⟩)
          · exact .inr hn
          · exact .inl rfl
      · rw [if_neg h]
        exact ⟨.inl, fun hn => hn.resolve_right fun he => h he.1.symm⟩
    rw [addChildren, ih, hhere]
    constructor
    · rintro ((h | ⟨rfl, rfl⟩) | ⟨q, hq, rfl⟩)
      · exact .inl h
      · exact .inr ⟨[], by simp, by simp⟩
      · exact .inr ⟨segment :: q, by simpa [List.cons_prefix_cons] using hq, by simp⟩
    · rintro (h | ⟨q, hq, rfl⟩)
      · exact .inl (.inl h)
      · rcases concat_prefix_cons.mp hq with ⟨rfl, rfl⟩ | ⟨q', rfl, hq'⟩
        · exact .inl (.inr (by simp))
        · exact .inr ⟨q', hq', by simp⟩

/-! ## All artifacts -/

/-- The packages are the root and those on the way to an artifact.  Each lists
the packages one segment below it and the modules of the artifacts in it, and no
two artifacts share a module. -/
structure Lists (m : PackageMap) (artifacts : List Artifact) : Prop where
  mem : ∀ p, p ∈ m ↔ p = [] ∨ ∃ a ∈ artifacts, p <+: a.segments
  children : ∀ p n, n ∈ (m.contents p).children ↔ ∃ a ∈ artifacts, p ++ [n] <+: a.segments
  modules : ∀ p n, n ∈ (m.contents p).modules ↔
    ∃ a ∈ artifacts, a.segments = p ∧ a.module_ = n
  nodup : (artifacts.map fun a => (a.segments, a.module_)).Nodup

theorem lists_root : Lists (({} : PackageMap).insert [] {}) [] where
  mem p := by
    rw [Std.TreeMap.mem_insert, Std.LawfulEqCmp.compare_eq_iff_eq]
    simp [eq_comm]
  children p n := by
    rw [contents_insert]
    split <;> simp [contents]
  modules p n := by
    rw [contents_insert]
    split <;> simp [contents]
  nodup := List.nodup_nil

theorem addArtifact_eq_ok (h : m.addArtifact a = .ok m') :
    a.module_ ∉ (m.contents a.segments).modules ∧
    (∀ p, p ∈ m' ↔ p ∈ m ∨ p <+: a.segments) ∧
    (∀ p n, n ∈ (m'.contents p).children ↔
      n ∈ (m.contents p).children ∨ p ++ [n] <+: a.segments) ∧
    (∀ p n, n ∈ (m'.contents p).modules ↔
      n ∈ (m.contents p).modules ∨ (a.segments = p ∧ a.module_ = n)) := by
  unfold addArtifact at h
  simp only at h
  split at h
  · exact nomatch h
  · rename_i hnew
    rw [← Except.ok.inj h]
    rw [modules_addChildren] at hnew
    refine ⟨fun hmem => hnew (Std.TreeSet.mem_iff_contains.mp hmem), ?_, ?_, ?_⟩
    · intro p
      rw [Std.TreeMap.mem_insert, Std.LawfulEqCmp.compare_eq_iff_eq, mem_addChildren,
        prefix_iff_eq_or_concat]
      simp only [List.nil_append]
      constructor
      · rintro (h | h | ⟨q, n, hq, rfl⟩)
        · exact .inr (.inl h)
        · exact .inl h
        · exact .inr (.inr ⟨n, hq⟩)
      · rintro (h | h | ⟨n, hq⟩)
        · exact .inr (.inl h)
        · exact .inl h
        · exact .inr (.inr ⟨p, n, hq, rfl⟩)
    · intro p n
      rw [children_insert (by rfl), mem_children_addChildren]
      simp
    · intro p n
      rw [contents_insert]
      split
      · rename_i hp
        rw [Std.TreeSet.mem_insert, Std.LawfulEqCmp.compare_eq_iff_eq, modules_addChildren, hp]
        simp [or_comm]
      · rename_i hp
        rw [modules_addChildren]
        simp [hp]

/-- The pass over artifacts keeps the packages in step with those it has met. -/
theorem Lists.step (h : Lists m artifacts) (ha : m.addArtifact a = .ok m') :
    Lists m' (artifacts ++ [a]) := by
  obtain ⟨hnew, hmem, hchildren, hmodules⟩ := addArtifact_eq_ok ha
  constructor
  · intro p
    rw [hmem, h.mem]
    simp [or_assoc, or_and_right, exists_or]
  · intro p n
    rw [hchildren, h.children]
    simp [or_and_right, exists_or]
  · intro p n
    rw [hmodules, h.modules]
    simp [or_and_right, exists_or]
  · rw [List.map_append, List.map_singleton]
    refine List.nodup_append.mpr ⟨h.nodup, List.nodup_singleton _, ?_⟩
    rintro _ hb _ hc rfl
    rw [List.mem_singleton.mp hc] at hb
    obtain ⟨b, hb, heq⟩ := List.mem_map.mp hb
    obtain ⟨hsegments, hmodule⟩ := Prod.mk.inj heq
    exact hnew ((h.modules _ _).mpr ⟨b, hb, hsegments, hmodule⟩)

theorem Lists.run {rest : List Artifact} (h : Lists m artifacts)
    (hrest : rest.foldlM addArtifact m = .ok m') : Lists m' (artifacts ++ rest) := by
  induction rest generalizing m artifacts with
  | nil =>
    rw [← Except.ok.inj hrest, List.append_nil]
    exact h
  | cons a rest ih =>
    rw [List.foldlM_cons, bind_eq_ok] at hrest
    obtain ⟨m₁, ha, hrest⟩ := hrest
    have hall := ih (h.step ha) hrest
    rw [List.append_assoc, List.singleton_append] at hall
    exact hall

/-- Packages are made of segments that no dot divides. -/
theorem Lists.segment (h : Lists m artifacts) (hp : p ∈ m) : ∀ n ∈ p, n ≠ "" ∧ '.' ∉ n.toList := by
  intro n hn
  rcases (h.mem p).mp hp with rfl | ⟨a, -, habove⟩
  · exact absurd hn List.not_mem_nil
  · exact mem_packageSegments (habove.subset hn)

theorem contents_of_mem_toList {c : PackageContents} (h : (p, c) ∈ m.toList) :
    m.contents p = c := by
  rw [contents, Std.TreeMap.mem_toList_iff_getElem?_eq_some.mp h]
  rfl

theorem mem_toList_contents (h : p ∈ m) : (p, m.contents p) ∈ m.toList := by
  refine Std.TreeMap.mem_toList_iff_getElem?_eq_some.mpr ?_
  obtain ⟨c, hc⟩ := Option.isSome_iff_exists.mp (Std.TreeMap.mem_iff_isSome_getElem?.mp h)
  rw [contents, hc]
  rfl

theorem lists_ofArtifacts (h : ofArtifacts artifacts = .ok m) : Lists m artifacts :=
  lists_root.run h

end PackageMap

/-! ## Indexes -/

/-- The artifact is the index of a package of these contents. -/
structure IndexOf (p : List String) (c : PackageContents) (x : Artifact) : Prop where
  isModuleIndex : x.isModuleIndex = true
  segments : x.segments = p
  body : ∃ names, List.Forall₂ (fun n name => Code.identifier? n = some name) c.names names ∧
    x.body = (indexFile names).text

theorem checkShadowing_ok {entries : List (List String × PackageContents)}
    (h : checkShadowing entries = .ok ()) :
    ∀ e ∈ entries, ∀ n ∈ e.2.modules, n ∉ e.2.children := by
  induction entries with
  | nil => exact fun e he => absurd he List.not_mem_nil
  | cons e rest ih =>
    obtain ⟨package, contents⟩ := e
    rw [checkShadowing] at h
    cases hs : contents.shadowed? with
    | some name =>
      rw [hs] at h
      exact nomatch h
    | none =>
      rw [hs] at h
      intro e he n hn hc
      rcases List.mem_cons.mp he with rfl | he
      · have hfree := List.find?_eq_none.mp hs n (Std.TreeSet.mem_toList.mpr hn)
        exact hfree (Std.TreeSet.mem_iff_contains.mp hc)
      · exact ih h e he n hn hc

theorem moduleIndex_ok {p : List String} {c : PackageContents} {x : Artifact}
    (hp : ∀ n ∈ p, n ≠ "" ∧ '.' ∉ n.toList) (h : moduleIndex (p, c) = .ok x) : IndexOf p c x := by
  simp only [moduleIndex, bind_eq_ok] at h
  obtain ⟨names, hnames, h⟩ := h
  rw [Artifact.render_ok h]
  refine ⟨rfl, ?_, names, (mapM_eq_ok.mp hnames).imp fun _ _ hn => checkedIdent_eq_ok.mp hn, rfl⟩
  show packageSegments _ = p
  cases p with
  | nil => rfl
  | cons n rest => exact packageSegments_intercalate (List.cons_ne_nil n rest) hp

namespace PackageMap

variable {m : PackageMap} {artifacts indexes : List Artifact}

theorem unshadowed_of_check (h : checkShadowing m.toList = .ok ()) :
    ∀ p ∈ m, ∀ n ∈ (m.contents p).modules, n ∉ (m.contents p).children := fun _ hp =>
  checkShadowing_ok h _ (mem_toList_contents hp)

/-- Indexes that are made of packages stand in the order of packages. -/
theorem Lists.indexOf (hlists : Lists m artifacts) (h : m.toList.mapM moduleIndex = .ok indexes) :
    List.Forall₂ (fun p x => IndexOf p (m.contents p) x) m.keys indexes := by
  rw [← Std.TreeMap.map_fst_toList_eq_keys, List.forall₂_map_left_iff]
  have hkeys : ∀ e ∈ m.toList, e.1 ∈ m ∧ m.contents e.1 = e.2 := by
    rintro ⟨p, c⟩ he
    refine ⟨?_, contents_of_mem_toList he⟩
    rw [Std.TreeMap.mem_iff_isSome_getElem?,
      Std.TreeMap.mem_toList_iff_getElem?_eq_some.mp he]
    rfl
  refine ((List.forall₂_and_left _ _).mpr ⟨hkeys, mapM_eq_ok.mp h⟩).imp ?_
  rintro ⟨p, c⟩ x ⟨⟨hp, hc⟩, hx⟩
  show IndexOf p (m.contents p) x
  rw [hc]
  exact moduleIndex_ok (hlists.segment hp) hx

end PackageMap

/-- The indexes are one for each package, in the order of packages. -/
theorem moduleIndexes_ok {artifacts indexes : List Artifact}
    (h : moduleIndexes artifacts = .ok indexes) :
    ∃ m : PackageMap, m.Lists artifacts ∧
      (∀ p ∈ m, ∀ n ∈ (m.contents p).modules, n ∉ (m.contents p).children) ∧
      List.Forall₂ (fun p x => IndexOf p (m.contents p) x) m.keys indexes := by
  simp only [moduleIndexes, bind_eq_ok] at h
  obtain ⟨m, hm, _, hshadow, hindexes⟩ := h
  have hlists := PackageMap.lists_ofArtifacts hm
  exact ⟨m, hlists, PackageMap.unshadowed_of_check hshadow, hlists.indexOf hindexes⟩

theorem identifier?_moduleIndexName : Code.identifier? moduleIndexName = none := by
  decide

namespace IndexOf

variable {p : List String} {c : PackageContents} {x : Artifact}

theorem module_eq (h : IndexOf p c x) : x.module_ = moduleIndexName := if_pos h.isModuleIndex

/-- What an index lists is never called like an index. -/
theorem name_ne (h : IndexOf p c x) {n : String} (hn : n ∈ c.names) : n ≠ moduleIndexName := by
  obtain ⟨names, hnames, -⟩ := h.body
  obtain ⟨name, -, hname⟩ := exists_right hnames hn
  rintro rfl
  rw [identifier?_moduleIndexName] at hname
  exact nomatch hname

end IndexOf

/-! ## Runs -/

/-- The artifacts are the files of one module tree. -/
structure IsModuleTree (artifacts : List Artifact) : Prop where
  paths : (artifacts.map fun a => (a.segments, a.module_)).Nodup
  /-- The root and each package on the way to an artifact have one index. -/
  indexes : ∀ p, artifacts.countP (fun x => x.isModuleIndex && x.segments == p) =
    if p = [] ∨ ∃ a ∈ artifacts, a.isModuleIndex = false ∧ p <+: a.segments then 1 else 0
  /-- An index declares the packages below its own, then the modules in it. -/
  declared : ∀ x ∈ artifacts, x.isModuleIndex = true → ∃ children modules names,
    (∀ n, n ∈ children ↔
      ∃ a ∈ artifacts, a.isModuleIndex = false ∧ x.segments ++ [n] <+: a.segments) ∧
    (∀ n, n ∈ modules ↔
      ∃ a ∈ artifacts, a.isModuleIndex = false ∧ a.segments = x.segments ∧ a.module_ = n) ∧
    (children ++ modules).Nodup ∧
    List.Forall₂ (fun n name => Code.identifier? n = some name) (children ++ modules) names ∧
    x.body = (indexFile names).text
  unshadowed : ∀ a ∈ artifacts, ∀ b ∈ artifacts, ¬ a.segments ++ [a.module_] <+: b.segments

/-- The second list holds the indexes of the packages of the first. -/
structure Indexed (made indexes : List Artifact) (m : PackageMap) : Prop where
  notIndex : ∀ a ∈ made, a.isModuleIndex = false
  lists : m.Lists made
  unshadowed : ∀ p ∈ m, ∀ n ∈ (m.contents p).modules, n ∉ (m.contents p).children
  indexOf : List.Forall₂ (fun p x => IndexOf p (m.contents p) x) m.keys indexes

namespace Indexed

variable {made indexes : List Artifact} {m : PackageMap} {a x : Artifact}

theorem exists_package (h : Indexed made indexes m) (hx : x ∈ indexes) :
    x.segments ∈ m ∧ IndexOf x.segments (m.contents x.segments) x := by
  obtain ⟨p, hp, hindex⟩ := exists_left h.indexOf hx
  rw [hindex.segments]
  exact ⟨Std.TreeMap.mem_keys.mp hp, hindex⟩

theorem exists_index (h : Indexed made indexes m) {p : List String} (hp : p ∈ m) :
    ∃ x ∈ indexes, IndexOf p (m.contents p) x :=
  exists_right (R := fun p x => IndexOf p (m.contents p) x) h.indexOf
    (Std.TreeMap.mem_keys.mpr hp)

theorem module_mem (h : Indexed made indexes m) (ha : a ∈ made) :
    a.segments ∈ m ∧ a.module_ ∈ (m.contents a.segments).modules :=
  ⟨(h.lists.mem _).mpr (.inr ⟨a, ha, List.prefix_refl _⟩),
    (h.lists.modules _ _).mpr ⟨a, ha, rfl, rfl⟩⟩

theorem module_ne (h : Indexed made indexes m) (ha : a ∈ made) :
    a.module_ ≠ moduleIndexName := by
  obtain ⟨hmem, hmodule⟩ := h.module_mem ha
  obtain ⟨x, -, hx⟩ := h.exists_index hmem
  exact hx.name_ne (List.mem_append_right _ (Std.TreeSet.mem_toList.mpr hmodule))

theorem segments_indexes (h : Indexed made indexes m) :
    indexes.map Artifact.segments = m.keys := by
  have heq : List.Forall₂ (· = ·) m.keys (indexes.map Artifact.segments) :=
    List.forall₂_map_right_iff.mpr (h.indexOf.imp fun p x hx => hx.segments.symm)
  rw [List.forall₂_eq_eq_eq] at heq
  exact heq.symm

/-- The artifacts of a run that are no index are those that the indexes list. -/
theorem exists_made_iff (h : Indexed made indexes m) {P : Artifact → Prop} :
    (∃ a ∈ made ++ indexes, a.isModuleIndex = false ∧ P a) ↔ ∃ a ∈ made, P a := by
  constructor
  · rintro ⟨a, ha, hkind, hp⟩
    rcases List.mem_append.mp ha with ha | ha
    · exact ⟨a, ha, hp⟩
    · rw [(h.exists_package ha).2.isModuleIndex] at hkind
      exact nomatch hkind
  · rintro ⟨a, ha, hp⟩
    exact ⟨a, List.mem_append_left _ ha, h.notIndex a ha, hp⟩

theorem nodup_paths (h : Indexed made indexes m) :
    ((made ++ indexes).map fun a => (a.segments, a.module_)).Nodup := by
  rw [List.map_append]
  refine List.nodup_append.mpr ⟨h.lists.nodup, ?_, ?_⟩
  · have hkeys := @Std.TreeMap.nodup_keys _ _ _ m _
    rw [← h.segments_indexes] at hkeys
    refine List.Nodup.of_map Prod.fst ?_
    rw [List.map_map]
    exact hkeys
  · -- An index is called `mod`, and nothing else is.
    rintro _ hpath _ hpath' rfl
    obtain ⟨a, ha, heq⟩ := List.mem_map.mp hpath
    obtain ⟨x, hx, heq'⟩ := List.mem_map.mp hpath'
    have hmodule := (Prod.mk.inj (heq.trans heq'.symm)).2
    rw [(h.exists_package hx).2.module_eq] at hmodule
    exact h.module_ne ha hmodule

theorem count_indexes (h : Indexed made indexes m) (p : List String) :
    (made ++ indexes).countP (fun x => x.isModuleIndex && x.segments == p) =
      if p ∈ m then 1 else 0 := by
  have hmade : made.countP (fun x => x.isModuleIndex && x.segments == p) = 0 := by
    refine List.countP_eq_zero.mpr fun a ha hcount => ?_
    rw [h.notIndex a ha] at hcount
    exact nomatch hcount
  have hindexes : indexes.countP (fun x => x.isModuleIndex && x.segments == p) =
      (indexes.map Artifact.segments).count p := by
    rw [List.count, List.countP_map]
    refine List.countP_congr fun x hx => ?_
    rw [(h.exists_package hx).2.isModuleIndex, Bool.true_and]
    rfl
  rw [List.countP_append, hmade, hindexes, h.segments_indexes, Nat.zero_add,
    List.Nodup.count Std.TreeMap.nodup_keys]
  simp only [Std.TreeMap.mem_keys]

/-- A name below a package is not that of a module in it. -/
theorem not_prefix (h : Indexed made indexes m) {b : Artifact} (ha : a ∈ made ++ indexes)
    (hb : b ∈ made ++ indexes) : ¬ a.segments ++ [a.module_] <+: b.segments := by
  intro hbelow
  have hchild : a.module_ ∈ (m.contents a.segments).children := by
    refine (h.lists.children _ _).mpr ?_
    -- The package of an index is on the way to another artifact, or the root.
    rcases List.mem_append.mp hb with hb | hb
    · exact ⟨b, hb, hbelow⟩
    · rcases (h.lists.mem _).mp (h.exists_package hb).1 with hroot | ⟨c, hc, habove⟩
      · rw [hroot] at hbelow
        exact absurd (List.prefix_nil.mp hbelow) (List.concat_ne_nil _ _)
      · exact ⟨c, hc, hbelow.trans habove⟩
  rcases List.mem_append.mp ha with ha | ha
  · obtain ⟨hmem, hmodule⟩ := h.module_mem ha
    exact h.unshadowed _ hmem _ hmodule hchild
  · have hindex := (h.exists_package ha).2
    refine hindex.name_ne ?_ hindex.module_eq
    exact List.mem_append_left _ (Std.TreeSet.mem_toList.mpr hchild)

theorem isModuleTree (h : Indexed made indexes m) : IsModuleTree (made ++ indexes) where
  paths := h.nodup_paths
  indexes p := by
    rw [h.count_indexes]
    simp only [h.lists.mem, h.exists_made_iff]
  declared x hx hkind := by
    have hx : x ∈ indexes := by
      rcases List.mem_append.mp hx with hx | hx
      · rw [h.notIndex x hx] at hkind
        exact nomatch hkind
      · exact hx
    obtain ⟨hmem, hindex⟩ := h.exists_package hx
    obtain ⟨names, hnames, hbody⟩ := hindex.body
    refine ⟨(m.contents x.segments).children.toList, (m.contents x.segments).modules.toList, names,
      fun n => ?_, fun n => ?_, ?_, hnames, hbody⟩
    · rw [Std.TreeSet.mem_toList, h.lists.children, h.exists_made_iff]
    · rw [Std.TreeSet.mem_toList, h.lists.modules, h.exists_made_iff]
    · refine List.nodup_append.mpr ⟨Schema.nodup_toList _, Schema.nodup_toList _, ?_⟩
      rintro n hchild _ hmodule rfl
      exact h.unshadowed _ hmem n (Std.TreeSet.mem_toList.mp hmodule)
        (Std.TreeSet.mem_toList.mp hchild)
  unshadowed a ha b hb := h.not_prefix ha hb

end Indexed

/-- The artifacts of every run that succeeds form one module tree. -/
theorem artifacts_form_module_tree {m : Schema.Model} {config : Config}
    {artifacts : List Artifact} (h : (generate m config).outcome = .ok artifacts) :
    IsModuleTree artifacts := by
  obtain ⟨made, indexes, hmade, hindexes, rfl⟩ := Scope.generate_indexes h
  obtain ⟨packages, hlists, hunshadowed, hindexOf⟩ := moduleIndexes_ok hindexes
  exact Indexed.isModuleTree ⟨hmade, hlists, hunshadowed, hindexOf⟩

theorem garage_module_tree :
    ∃ artifacts, (generate garage {}).outcome = .ok artifacts ∧ IsModuleTree artifacts := by
  obtain ⟨artifacts, h⟩ := garage_generates
  exact ⟨artifacts, h, artifacts_form_module_tree h⟩

end Generate
end TypedGraph
