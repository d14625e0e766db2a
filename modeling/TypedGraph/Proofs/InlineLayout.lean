/-
The two layouts of a run.

Artifacts are written as files, which module indexes tie together, or as one text
of modules nested in modules.  `Piece` is what the nested text is made of, and
`nested` reads off the path of every module in it from the openings and closings
alone; `PackageMap.Reached` follows the declarations of the indexes from the root.
One layout comes from inserting into a tree and the other from one flat pass over
all artifacts, and they declare the same modules under the same paths.  Names in
paths count as they are spelled; which identifiers an index reads in them is said
by `IndexOf`.
-/
import Mathlib.Data.List.Induction
import Mathlib.Data.List.Perm.Basic
import TypedGraph.Generate.Inline
import TypedGraph.Proofs.ModuleTree

namespace TypedGraph
namespace Generate

/-! ## Texts of nested modules -/

/-- A part of a text of modules: a module with its body, or the start or the end
of a module that holds others. -/
inductive Piece
  | module (name body : String)
  | opening (name : String)
  | closing

namespace Piece

def text : Piece → String
  | .module name body => ModuleTree.wrap name body
  | .opening name => "pub mod " ++ name ++ " \x7b\n"
  | .closing => "\x7d\n"

/-- The modules that pieces nest within a path, each with its path, and with its
body unless it holds others. -/
def nested : List String → List Piece → List (List String × Option String)
  | _, [] => []
  | path, .module name body :: rest => (path ++ [name], some body) :: nested path rest
  | path, .opening name :: rest => (path ++ [name], none) :: nested (path ++ [name]) rest
  | path, .closing :: rest => nested path.dropLast rest

end Piece

namespace ModuleTree

open Piece (nested)

def modulePiece (a : Artifact) : Piece := .module a.module_ a.body

mutual

/-- The parts of the text of a tree. -/
def pieces : ModuleTree → List Piece
  | .node artifacts packages => artifacts.map modulePiece ++ piecesAll packages

def piecesAll : List (String × ModuleTree) → List Piece
  | [] => []
  | (name, tree) :: rest => .opening name :: (tree.pieces ++ .closing :: piecesAll rest)

end

theorem artifactsText_eq (artifacts : List Artifact) :
    String.join ((artifacts.map modulePiece).map Piece.text) = artifactsText artifacts := by
  rw [List.map_map]
  rfl

mutual

theorem join_pieces : (t : ModuleTree) → String.join (t.pieces.map Piece.text) = t.text
  | .node artifacts packages => by
    rw [pieces, List.map_append, String.join_append, artifactsText_eq, join_piecesAll packages,
      text]

theorem join_piecesAll : (packages : List (String × ModuleTree)) →
    String.join ((piecesAll packages).map Piece.text) = textAll packages
  | [] => by
    rw [piecesAll, textAll]
    rfl
  | (name, tree) :: rest => by
    rw [piecesAll, textAll, List.map_cons, List.map_append, List.map_cons, String.join_cons,
      String.join_append, String.join_cons, join_pieces tree, join_piecesAll rest, wrap]
    simp only [Piece.text, String.append_assoc]

end

/-! ## Reading a tree back -/

variable {path q : List String} {a : Artifact}

theorem nested_modules (path : List String) (artifacts : List Artifact) (rest : List Piece) :
    nested path (artifacts.map modulePiece ++ rest) =
      artifacts.map (fun a => (path ++ [a.module_], some a.body)) ++ nested path rest := by
  induction artifacts with
  | nil => rfl
  | cons a artifacts ih => simp only [List.map_cons, List.cons_append, modulePiece, nested, ih]

mutual

/-- What follows the parts of a tree is read at the path that they started from. -/
theorem nested_append (path : List String) (rest : List Piece) : (t : ModuleTree) →
    nested path (t.pieces ++ rest) = nested path t.pieces ++ nested path rest
  | .node artifacts packages => by
    rw [pieces, List.append_assoc, nested_modules, nested_modules,
      nested_append_all path rest packages, List.append_assoc]

theorem nested_append_all (path : List String) (rest : List Piece) :
    (packages : List (String × ModuleTree)) →
      nested path (piecesAll packages ++ rest) =
        nested path (piecesAll packages) ++ nested path rest
  | [] => rfl
  | (name, tree) :: more => by
    simp only [piecesAll, List.cons_append, List.append_assoc, nested, nested_append _ _ tree,
      List.dropLast_concat, nested_append_all path rest more]

end

theorem nested_node (path : List String) (artifacts : List Artifact)
    (packages : List (String × ModuleTree)) :
    nested path (node artifacts packages).pieces =
      artifacts.map (fun a => (path ++ [a.module_], some a.body)) ++
        nested path (piecesAll packages) := by
  rw [pieces, nested_modules]

theorem nested_cons (path : List String) (name : String) (tree : ModuleTree)
    (more : List (String × ModuleTree)) :
    nested path (piecesAll ((name, tree) :: more)) =
      (path ++ [name], none) ::
        (nested (path ++ [name]) tree.pieces ++ nested path (piecesAll more)) := by
  simp only [piecesAll, nested, nested_append, List.dropLast_concat]

/-- The modules that hold no others, with their paths and bodies. -/
def leaves (modules : List (List String × Option String)) : List (List String × String) :=
  modules.filterMap fun m => m.2.map (m.1, ·)

/-- The paths of the modules that hold others. -/
def groups (modules : List (List String × Option String)) : List (List String) :=
  (modules.filter (·.2.isNone)).map Prod.fst

section
variable (path : List String) (artifacts : List Artifact) (name : String) (tree : ModuleTree)
  (more : List (String × ModuleTree))

theorem leaves_node : leaves (nested path (node artifacts more).pieces) =
    artifacts.map (fun a => (path ++ [a.module_], a.body)) ++
      leaves (nested path (piecesAll more)) := by
  rw [nested_node, leaves, List.filterMap_append, List.filterMap_map]
  congr 1
  exact congrFun List.filterMap_eq_map artifacts

theorem leaves_cons : leaves (nested path (piecesAll ((name, tree) :: more))) =
    leaves (nested (path ++ [name]) tree.pieces) ++ leaves (nested path (piecesAll more)) := by
  rw [nested_cons, leaves, List.filterMap_cons_none rfl, List.filterMap_append]
  rfl

theorem groups_node : groups (nested path (node artifacts more).pieces) =
    groups (nested path (piecesAll more)) := by
  simp [nested_node, groups]

theorem groups_cons : groups (nested path (piecesAll ((name, tree) :: more))) =
    (path ++ [name]) :: (groups (nested (path ++ [name]) tree.pieces) ++
      groups (nested path (piecesAll more))) := by
  simp [nested_cons, groups]

end

/-! ## Insertion -/

theorem leaves_single (a : Artifact) (path segments : List String) :
    leaves (nested path (single a segments).pieces) =
      [(path ++ segments ++ [a.module_], a.body)] := by
  induction segments generalizing path with
  | nil =>
    rw [single, leaves_node, List.append_nil]
    rfl
  | cons segment rest ih =>
    rw [single, leaves_node, leaves_cons, ih, List.append_assoc path [segment] rest]
    rfl

theorem leaves_cons_single (a : Artifact) (path : List String) (segment : String)
    (rest : List String) (more : List (String × ModuleTree)) :
    leaves (nested path (piecesAll ((segment, single a rest) :: more))) =
      (path ++ segment :: rest ++ [a.module_], a.body) ::
        leaves (nested path (piecesAll more)) := by
  rw [leaves_cons, leaves_single, List.append_assoc path [segment] rest]
  rfl

mutual

/-- Insertion adds one module with a body, and keeps all others. -/
theorem leaves_insert (a : Artifact) (path : List String) : (segments : List String) →
    (t : ModuleTree) → (leaves (nested path (insert a segments t).pieces)).Perm
      ((path ++ segments ++ [a.module_], a.body) :: leaves (nested path t.pieces))
  | [], .node artifacts packages => by
    rw [insert, leaves_node, leaves_node, List.map_append, List.append_nil, List.append_assoc]
    exact List.perm_middle
  | segment :: rest, .node artifacts packages => by
    rw [insert, leaves_node, leaves_node]
    exact ((leaves_insertPackage a path segment rest packages).append_left _).trans
      List.perm_middle

theorem leaves_insertPackage (a : Artifact) (path : List String) (segment : String)
    (rest : List String) : (packages : List (String × ModuleTree)) →
    (leaves (nested path (piecesAll (insertPackage a segment rest packages)))).Perm
      ((path ++ segment :: rest ++ [a.module_], a.body) ::
        leaves (nested path (piecesAll packages)))
  | [] => by
    rw [insertPackage, leaves_cons_single]
  | (name, tree) :: more => by
    rw [insertPackage]
    split
    · rw [leaves_cons_single]
    · next heq =>
      obtain rfl := Std.LawfulEqCmp.eq_of_compare heq
      rw [leaves_cons, leaves_cons, ← List.cons_append]
      refine List.Perm.append_right _ ?_
      have h := leaves_insert a (path ++ [segment]) rest tree
      rw [List.append_assoc path [segment] rest] at h
      exact h
    · rw [leaves_cons, leaves_cons]
      exact ((leaves_insertPackage a path segment rest more).append_left _).trans
        List.perm_middle

end

/-- A path leads from another one some way along a list of segments. -/
def Along (path segments q : List String) : Prop :=
  ∃ r, r ≠ [] ∧ r <+: segments ∧ q = path ++ r

theorem not_along_nil : ¬Along path [] q := by
  rintro ⟨r, hne, hr, -⟩
  exact hne (List.prefix_nil.mp hr)

theorem along_cons {segment : String} {rest : List String} :
    Along path (segment :: rest) q ↔ q = path ++ [segment] ∨ Along (path ++ [segment]) rest q := by
  constructor
  · rintro ⟨r, hne, hr, rfl⟩
    obtain ⟨r', rfl, hr'⟩ := (List.prefix_cons_iff.mp hr).resolve_left hne
    cases r' with
    | nil => exact .inl rfl
    | cons n r' => exact .inr ⟨n :: r', List.cons_ne_nil n r', hr', by simp⟩
  · rintro (rfl | ⟨r, -, hr, rfl⟩)
    · exact ⟨[segment], List.cons_ne_nil _ _, by simp, rfl⟩
    · exact ⟨segment :: r, List.cons_ne_nil _ _, List.cons_prefix_cons.mpr ⟨rfl, hr⟩, by simp⟩

theorem mem_groups_single {segments : List String} :
    q ∈ groups (nested path (single a segments).pieces) ↔ Along path segments q := by
  induction segments generalizing path with
  | nil =>
    rw [single, groups_node, piecesAll]
    exact iff_of_false List.not_mem_nil not_along_nil
  | cons segment rest ih =>
    rw [single, groups_node, groups_cons, List.mem_cons, List.mem_append, ih, along_cons]
    simp [piecesAll, nested, groups]

theorem mem_groups_cons_single {segment : String} {rest : List String}
    {more : List (String × ModuleTree)} :
    q ∈ groups (nested path (piecesAll ((segment, single a rest) :: more))) ↔
      q ∈ groups (nested path (piecesAll more)) ∨ Along path (segment :: rest) q := by
  rw [groups_cons, List.mem_cons, List.mem_append, mem_groups_single, along_cons]
  exact or_assoc.symm.trans or_comm

mutual

/-- Insertion opens the packages on the way, and keeps all others. -/
theorem mem_groups_insert (a : Artifact) (path q : List String) : (segments : List String) →
    (t : ModuleTree) → (q ∈ groups (nested path (insert a segments t).pieces) ↔
      q ∈ groups (nested path t.pieces) ∨ Along path segments q)
  | [], .node artifacts packages => by
    rw [insert, groups_node, groups_node]
    exact (or_iff_left not_along_nil).symm
  | segment :: rest, .node artifacts packages => by
    rw [insert, groups_node, groups_node]
    exact mem_groups_insertPackage a path q segment rest packages

theorem mem_groups_insertPackage (a : Artifact) (path q : List String) (segment : String)
    (rest : List String) : (packages : List (String × ModuleTree)) →
    (q ∈ groups (nested path (piecesAll (insertPackage a segment rest packages))) ↔
      q ∈ groups (nested path (piecesAll packages)) ∨ Along path (segment :: rest) q)
  | [] => by
    rw [insertPackage, mem_groups_cons_single]
  | (name, tree) :: more => by
    rw [insertPackage]
    split
    · rw [mem_groups_cons_single]
    · next heq =>
      obtain rfl := Std.LawfulEqCmp.eq_of_compare heq
      have ih := mem_groups_insert a (path ++ [segment]) q rest tree
      rw [groups_cons, groups_cons, List.mem_cons, List.mem_append, ih, along_cons]
      grind
    · have ih := mem_groups_insertPackage a path q segment rest more
      rw [groups_cons, groups_cons, List.mem_cons, List.mem_append, ih]
      grind

end

/-! ## Order -/

mutual

/-- In every package, sub-packages stand in ascending order of their names. -/
def Ascending : ModuleTree → Prop
  | .node _ packages => AscendingAll packages

def AscendingAll : List (String × ModuleTree) → Prop
  | [] => True
  | (name, tree) :: rest =>
    (∀ p ∈ rest, compare name p.1 = .lt) ∧ tree.Ascending ∧ AscendingAll rest

end

theorem ascending_single (a : Artifact) (segments : List String) :
    (single a segments).Ascending := by
  induction segments with
  | nil =>
    rw [single, Ascending]
    trivial
  | cons segment rest ih =>
    rw [single, Ascending, AscendingAll]
    exact ⟨fun p hp => absurd hp List.not_mem_nil, ih, trivial⟩

theorem mem_names_insertPackage {segment n : String} {rest : List String}
    {packages : List (String × ModuleTree)} :
    n ∈ (insertPackage a segment rest packages).map Prod.fst ↔
      n = segment ∨ n ∈ packages.map Prod.fst := by
  induction packages with
  | nil => simp [insertPackage]
  | cons entry more ih =>
    obtain ⟨name, tree⟩ := entry
    rw [insertPackage]
    split
    · simp only [List.map_cons, List.mem_cons]
    · next heq =>
      obtain rfl := Std.LawfulEqCmp.eq_of_compare heq
      simp only [List.map_cons, List.mem_cons]
      exact or_self_left.symm
    · simp only [List.map_cons, List.mem_cons, ih]
      exact or_left_comm

mutual

theorem ascending_insert (a : Artifact) : (segments : List String) → (t : ModuleTree) →
    t.Ascending → (insert a segments t).Ascending
  | [], .node artifacts packages, h => by
    rw [insert, Ascending]
    exact h
  | segment :: rest, .node artifacts packages, h => by
    rw [insert, Ascending]
    exact ascending_insertPackage a segment rest packages h

theorem ascending_insertPackage (a : Artifact) (segment : String) (rest : List String) :
    (packages : List (String × ModuleTree)) → AscendingAll packages →
      AscendingAll (insertPackage a segment rest packages)
  | [], _ => by
    rw [insertPackage, AscendingAll]
    exact ⟨fun p hp => absurd hp List.not_mem_nil, ascending_single a rest, trivial⟩
  | (name, tree) :: more, h => by
    obtain ⟨hmore, htree, hrest⟩ := h
    rw [insertPackage]
    split
    · next hlt =>
      refine ⟨fun p hp => ?_, ascending_single a rest, hmore, htree, hrest⟩
      rcases List.mem_cons.mp hp with rfl | hp
      · exact hlt
      · exact Std.TransCmp.lt_trans hlt (hmore p hp)
    · exact ⟨hmore, ascending_insert a rest tree htree, hrest⟩
    · next hgt =>
      refine ⟨fun p hp => ?_, htree, ascending_insertPackage a segment rest more hrest⟩
      rcases mem_names_insertPackage.mp (List.mem_map_of_mem hp) with heq | hold
      · rw [heq]
        exact Std.OrientedCmp.lt_of_gt hgt
      · obtain ⟨p', hp', heq⟩ := List.mem_map.mp hold
        rw [← heq]
        exact hmore p' hp'

end

mutual

theorem below_of_mem_groups {path q : List String} : (t : ModuleTree) →
    q ∈ groups (nested path t.pieces) → ∃ n r, q = path ++ n :: r
  | .node artifacts packages, hq => by
    rw [groups_node] at hq
    obtain ⟨n, r, -, heq⟩ := below_of_mem_groups_all packages hq
    exact ⟨n, r, heq⟩

theorem below_of_mem_groups_all {path q : List String} :
    (packages : List (String × ModuleTree)) → q ∈ groups (nested path (piecesAll packages)) →
      ∃ n r, n ∈ packages.map Prod.fst ∧ q = path ++ n :: r
  | [], hq => absurd hq List.not_mem_nil
  | (name, tree) :: more, hq => by
    rw [groups_cons, List.mem_cons, List.mem_append] at hq
    rcases hq with rfl | hq | hq
    · exact ⟨name, [], List.mem_cons_self, rfl⟩
    · obtain ⟨n, r, rfl⟩ := below_of_mem_groups tree hq
      exact ⟨name, n :: r, List.mem_cons_self, by simp⟩
    · obtain ⟨n, r, hn, heq⟩ := below_of_mem_groups_all more hq
      exact ⟨n, r, List.mem_cons_of_mem _ hn, heq⟩

end

mutual

/-- Each package of an ascending tree is opened once. -/
theorem nodup_groups (path : List String) : (t : ModuleTree) → t.Ascending →
    (groups (nested path t.pieces)).Nodup
  | .node artifacts packages, h => by
    rw [groups_node]
    exact nodup_groups_all path packages h

theorem nodup_groups_all (path : List String) : (packages : List (String × ModuleTree)) →
    AscendingAll packages → (groups (nested path (piecesAll packages))).Nodup
  | [], _ => List.nodup_nil
  | (name, tree) :: more, h => by
    obtain ⟨hmore, htree, hrest⟩ := h
    -- What stands behind starts with another name.
    have hother : ∀ r, path ++ name :: r ∉ groups (nested path (piecesAll more)) := by
      intro r hr
      obtain ⟨n, r', hn, heq⟩ := below_of_mem_groups_all more hr
      obtain ⟨p, hp, rfl⟩ := List.mem_map.mp hn
      have hlt := hmore p hp
      rw [(List.cons.inj (List.append_cancel_left heq)).1] at hlt
      exact nomatch hlt.symm.trans Std.ReflCmp.compare_self
    rw [groups_cons, List.nodup_cons, List.mem_append, not_or, List.nodup_append]
    refine ⟨⟨fun hself => ?_, hother []⟩, nodup_groups (path ++ [name]) tree htree,
      nodup_groups_all path more hrest, ?_⟩
    · obtain ⟨n, r, heq⟩ := below_of_mem_groups tree hself
      simp at heq
    · rintro q hq _ hq' rfl
      obtain ⟨n, r, rfl⟩ := below_of_mem_groups tree hq
      rw [List.append_assoc] at hq'
      exact hother (n :: r) hq'

end

end ModuleTree

/-! ## All artifacts -/

open ModuleTree (leaves groups Along)

/-- The tree that artifacts make up. -/
def inlineTree (artifacts : List Artifact) : ModuleTree :=
  artifacts.foldl (fun tree a => tree.insert a a.segments) .empty

theorem inlineTree_concat (artifacts : List Artifact) (a : Artifact) :
    inlineTree (artifacts ++ [a]) = (inlineTree artifacts).insert a a.segments := by
  rw [inlineTree, List.foldl_append]
  rfl

theorem leaves_inlineTree (artifacts : List Artifact) :
    (leaves (Piece.nested [] (inlineTree artifacts).pieces)).Perm
      (artifacts.map fun a => (a.segments ++ [a.module_], a.body)) := by
  induction artifacts using List.reverseRecOn with
  | nil => exact .refl _
  | append_singleton artifacts a ih =>
    rw [inlineTree_concat, List.map_append]
    refine (ModuleTree.leaves_insert a [] a.segments _).trans ?_
    exact (ih.cons _).trans (List.perm_append_singleton _ _).symm

theorem mem_groups_inlineTree {artifacts : List Artifact} {q : List String} :
    q ∈ groups (Piece.nested [] (inlineTree artifacts).pieces) ↔
      ∃ a ∈ artifacts, Along [] a.segments q := by
  induction artifacts using List.reverseRecOn with
  | nil =>
    refine iff_of_false List.not_mem_nil ?_
    rintro ⟨a, ha, -⟩
    exact absurd ha List.not_mem_nil
  | append_singleton artifacts a ih =>
    rw [inlineTree_concat, ModuleTree.mem_groups_insert, ih]
    simp [or_and_right, exists_or]

theorem ascending_inlineTree (artifacts : List Artifact) : (inlineTree artifacts).Ascending := by
  induction artifacts using List.reverseRecOn with
  | nil => exact trivial
  | append_singleton artifacts a ih =>
    rw [inlineTree_concat]
    exact ModuleTree.ascending_insert a a.segments _ ih

/-! ## The declared modules -/

namespace PackageMap

/-- The packages that indexes lead to, from the root on. -/
inductive Reached (m : PackageMap) : List String → Prop
  | root : Reached m []
  | child {p : List String} {n : String} :
    Reached m p → n ∈ (m.contents p).children → Reached m (p ++ [n])

/-- A sub-package that the index of a package reached declares. -/
def DeclaresPackage (m : PackageMap) (q : List String) : Prop :=
  ∃ p n, m.Reached p ∧ n ∈ (m.contents p).children ∧ q = p ++ [n]

/-- A module that the index of a package reached declares. -/
def DeclaresModule (m : PackageMap) (q : List String) : Prop :=
  ∃ p n, m.Reached p ∧ n ∈ (m.contents p).modules ∧ q = p ++ [n]

namespace Lists

variable {m : PackageMap} {artifacts : List Artifact} {p q : List String}

theorem reached_iff (h : Lists m artifacts) : m.Reached p ↔ p ∈ m := by
  constructor
  · intro hp
    induction hp with
    | root => exact (h.mem []).mpr (.inl rfl)
    | child _ hn _ => exact (h.mem _).mpr (.inr ((h.children _ _).mp hn))
  · intro hp
    induction p using List.reverseRecOn with
    | nil => exact .root
    | append_singleton p n ih =>
      obtain ⟨a, ha, hbelow⟩ := ((h.mem _).mp hp).resolve_left (List.concat_ne_nil _ _)
      have habove : p <+: a.segments := (List.prefix_append p [n]).trans hbelow
      exact .child (ih ((h.mem p).mpr (.inr ⟨a, ha, habove⟩)))
        ((h.children p n).mpr ⟨a, ha, hbelow⟩)

theorem declaresPackage_iff (h : Lists m artifacts) :
    m.DeclaresPackage q ↔ ∃ a ∈ artifacts, Along [] a.segments q := by
  constructor
  · rintro ⟨p, n, -, hn, rfl⟩
    obtain ⟨a, ha, hbelow⟩ := (h.children p n).mp hn
    exact ⟨a, ha, p ++ [n], List.concat_ne_nil _ _, hbelow, rfl⟩
  · rintro ⟨a, ha, q, hne, hbelow, rfl⟩
    obtain ⟨p, n, rfl⟩ := (List.eq_nil_or_concat q).resolve_left hne
    rw [List.concat_eq_append] at hbelow ⊢
    have habove : p <+: a.segments := (List.prefix_append p [n]).trans hbelow
    exact ⟨p, n, h.reached_iff.mpr ((h.mem p).mpr (.inr ⟨a, ha, habove⟩)),
      (h.children p n).mpr ⟨a, ha, hbelow⟩, rfl⟩

theorem declaresModule_iff (h : Lists m artifacts) :
    m.DeclaresModule q ↔ ∃ a ∈ artifacts, q = a.segments ++ [a.module_] := by
  constructor
  · rintro ⟨p, n, -, hn, rfl⟩
    obtain ⟨a, ha, rfl, rfl⟩ := (h.modules p n).mp hn
    exact ⟨a, ha, rfl⟩
  · rintro ⟨a, ha, rfl⟩
    have hmem : a.segments ∈ m := (h.mem _).mpr (.inr ⟨a, ha, List.prefix_refl _⟩)
    exact ⟨_, _, h.reached_iff.mpr hmem, (h.modules _ _).mpr ⟨a, ha, rfl, rfl⟩, rfl⟩

end Lists

end PackageMap

/-! ## Agreement -/

/-- The artifacts that hold the modules, which are all but the indexes. -/
def modulesOf (artifacts : List Artifact) : List Artifact :=
  artifacts.filter (!·.isModuleIndex)

def indexesOf (artifacts : List Artifact) : List Artifact :=
  artifacts.filter (·.isModuleIndex)

/-- The parts of the one text of artifacts. -/
def inlinePieces (artifacts : List Artifact) : List Piece :=
  (inlineTree (modulesOf artifacts)).pieces

theorem inline_eq (artifacts : List Artifact) :
    inline artifacts = String.join ((inlinePieces artifacts).map Piece.text) :=
  (ModuleTree.join_pieces _).symm

/-- The modules of the one text of artifacts. -/
def inlineModules (artifacts : List Artifact) : List (List String × Option String) :=
  Piece.nested [] (inlinePieces artifacts)

/-- The one text of artifacts nests the modules that their indexes declare. -/
structure SameLayout (artifacts : List Artifact) (packages : PackageMap) : Prop where
  text : inline artifacts = String.join ((inlinePieces artifacts).map Piece.text)
  packages_of : PackageMap.ofArtifacts (modulesOf artifacts) = .ok packages
  indexes_of : packages.toList.mapM moduleIndex = .ok (indexesOf artifacts)
  /-- Each package reached has an index, which declares what the package lists. -/
  index : ∀ p, packages.Reached p →
    ∃ x ∈ artifacts, IndexOf p (packages.contents p) x
  nodup : ((inlineModules artifacts).map Prod.fst).Nodup
  body : ∀ q text, (q, some text) ∈ inlineModules artifacts ↔
    ∃ a ∈ modulesOf artifacts, q = a.segments ++ [a.module_] ∧ text = a.body
  module_ : ∀ q, (∃ text, (q, some text) ∈ inlineModules artifacts) ↔ packages.DeclaresModule q
  package : ∀ q, (q, none) ∈ inlineModules artifacts ↔ packages.DeclaresPackage q

theorem mem_leaves {modules : List (List String × Option String)} {q : List String}
    {text : String} : (q, text) ∈ leaves modules ↔ (q, some text) ∈ modules := by
  simp [leaves, List.mem_filterMap]

theorem mem_groups {modules : List (List String × Option String)} {q : List String} :
    q ∈ groups modules ↔ (q, none) ∈ modules := by
  simp [groups]

theorem perm_paths (modules : List (List String × Option String)) :
    (modules.map Prod.fst).Perm ((leaves modules).map Prod.fst ++ groups modules) := by
  induction modules with
  | nil => exact .refl _
  | cons m modules ih =>
    obtain ⟨q, body⟩ := m
    cases body with
    | none => exact (ih.cons q).trans List.perm_middle.symm
    | some text => exact ih.cons q

namespace Indexed

variable {made indexes : List Artifact} {m : PackageMap}

theorem modulesOf_eq (h : Indexed made indexes m) : modulesOf (made ++ indexes) = made := by
  have hmade : modulesOf made = made :=
    List.filter_eq_self.mpr fun a ha => by rw [h.notIndex a ha]; rfl
  have hindexes : modulesOf indexes = [] :=
    List.filter_eq_nil_iff.mpr fun x hx => by
      rw [(h.exists_package hx).2.isModuleIndex]
      exact nofun
  rw [modulesOf, List.filter_append, ← modulesOf, ← modulesOf, hmade, hindexes, List.append_nil]

theorem indexesOf_eq (h : Indexed made indexes m) : indexesOf (made ++ indexes) = indexes := by
  have hmade : indexesOf made = [] :=
    List.filter_eq_nil_iff.mpr fun a ha => by
      rw [h.notIndex a ha]
      exact nofun
  have hindexes : indexesOf indexes = indexes :=
    List.filter_eq_self.mpr fun x hx => (h.exists_package hx).2.isModuleIndex
  rw [indexesOf, List.filter_append, ← indexesOf, ← indexesOf, hmade, hindexes, List.nil_append]

/-- No two modules of the one text have the same path. -/
theorem nodup_inlineModules (h : Indexed made indexes m) :
    ((inlineModules (made ++ indexes)).map Prod.fst).Nodup := by
  have hleaves := (leaves_inlineTree made).map Prod.fst
  rw [List.map_map] at hleaves
  rw [inlineModules, inlinePieces, h.modulesOf_eq, (perm_paths _).nodup_iff, List.nodup_append]
  refine ⟨?_, ModuleTree.nodup_groups [] _ (ascending_inlineTree made), ?_⟩
  · have hinjective : Function.Injective fun p : List String × String => p.1 ++ [p.2] := by
      rintro ⟨p, n⟩ ⟨p', n'⟩ heq
      obtain ⟨hp, hn⟩ := List.append_inj' heq rfl
      exact Prod.ext hp (List.singleton_inj.mp hn)
    have hpaths := h.lists.nodup.map hinjective
    rw [List.map_map] at hpaths
    exact hleaves.nodup_iff.mpr hpaths
  · -- A package is not called like a module that stands beside it.
    rintro q hq _ hq' rfl
    obtain ⟨a, ha, rfl⟩ := List.mem_map.mp (hleaves.mem_iff.mp hq)
    obtain ⟨b, hb, r, -, hbelow, heq⟩ := mem_groups_inlineTree.mp hq'
    rw [List.nil_append] at heq
    rw [← heq] at hbelow
    exact h.not_prefix (List.mem_append_left _ ha) (List.mem_append_left _ hb) hbelow

theorem sameLayout (h : Indexed made indexes m) (hpackages : PackageMap.ofArtifacts made = .ok m)
    (hindexes : m.toList.mapM moduleIndex = .ok indexes) : SameLayout (made ++ indexes) m := by
  have hmodules : inlineModules (made ++ indexes) =
      Piece.nested [] (inlineTree made).pieces := by
    rw [inlineModules, inlinePieces, h.modulesOf_eq]
  have hbody : ∀ q text, (q, some text) ∈ inlineModules (made ++ indexes) ↔
      ∃ a ∈ made, q = a.segments ++ [a.module_] ∧ text = a.body := by
    intro q text
    rw [hmodules, ← mem_leaves, (leaves_inlineTree made).mem_iff, List.mem_map]
    simp only [Prod.mk.injEq, eq_comm]
  refine
    { text := inline_eq _
      packages_of := by rw [h.modulesOf_eq]; exact hpackages
      indexes_of := by rw [h.indexesOf_eq]; exact hindexes
      index := fun p hp => ?_
      nodup := h.nodup_inlineModules
      body := by rw [h.modulesOf_eq]; exact hbody
      module_ := fun q => ?_
      package := fun q => ?_ }
  · obtain ⟨x, hx, hindex⟩ := h.exists_index (h.lists.reached_iff.mp hp)
    exact ⟨x, List.mem_append_right _ hx, hindex⟩
  · rw [h.lists.declaresModule_iff]
    simp only [hbody]
    exact ⟨fun ⟨_, a, ha, hq, _⟩ => ⟨a, ha, hq⟩, fun ⟨a, ha, hq⟩ => ⟨_, a, ha, hq, rfl⟩⟩
  · rw [hmodules, ← mem_groups, mem_groups_inlineTree, h.lists.declaresPackage_iff]

end Indexed

/-- In every run that succeeds, the one text of all artifacts nests, each once and
with its body, the modules that the indexes declare, under the same paths. -/
theorem inline_nests_declared_modules {m : Schema.Model} {config : Config}
    {artifacts : List Artifact} (h : (generate m config).outcome = .ok artifacts) :
    ∃ packages, SameLayout artifacts packages := by
  obtain ⟨made, indexes, hmade, hindexes, rfl⟩ := Scope.generate_indexes h
  simp only [moduleIndexes, bind_eq_ok] at hindexes
  obtain ⟨packages, hpackages, _, hshadow, hmapped⟩ := hindexes
  have hlists := PackageMap.lists_ofArtifacts hpackages
  have hindexed : Indexed made indexes packages :=
    ⟨hmade, hlists, PackageMap.unshadowed_of_check hshadow, hlists.indexOf hmapped⟩
  exact ⟨packages, hindexed.sameLayout hpackages hmapped⟩

theorem garage_same_layout :
    ∃ artifacts packages, (generate garage {}).outcome = .ok artifacts ∧
      SameLayout artifacts packages := by
  obtain ⟨artifacts, h⟩ := garage_generates
  obtain ⟨packages, hlayout⟩ := inline_nests_declared_modules h
  exact ⟨artifacts, packages, h, hlayout⟩

end Generate
end TypedGraph
