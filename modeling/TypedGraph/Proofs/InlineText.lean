/-
The one text of artifacts, package by package.

The text is written from a tree that artifacts were inserted into one by one.
`packageText` describes it without a tree, by recursion on the path of a package:
first the artifacts of the package, then the packages right below it.  `subtree` is
what the tree holds at a path, and insertion is described there: it changes the
artifacts of one package, and the names below the packages on the way.  So the text
shows nothing of how artifacts of different packages followed one another.
-/
import Std.Data.TreeSet
import TypedGraph.Proofs.InlineLayout

namespace TypedGraph
namespace Generate

/-! ## What a tree holds at a path -/

namespace ModuleTree

variable {path segments : List String} {n : String} {t tree : ModuleTree}

def artifacts : ModuleTree → List Artifact
  | .node artifacts _ => artifacts

def packages : ModuleTree → List (String × ModuleTree)
  | .node _ packages => packages

def names (t : ModuleTree) : List String :=
  t.packages.map Prod.fst

/-- The sub-package of a name, which is empty where there is none. -/
def child (t : ModuleTree) (n : String) : ModuleTree :=
  (t.packages.lookup n).getD empty

def subtree (t : ModuleTree) : List String → ModuleTree
  | [] => t
  | n :: path => (t.child n).subtree path

theorem subtree_concat (t : ModuleTree) (path : List String) (n : String) :
    t.subtree (path ++ [n]) = (t.subtree path).child n := by
  induction path generalizing t with
  | nil => rfl
  | cons k path ih => exact ih (t.child k)

theorem subtree_empty (path : List String) : empty.subtree path = empty := by
  induction path with
  | nil => rfl
  | cons k path ih => exact ih

section

variable {packages : List (String × ModuleTree)}

theorem lookup_cons (n name : String) (tree : ModuleTree) (more : List (String × ModuleTree)) :
    ((name, tree) :: more).lookup n = if n = name then some tree else more.lookup n := by
  rw [List.lookup_cons]
  by_cases h : n = name
  · rw [if_pos h, beq_iff_eq.mpr h]
  · rw [if_neg h, beq_eq_false_iff_ne.mpr h]

theorem lookup_of_lt (h : ∀ p ∈ packages, compare n p.1 = .lt) : packages.lookup n = none :=
  List.lookup_eq_none_iff.mpr fun p hp => bne_iff_ne.mpr (ne_of_compare_lt (h p hp))

theorem AscendingAll.lookup (h : AscendingAll packages) (hmem : (n, tree) ∈ packages) :
    packages.lookup n = some tree := by
  induction packages with
  | nil => exact absurd hmem List.not_mem_nil
  | cons entry more ih =>
    obtain ⟨name, tree'⟩ := entry
    obtain ⟨hmore, -, hrest⟩ := h
    rw [lookup_cons]
    rcases List.mem_cons.mp hmem with heq | hmem
    · obtain ⟨rfl, rfl⟩ := Prod.mk.inj heq
      rw [if_pos rfl]
    · have hne : n ≠ name := (ne_of_compare_lt (hmore _ hmem)).symm
      rw [if_neg hne]
      exact ih hrest hmem

theorem AscendingAll.ascending (h : AscendingAll packages) (hmem : (n, tree) ∈ packages) :
    tree.Ascending := by
  induction packages with
  | nil => exact absurd hmem List.not_mem_nil
  | cons entry more ih =>
    obtain ⟨-, htree, hrest⟩ := h
    rcases List.mem_cons.mp hmem with rfl | hmem
    · exact htree
    · exact ih hrest hmem

theorem AscendingAll.pairwise (h : AscendingAll packages) :
    (packages.map Prod.fst).Pairwise fun a b => compare a b = .lt := by
  induction packages with
  | nil => exact .nil
  | cons entry more ih =>
    obtain ⟨hmore, -, hrest⟩ := h
    refine .cons (fun n hn => ?_) (ih hrest)
    obtain ⟨p, hp, rfl⟩ := List.mem_map.mp hn
    exact hmore p hp

/-- Insertion changes one sub-package, which may be new. -/
theorem lookup_insertPackage (a : Artifact) (segment : String) (rest : List String)
    (n : String) (h : AscendingAll packages) :
    (insertPackage a segment rest packages).lookup n =
      if n = segment then some (insert a rest ((packages.lookup segment).getD empty))
      else packages.lookup n := by
  have hsingle : single a rest = insert a rest empty := by
    cases rest <;> rfl
  induction packages with
  | nil => rw [insertPackage, lookup_cons, hsingle]; rfl
  | cons entry more ih =>
    obtain ⟨name, tree⟩ := entry
    obtain ⟨hmore, -, hrest⟩ := h
    rw [insertPackage]
    split
    · next hlt =>
      -- All names from here on are greater, so the sub-package is new.
      have hnone : ((name, tree) :: more).lookup segment = none := by
        refine lookup_of_lt fun p hp => ?_
        rcases List.mem_cons.mp hp with rfl | hp
        · exact hlt
        · exact Std.TransCmp.lt_trans hlt (hmore p hp)
      rw [lookup_cons, hnone, hsingle]
      rfl
    · next heq =>
      obtain rfl := Std.LawfulEqCmp.eq_of_compare heq
      rw [lookup_cons, lookup_cons, lookup_cons, if_pos rfl]
      by_cases hn : n = segment
      · rw [if_pos hn, if_pos hn]
        rfl
      · rw [if_neg hn, if_neg hn, if_neg hn]
    · next hgt =>
      have hne : segment ≠ name := (ne_of_compare_lt (Std.OrientedCmp.lt_of_gt hgt)).symm
      rw [lookup_cons, lookup_cons, lookup_cons, if_neg hne, ih hrest]
      by_cases hn : n = name
      · rw [if_pos hn, if_pos hn, hn, if_neg hne.symm]
      · rw [if_neg hn, if_neg hn]

end

theorem Ascending.packages (h : t.Ascending) : AscendingAll t.packages := by
  cases t with
  | node artifacts packages => exact h

theorem Ascending.child (h : t.Ascending) (n : String) : (t.child n).Ascending := by
  rw [ModuleTree.child]
  cases hlookup : t.packages.lookup n with
  | none => exact trivial
  | some tree =>
    obtain ⟨front, back, heq, -⟩ := List.lookup_eq_some_iff.mp hlookup
    exact h.packages.ascending (heq ▸ List.mem_append_right front List.mem_cons_self)

theorem Ascending.subtree (h : t.Ascending) (path : List String) :
    (t.subtree path).Ascending := by
  induction path generalizing t with
  | nil => exact h
  | cons k path ih => exact ih (h.child k)

/-- The text of a tree, by the names of its sub-packages. -/
theorem Ascending.text_eq (h : t.Ascending) :
    t.text = artifactsText t.artifacts ++
      String.join (t.names.map fun n => wrap n (t.child n).text) := by
  have hall : ∀ packages, textAll packages =
      String.join (packages.map fun p => wrap p.1 p.2.text) := by
    intro packages
    induction packages with
    | nil => rfl
    | cons entry more ih => rw [textAll, ih, List.map_cons, String.join_cons]
  have hchild : t.packages.map (fun p => wrap p.1 p.2.text) =
      t.names.map fun n => wrap n (t.child n).text := by
    rw [names, List.map_map]
    refine List.map_congr_left fun p hp => ?_
    show wrap p.1 p.2.text = wrap p.1 (t.child p.1).text
    rw [ModuleTree.child, h.packages.lookup hp]
    rfl
  rw [← hchild, ← hall]
  cases t with
  | node artifacts packages => rfl

/-! ## Insertion at a path -/

theorem child_insert (a : Artifact) (segment : String) (rest : List String)
    (h : t.Ascending) (n : String) :
    (insert a (segment :: rest) t).child n =
      if n = segment then insert a rest (t.child n) else t.child n := by
  cases t with
  | node artifacts packages =>
    show ((insertPackage a segment rest packages).lookup n).getD empty = _
    rw [lookup_insertPackage a segment rest n h]
    by_cases hn : n = segment
    · rw [if_pos hn, if_pos hn, hn]
      rfl
    · rw [if_neg hn, if_neg hn]
      rfl

/-- On the way to its package, an artifact is inserted into what the tree holds there. -/
theorem subtree_insert (a : Artifact) (path rest : List String) (h : t.Ascending) :
    (insert a (path ++ rest) t).subtree path = insert a rest (t.subtree path) := by
  induction path generalizing t with
  | nil => rfl
  | cons k path ih =>
    show ((insert a (k :: (path ++ rest)) t).child k).subtree path = _
    rw [child_insert a k _ h, if_pos rfl, ih (h.child k)]
    rfl

/-- Elsewhere insertion changes nothing. -/
theorem subtree_insert_elsewhere (a : Artifact) (h : t.Ascending)
    (hpath : ¬path <+: segments) : (insert a segments t).subtree path = t.subtree path := by
  induction path generalizing t segments with
  | nil => exact absurd List.nil_prefix hpath
  | cons k path ih =>
    cases segments with
    | nil =>
      cases t with
      | node artifacts packages => rfl
    | cons segment rest =>
      show ((insert a (segment :: rest) t).child k).subtree path = (t.child k).subtree path
      rw [child_insert a segment rest h]
      by_cases hk : k = segment
      · rw [if_pos hk]
        rw [List.cons_prefix_cons, and_iff_right hk] at hpath
        exact ih (h.child k) hpath
      · rw [if_neg hk]

theorem artifacts_insert (a : Artifact) (segments : List String) (t : ModuleTree) :
    (insert a segments t).artifacts = t.artifacts ++ if segments = [] then [a] else [] := by
  cases t with
  | node artifacts packages =>
    cases segments with
    | nil => rfl
    | cons segment rest => exact (List.append_nil artifacts).symm

theorem mem_names_insert (a : Artifact) (segments : List String) (t : ModuleTree) :
    n ∈ (insert a segments t).names ↔ n ∈ t.names ∨ [n] <+: segments := by
  cases t with
  | node artifacts packages =>
    cases segments with
    | nil => simp [insert, names, ModuleTree.packages]
    | cons segment rest =>
      rw [List.cons_prefix_cons, and_iff_left List.nil_prefix, or_comm]
      exact mem_names_insertPackage

theorem artifacts_subtree_insert (a : Artifact) (h : t.Ascending) :
    ((insert a segments t).subtree path).artifacts =
      (t.subtree path).artifacts ++ if segments = path then [a] else [] := by
  by_cases hpath : path <+: segments
  · obtain ⟨rest, rfl⟩ := hpath
    rw [subtree_insert a path rest h, artifacts_insert]
    simp only [List.append_right_eq_self]
  · have hne : segments ≠ path := by
      intro heq
      exact hpath (heq ▸ List.prefix_refl path)
    rw [subtree_insert_elsewhere a h hpath, if_neg hne, List.append_nil]

theorem mem_names_subtree_insert (a : Artifact) (h : t.Ascending) :
    n ∈ ((insert a segments t).subtree path).names ↔
      n ∈ (t.subtree path).names ∨ path ++ [n] <+: segments := by
  by_cases hpath : path <+: segments
  · obtain ⟨rest, rfl⟩ := hpath
    rw [subtree_insert a path rest h, mem_names_insert, List.prefix_append_right_inj]
  · have hnone : ¬path ++ [n] <+: segments := fun h => hpath ((List.prefix_append path [n]).trans h)
    rw [subtree_insert_elsewhere a h hpath, or_iff_left hnone]

end ModuleTree

variable {artifacts others : List Artifact} {path segments : List String} {n : String}

/-! ## Packages as paths -/

/-- The artifacts of a package itself, in the order that they came. -/
def ofPackage (artifacts : List Artifact) (path : List String) : List Artifact :=
  (modulesOf artifacts).filter (·.segments = path)

/-- The segment that follows a path. -/
def nextSegment? : List String → List String → Option String
  | [], segments => segments.head?
  | _ :: _, [] => none
  | n :: path, segment :: rest => if n = segment then nextSegment? path rest else none

theorem nextSegment?_eq_some : nextSegment? path segments = some n ↔ path ++ [n] <+: segments := by
  induction path generalizing segments with
  | nil => cases segments <;> simp [nextSegment?, eq_comm]
  | cons k path ih =>
    cases segments with
    | nil => simp [nextSegment?]
    | cons segment rest =>
      rw [nextSegment?, List.cons_append, List.cons_prefix_cons, ← ih]
      split
      · next h => rw [and_iff_right h]
      · next h => exact iff_of_false (fun hnone => nomatch hnone) fun hsome => h hsome.1

/-- The segments that follow a path, each once and in ascending order. -/
def nextSegments (artifacts : List Artifact) (path : List String) : List String :=
  (Std.TreeSet.ofList ((modulesOf artifacts).filterMap fun a => nextSegment? path a.segments)).toList

theorem mem_nextSegments :
    n ∈ nextSegments artifacts path ↔ ∃ a ∈ modulesOf artifacts, path ++ [n] <+: a.segments := by
  rw [nextSegments, Std.TreeSet.mem_toList, Std.TreeSet.mem_ofList, List.contains_iff_mem,
    List.mem_filterMap]
  simp only [nextSegment?_eq_some]

theorem ascending_nextSegments (artifacts : List Artifact) (path : List String) :
    (nextSegments artifacts path).Pairwise fun a b => compare a b = .lt :=
  Std.TreeSet.ordered_toList

/-- The length of the longest path of an artifact. -/
def depth (artifacts : List Artifact) : Nat :=
  (artifacts.map (·.segments.length)).foldr max 0

theorem length_le_depth {a : Artifact} (h : a ∈ artifacts) : a.segments.length ≤ depth artifacts := by
  induction artifacts with
  | nil => exact absurd h List.not_mem_nil
  | cons b rest ih =>
    rw [depth, List.map_cons, List.foldr_cons]
    rcases List.mem_cons.mp h with rfl | h
    · exact Nat.le_max_left _ _
    · exact Nat.le_trans (ih h) (Nat.le_max_right _ _)

theorem length_lt_depth (h : n ∈ nextSegments artifacts path) : path.length < depth artifacts := by
  obtain ⟨a, ha, hprefix⟩ := mem_nextSegments.mp h
  have hle := hprefix.length_le
  have hdepth := length_le_depth (List.mem_of_mem_filter ha)
  rw [List.length_append, List.length_singleton] at hle
  omega

/-- The text of a package, whose artifacts come before the packages below it. -/
def packageText (artifacts : List Artifact) (path : List String) : String :=
  String.join ((ofPackage artifacts path).map fun a => ModuleTree.wrap a.module_ a.body) ++
    String.join ((nextSegments artifacts path).attach.map fun ⟨n, _⟩ =>
      ModuleTree.wrap n (packageText artifacts (path ++ [n])))
termination_by depth artifacts - path.length
decreasing_by
  have hlt := length_lt_depth ‹n ∈ nextSegments artifacts path›
  rw [List.length_append, List.length_singleton]
  omega

theorem packageText_eq (artifacts : List Artifact) (path : List String) :
    packageText artifacts path =
      String.join ((ofPackage artifacts path).map fun a => ModuleTree.wrap a.module_ a.body) ++
        String.join ((nextSegments artifacts path).map fun n =>
          ModuleTree.wrap n (packageText artifacts (path ++ [n]))) := by
  rw [packageText]
  congr 2
  exact List.attach_map_val (f := fun n => ModuleTree.wrap n (packageText artifacts (path ++ [n])))

/-! ## The tree of all artifacts -/

theorem artifacts_subtree_inlineTree (artifacts : List Artifact) (path : List String) :
    ((inlineTree artifacts).subtree path).artifacts = artifacts.filter (·.segments = path) := by
  induction artifacts using List.reverseRecOn with
  | nil =>
    show (ModuleTree.empty.subtree path).artifacts = []
    rw [ModuleTree.subtree_empty]
    rfl
  | append_singleton artifacts a ih =>
    rw [inlineTree_concat, ModuleTree.artifacts_subtree_insert a (ascending_inlineTree artifacts),
      ih, List.filter_append]
    congr 1
    by_cases ha : a.segments = path
    · simp [ha]
    · simp [ha]

theorem mem_names_subtree_inlineTree :
    n ∈ ((inlineTree artifacts).subtree path).names ↔
      ∃ a ∈ artifacts, path ++ [n] <+: a.segments := by
  induction artifacts using List.reverseRecOn with
  | nil =>
    show n ∈ (ModuleTree.empty.subtree path).names ↔ _
    rw [ModuleTree.subtree_empty]
    simp [ModuleTree.names, ModuleTree.packages, ModuleTree.empty]
  | append_singleton artifacts a ih =>
    rw [inlineTree_concat, ModuleTree.mem_names_subtree_insert a (ascending_inlineTree artifacts),
      ih]
    simp [or_and_right, exists_or]

theorem names_subtree_inlineTree (artifacts : List Artifact) (path : List String) :
    ((inlineTree (modulesOf artifacts)).subtree path).names = nextSegments artifacts path := by
  have hascending := (ascending_inlineTree (modulesOf artifacts)).subtree path
  refine eq_of_ascending hascending.packages.pairwise (ascending_nextSegments artifacts path) ?_
  intro n
  exact mem_names_subtree_inlineTree.trans mem_nextSegments.symm

/-- What the tree holds at a path is written as the text of the package. -/
theorem text_subtree_inlineTree (artifacts : List Artifact) (path : List String) :
    ((inlineTree (modulesOf artifacts)).subtree path).text = packageText artifacts path := by
  -- Along the recursion of the text: what holds of the packages below holds here.
  induction path using packageText.induct artifacts with
  | case1 path ih =>
    have hascending := (ascending_inlineTree (modulesOf artifacts)).subtree path
    rw [hascending.text_eq, packageText_eq, names_subtree_inlineTree,
      artifacts_subtree_inlineTree]
    congr 2
    refine List.map_congr_left fun n hn => ?_
    rw [← ModuleTree.subtree_concat, ih n hn]

/-! ## Other orders -/

/-- A segment follows a path when some package further on holds an artifact. -/
theorem mem_nextSegments_iff_ofPackage :
    n ∈ nextSegments artifacts path ↔ ∃ q, path ++ [n] <+: q ∧ ofPackage artifacts q ≠ [] := by
  rw [mem_nextSegments]
  constructor
  · intro ⟨a, ha, hprefix⟩
    have hq : a ∈ ofPackage artifacts a.segments := List.mem_filter.mpr ⟨ha, decide_eq_true rfl⟩
    exact ⟨a.segments, hprefix, List.ne_nil_of_mem hq⟩
  · intro ⟨q, hprefix, hne⟩
    obtain ⟨a, ha⟩ := List.exists_mem_of_ne_nil _ hne
    obtain ⟨hmem, heq⟩ := List.mem_filter.mp ha
    rw [← of_decide_eq_true heq] at hprefix
    exact ⟨a, hmem, hprefix⟩

theorem nextSegments_congr (h : ∀ path, ofPackage others path = ofPackage artifacts path)
    (path : List String) : nextSegments others path = nextSegments artifacts path := by
  refine eq_of_ascending (ascending_nextSegments others path)
    (ascending_nextSegments artifacts path) fun n => ?_
  rw [mem_nextSegments_iff_ofPackage, mem_nextSegments_iff_ofPackage]
  simp only [h]

theorem packageText_congr (h : ∀ path, ofPackage others path = ofPackage artifacts path)
    (path : List String) : packageText others path = packageText artifacts path := by
  induction path using packageText.induct artifacts with
  | case1 path ih =>
    rw [packageText_eq others, packageText_eq artifacts, h path, nextSegments_congr h]
    congr 2
    exact List.map_congr_left fun n hn => congrArg (ModuleTree.wrap n) (ih n hn)

open ModuleTree (leaves)

/-- The one text of artifacts, described by their packages. -/
structure FollowsPackages (artifacts : List Artifact) : Prop where
  root : inline artifacts = packageText artifacts []
  package : ∀ path, packageText artifacts path =
    String.join ((ofPackage artifacts path).map fun a => ModuleTree.wrap a.module_ a.body) ++
    String.join ((nextSegments artifacts path).map fun n =>
      ModuleTree.wrap n (packageText artifacts (path ++ [n])))
  ascending : ∀ path, (nextSegments artifacts path).Pairwise fun a b => compare a b = .lt
  next : ∀ path n, n ∈ nextSegments artifacts path ↔
    ∃ a ∈ modulesOf artifacts, path ++ [n] <+: a.segments
  pieces : inline artifacts = String.join ((inlinePieces artifacts).map Piece.text)
  /-- The bodies of the text are those of the artifacts, each once and in its module. -/
  bodies : (leaves (Piece.nested [] (inlinePieces artifacts))).Perm
    ((modulesOf artifacts).map fun a => (a.segments ++ [a.module_], a.body))
  /-- Indexes leave no trace. -/
  indexes : ∀ others, modulesOf others = modulesOf artifacts → inline others = inline artifacts
  /-- How packages are interleaved leaves no trace. -/
  interleaved : ∀ others, (∀ path, ofPackage others path = ofPackage artifacts path) →
    inline others = inline artifacts

theorem inline_follows_packages (artifacts : List Artifact) : FollowsPackages artifacts := by
  have hroot : ∀ as, inline as = packageText as [] := fun as => text_subtree_inlineTree as []
  have hinterleaved : ∀ others, (∀ path, ofPackage others path = ofPackage artifacts path) →
      inline others = inline artifacts := by
    intro others h
    rw [hroot others, hroot artifacts, packageText_congr h]
  exact
    { root := hroot artifacts
      package := packageText_eq artifacts
      ascending := ascending_nextSegments artifacts
      next := fun path n => mem_nextSegments
      pieces := inline_eq artifacts
      bodies := leaves_inlineTree (modulesOf artifacts)
      indexes := fun others h => hinterleaved others fun path => by rw [ofPackage, h, ofPackage]
      interleaved := hinterleaved }

end Generate
end TypedGraph
