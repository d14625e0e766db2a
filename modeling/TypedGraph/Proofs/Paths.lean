/-
The components of paths that are put together.

A path that goes on from another has the components of both, unless it starts
anew (`components_push`).  Names without slashes, and other than `.` and `..`,
each add themselves.
-/
import TypedGraph.Files.Path

namespace TypedGraph
namespace Files
namespace FilePath

/-- Where a path starts: at the root, at the directory that it is read in, or at
its first name. -/
def origin (cs : List Char) : List Component :=
  if cs.head? == some '/' then [.root]
  else if ((cs.splitOn '/').map String.ofList).head? == some "." then [.current]
  else []

/-- What the pieces of a path between slashes stand for. -/
def named (cs : List Char) : List Component :=
  (((cs.splitOn '/').map String.ofList).filter fun s => s != "" && s != ".").map fun s =>
    if s = ".." then Component.parent else .normal s

theorem components_eq (p : FilePath) :
    p.components = origin p.text.toList ++ named p.text.toList := by
  unfold components origin isAbsolute
  split
  · rfl
  · rename_i hrelative
    by_cases hhere : ((p.text.toList.splitOn '/').map String.ofList).head? == some "."
    · rw [if_pos hhere, if_pos hhere]
      rfl
    · rw [if_neg hhere, if_neg hhere]
      rfl

theorem named_concat (cs rest : List Char) : named (cs ++ '/' :: rest) = named cs ++ named rest := by
  simp only [named, List.splitOn_append_cons_self, List.map_append, List.filter_append]

theorem origin_concat (cs rest : List Char) :
    origin (cs ++ '/' :: rest) = if cs = [] then [.root] else origin cs := by
  cases cs with
  | nil => rfl
  | cons c cs =>
    rw [if_neg (List.cons_ne_nil c cs)]
    unfold origin
    rw [List.splitOn_append_cons_self, List.map_append]
    cases hs : (c :: cs).splitOn '/' with
    | nil => exact absurd hs (List.splitOn_ne_nil '/' _)
    | cons head tail => rfl

variable {p : FilePath} {next : String}

theorem not_absolute (h : origin p.text.toList = []) : p.isAbsolute = false := by
  refine Bool.eq_false_iff.mpr fun habsolute => ?_
  have hslash : (p.text.toList.head? == some '/') = true := habsolute
  rw [origin, if_pos hslash] at h
  exact nomatch h

/-- What starts at a name replaces nothing. -/
theorem push_eq (h : origin next.toList = []) :
    p.push next = if p.text.isEmpty || p.text.toList.getLast? == some '/' then ⟨p.text ++ next⟩
      else ⟨p.text ++ "/" ++ next⟩ := by
  have hrelative : (FilePath.mk next).isAbsolute = false := not_absolute h
  exact if_neg (Bool.eq_false_iff.mp hrelative)

/-- A path that starts at a name goes on from any other. -/
theorem components_push (h : origin next.toList = []) :
    (p.push next).components = p.components ++ (FilePath.mk next).components := by
  have hnext : (FilePath.mk next).components = named next.toList := by
    rw [components_eq, h, List.nil_append]
  rw [push_eq h, hnext]
  by_cases hempty : p.text = ""
  · have hp : p.components = [] := by
      rw [components_eq, hempty]
      rfl
    rw [hp, hempty, String.empty_append, List.nil_append]
    exact hnext
  · have hisEmpty : p.text.isEmpty = false := by simpa using hempty
    rw [hisEmpty, Bool.false_or, components_eq p]
    by_cases hslash : p.text.toList.getLast? = some '/'
    · -- The slash that parts the two is there already.
      obtain ⟨front, hfront⟩ := List.getLast?_eq_some_iff.mp hslash
      have htext : (p.text ++ next).toList = front ++ '/' :: next.toList := by
        rw [String.toList_append, hfront, List.append_assoc]
        rfl
      rw [if_pos (beq_iff_eq.mpr hslash), components_eq, htext, hfront, origin_concat,
        origin_concat, named_concat, named_concat, List.append_assoc, List.append_assoc]
      rfl
    · have hne : p.text.toList ≠ [] := fun hlist => hempty (String.toList_eq_nil_iff.mp hlist)
      have htext : (p.text ++ "/" ++ next).toList = p.text.toList ++ '/' :: next.toList := by
        rw [String.toList_append, String.toList_append, List.append_assoc]
        rfl
      rw [if_neg (fun hlast => hslash (beq_iff_eq.mp hlast)), components_eq, htext, origin_concat,
        if_neg hne, named_concat, List.append_assoc]

/-! ## Names -/

/-- A name of a file or a directory. -/
structure IsFileName (n : String) : Prop where
  nonempty : n ≠ ""
  not_current : n ≠ "."
  not_parent : n ≠ ".."
  not_parted : '/' ∉ n.toList

variable {n : String} {ns : List String}

theorem IsFileName.origin_eq (h : IsFileName n) : origin n.toList = [] := by
  have hhead : (n.toList.head? == some '/') = false := by
    refine beq_eq_false_iff_ne.mpr fun heq => ?_
    exact h.not_parted (List.mem_of_mem_head? heq)
  rw [origin, hhead, List.splitOn_eq_singleton h.not_parted]
  simp [h.not_current]

theorem IsFileName.components_eq (h : IsFileName n) :
    (FilePath.mk n).components = [.normal n] := by
  rw [FilePath.components_eq, h.origin_eq, named, List.splitOn_eq_singleton h.not_parted]
  simp [h.nonempty, h.not_current, h.not_parent]

theorem components_push_name (h : IsFileName n) :
    (p.push n).components = p.components ++ [.normal n] := by
  rw [components_push h.origin_eq, h.components_eq]

theorem components_foldl_push (h : ∀ n ∈ ns, IsFileName n) :
    (ns.foldl push p).components = p.components ++ ns.map .normal := by
  induction ns generalizing p with
  | nil => simp
  | cons n ns ih =>
    rw [List.foldl_cons, ih fun n hn => h n (List.mem_cons_of_mem _ hn),
      components_push_name (h n List.mem_cons_self), List.append_assoc]
    rfl

theorem components_ofSegments (h : ∀ n ∈ ns, IsFileName n) :
    (ofSegments ns).components = ns.map .normal := by
  rw [ofSegments, components_foldl_push h]
  rfl

/-- A path of names only starts at the first of them. -/
theorem origin_of_components (h : p.components = ns.map .normal) : origin p.text.toList = [] := by
  rw [components_eq] at h
  unfold origin at h ⊢
  split
  · rename_i habsolute
    rw [if_pos habsolute] at h
    cases ns with
    | nil => exact nomatch h
    | cons n ns => exact nomatch h
  · rename_i hrelative
    rw [if_neg hrelative] at h
    split
    · rename_i hhere
      rw [if_pos hhere] at h
      cases ns with
      | nil => exact nomatch h
      | cons n ns => exact nomatch h
    · rfl

end FilePath
end Files
end TypedGraph
