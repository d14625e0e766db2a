/-
Trees of directories.

`Entry.sorted` puts the names of every directory in order and changes nothing
that can be reached (`mem_sortedAll`).  Names that lead down from a directory also
lead there when they are pushed onto its path, as long as the path is not too long
(`entry_foldl_push`).
-/
import Mathlib.Data.List.Basic
import TypedGraph.Files.Disk
import TypedGraph.Proofs.Paths
import TypedGraph.Trace

namespace TypedGraph
namespace Files

/-- A name that an entry of a directory can have. -/
structure IsEntryName (n : String) : Prop extends FilePath.IsFileName n where
  short : n.utf8ByteSize ≤ Disk.longestName

instance (n : String) : Decidable (IsEntryName n) :=
  decidable_of_iff
    (n ≠ "" ∧ n ≠ "." ∧ n ≠ ".." ∧ '/' ∉ n.toList ∧ n.utf8ByteSize ≤ Disk.longestName)
    ⟨fun ⟨hempty, hcurrent, hparent, hparted, hshort⟩ =>
        ⟨⟨hempty, hcurrent, hparent, hparted⟩, hshort⟩,
      fun h => ⟨h.nonempty, h.not_current, h.not_parent, h.not_parted, h.short⟩⟩

namespace Entry

variable {e old : Entry} {entries : List (String × Entry)} {name : String}
  {x : String × Entry} {front back names : List String}

mutual

theorem induct {P : Entry → Prop} (file : ∀ content, P (.file content))
    (directory : ∀ entries, (∀ x ∈ entries, P x.2) → P (.directory entries)) : (e : Entry) → P e
  | .file content => file content
  | .directory entries => directory entries (inductAll file directory entries)

theorem inductAll {P : Entry → Prop} (file : ∀ content, P (.file content))
    (directory : ∀ entries, (∀ x ∈ entries, P x.2) → P (.directory entries)) :
    (entries : List (String × Entry)) → ∀ x ∈ entries, P x.2
  | [] => fun x hx => absurd hx List.not_mem_nil
  | (name, e) :: rest => fun x hx => by
    rcases List.mem_cons.mp hx with rfl | hx
    · exact induct file directory e
    · exact inductAll file directory rest x hx

end

theorem get?_nil (e : Entry) : e.get? [] = some e := by
  cases e <;> rfl

/-- Names that lead down from a directory go on from one of its entries. -/
theorem get?_cons_eq_some :
    e.get? (name :: names) = some old ↔
      ∃ entries below, e = .directory entries ∧ entries.lookup name = some below ∧
        below.get? names = some old := by
  cases e with
  | file content => exact ⟨fun h => (nomatch h), fun ⟨_, _, h, _⟩ => (nomatch h)⟩
  | directory entries =>
    rw [get?, Option.bind_eq_some_iff]
    constructor
    · rintro ⟨below, hbelow, h⟩
      exact ⟨entries, below, rfl, hbelow, h⟩
    · rintro ⟨_, below, heq, hbelow, h⟩
      rw [Entry.directory.inj heq]
      exact ⟨below, hbelow, h⟩

theorem get?_append (e : Entry) (front back : List String) :
    e.get? (front ++ back) = (e.get? front).bind (·.get? back) := by
  induction front generalizing e with
  | nil => rw [List.nil_append, get?_nil, Option.bind_some]
  | cons name front ih =>
    cases e with
    | file content => rfl
    | directory entries =>
      rw [List.cons_append, get?, get?, Option.bind_assoc]
      exact congrArg _ (funext fun below => ih below)

theorem mem_of_lookup (h : entries.lookup name = some e) : (name, e) ∈ entries := by
  obtain ⟨front, back, rfl, -⟩ := List.lookup_eq_some_iff.mp h
  exact List.mem_append_right _ List.mem_cons_self

/-! ## Order -/

/-- The names of a directory are in order, and no name stands twice. -/
def Ascending (entries : List (String × Entry)) : Prop :=
  entries.Pairwise fun x y => compare x.1 y.1 = .lt

theorem ne_of_lt {a b : String} (h : compare a b = .lt) : a ≠ b := by
  rintro rfl
  exact absurd h (Std.OrientedCmp.not_lt_of_lt h)

theorem mem_put (h : Ascending entries) :
    x ∈ put name e entries ↔ x = (name, e) ∨ (x ∈ entries ∧ x.1 ≠ name) := by
  induction entries with
  | nil => simp [put]
  | cons y rest ih =>
    obtain ⟨n, old⟩ := y
    obtain ⟨hhead, hrest⟩ := List.pairwise_cons.mp h
    rw [put]
    cases hcompare : compare name n with
    | lt =>
      have hne : ∀ y ∈ (n, old) :: rest, y.1 ≠ name := by
        intro y hy
        rcases List.mem_cons.mp hy with rfl | hy
        · exact (ne_of_lt hcompare).symm
        · exact (ne_of_lt (Std.TransCmp.lt_trans hcompare (hhead y hy))).symm
      rw [List.mem_cons]
      exact or_congr_right ⟨fun hy => ⟨hy, hne x hy⟩, And.left⟩
    | eq =>
      obtain rfl : name = n := Std.LawfulEqCmp.eq_of_compare hcompare
      have hne : ∀ y ∈ rest, y.1 ≠ name := fun y hy => (ne_of_lt (hhead y hy)).symm
      rw [List.mem_cons, List.mem_cons]
      refine or_congr_right ⟨fun hx => ⟨.inr hx, hne x hx⟩, ?_⟩
      rintro ⟨rfl | hx, hname⟩
      · exact absurd rfl hname
      · exact hx
    | gt =>
      have hne : n ≠ name := ne_of_lt (Std.OrientedCmp.lt_of_gt hcompare)
      rw [List.mem_cons, ih hrest, List.mem_cons]
      constructor
      · rintro (rfl | rfl | ⟨hx, hname⟩)
        · exact .inr ⟨.inl rfl, hne⟩
        · exact .inl rfl
        · exact .inr ⟨.inr hx, hname⟩
      · rintro (rfl | ⟨rfl | hx, hname⟩)
        · exact .inr (.inl rfl)
        · exact .inl rfl
        · exact .inr (.inr ⟨hx, hname⟩)

theorem ascending_put (h : Ascending entries) : Ascending (put name e entries) := by
  induction entries with
  | nil => exact List.pairwise_singleton _ _
  | cons y rest ih =>
    obtain ⟨n, old⟩ := y
    obtain ⟨hhead, hrest⟩ := List.pairwise_cons.mp h
    rw [put]
    cases hcompare : compare name n with
    | lt =>
      refine List.pairwise_cons.mpr ⟨fun y hy => ?_, h⟩
      rcases List.mem_cons.mp hy with rfl | hy
      · exact hcompare
      · exact Std.TransCmp.lt_trans hcompare (hhead y hy)
    | eq =>
      rw [Std.LawfulEqCmp.eq_of_compare hcompare]
      exact List.pairwise_cons.mpr ⟨hhead, hrest⟩
    | gt =>
      refine List.pairwise_cons.mpr ⟨fun y hy => ?_, ih hrest⟩
      rcases (mem_put hrest).mp hy with rfl | ⟨hy, -⟩
      · exact Std.OrientedCmp.lt_of_gt hcompare
      · exact hhead y hy

theorem ascending_sortedAll (entries : List (String × Entry)) :
    Ascending (sortedAll entries) := by
  induction entries with
  | nil => exact List.Pairwise.nil
  | cons y rest ih => exact ascending_put ih

/-- Sorting keeps what each name leads to. -/
theorem mem_sortedAll : x ∈ sortedAll entries ↔
    ∃ e, entries.lookup x.1 = some e ∧ x.2 = e.sorted := by
  induction entries with
  | nil => simp [sortedAll]
  | cons y rest ih =>
    obtain ⟨n, old⟩ := y
    obtain ⟨name, e⟩ := x
    rw [sortedAll, mem_put (ascending_sortedAll rest), ih, List.lookup_cons]
    by_cases hname : name = n
    · subst hname
      simp [Prod.ext_iff]
    · simp [hname, beq_false_of_ne hname, Prod.ext_iff]

/-! ## Names -/

/-- All names in a tree are such as entries can have. -/
inductive IsNamed : Entry → Prop
  | file (content : ByteArray) : IsNamed (.file content)
  | directory {entries : List (String × Entry)} (names : ∀ x ∈ entries, IsEntryName x.1)
      (below : ∀ x ∈ entries, IsNamed x.2) : IsNamed (.directory entries)

theorem IsNamed.of_lookup (h : IsNamed (.directory entries)) (he : entries.lookup name = some e) :
    IsEntryName name ∧ e.IsNamed := by
  cases h with
  | directory names below => exact ⟨names _ (mem_of_lookup he), below _ (mem_of_lookup he)⟩

theorem IsNamed.of_get? (h : e.IsNamed) (ht : e.get? names = some old) :
    ∀ n ∈ names, IsEntryName n := by
  induction names generalizing e with
  | nil => exact fun n hn => absurd hn List.not_mem_nil
  | cons name names ih =>
    obtain ⟨entries, below, rfl, hbelow, ht⟩ := get?_cons_eq_some.mp ht
    obtain ⟨hname, hbelow⟩ := h.of_lookup hbelow
    intro n hn
    rcases List.mem_cons.mp hn with rfl | hn
    · exact hname
    · exact ih hbelow ht n hn

end Entry

/-! ## Paths that lead down -/

theorem Component.order_self (c : Component) : c.order c = .eq := by
  cases c with
  | root => rfl
  | current => rfl
  | parent => rfl
  | normal name =>
    show compare name name = .eq
    exact Std.ReflCmp.compare_self

namespace FilePath

variable {p : FilePath} {n : String} {names : List String}

theorem IsFileName.toList_ne_nil (h : IsFileName n) : n.toList ≠ [] := fun hlist =>
  h.nonempty (String.toList_eq_nil_iff.mp hlist)

/-- A name is added to the end of a path, perhaps after a slash. -/
theorem IsFileName.text_push (h : IsFileName n) :
    ∃ slash, (p.push n).text = p.text ++ slash ++ n := by
  rw [push_eq h.origin_eq]
  split
  · exact ⟨"", by rw [String.append_empty]⟩
  · exact ⟨"/", rfl⟩

theorem isAbsolute_push (h : IsFileName n) (hp : p.text ≠ "") :
    (p.push n).isAbsolute = p.isAbsolute := by
  obtain ⟨slash, htext⟩ := h.text_push (p := p)
  have hne : p.text.toList ≠ [] := fun hlist => hp (String.toList_eq_nil_iff.mp hlist)
  obtain ⟨c, cs, hcs⟩ := List.exists_cons_of_ne_nil hne
  rw [isAbsolute, isAbsolute, htext, String.toList_append, String.toList_append, hcs]
  rfl

theorem text_push_ne (h : IsFileName n) : (p.push n).text ≠ "" := by
  obtain ⟨slash, htext⟩ := h.text_push (p := p)
  intro hempty
  have hlist : (p.text ++ slash).toList ++ n.toList = [] := by
    rw [← String.toList_append, ← htext, hempty]
    rfl
  exact h.toList_ne_nil (List.append_eq_nil_iff.mp hlist).2

theorem orderComponents_append (front back next : List Component) :
    orderComponents (front ++ back) (front ++ next) = orderComponents back next := by
  induction front with
  | nil => rfl
  | cons c front ih =>
    rw [List.cons_append, List.cons_append, orderComponents, Component.order_self, ih]
    rfl

/-- Paths with a common start are in the order of the names that they go on with. -/
theorem order_of_names {q r : FilePath} {a b : String} {back next : List Component}
    (hq : q.components = p.components ++ .normal a :: back)
    (hr : r.components = p.components ++ .normal b :: next) (h : compare a b = .lt) :
    q.order r = .lt := by
  rw [order, hq, hr, orderComponents_append, orderComponents, Component.order, h]
  rfl

end FilePath

namespace Disk

variable {d : Disk} {p : FilePath} {n : String} {e : Entry} {entries : List (String × Entry)}
  {names found : List String} {cs : List Component}

theorem checkPath_eq_ok : checkPath p = .ok () ↔
    '\x00' ∉ p.text.toList ∧ p.text ≠ "" ∧ p.text.utf8ByteSize ≤ longestPath := by
  unfold checkPath
  by_cases hnul : '\x00' ∈ p.text.toList
  · simp [hnul]
  · by_cases hempty : p.text = ""
    · simp [hempty]
    · by_cases hlong : p.text.utf8ByteSize > longestPath
      · simp [hnul, hempty, hlong]
      · simp [hnul, hempty, hlong, Nat.le_of_not_gt hlong]

theorem isOk_checkPath : (checkPath p).isOk = true ↔ checkPath p = .ok () := by
  cases checkPath p with
  | error e => exact ⟨fun h => (nomatch h), fun h => (nomatch h)⟩
  | ok _ => exact ⟨fun _ => rfl, fun _ => rfl⟩

/-- A path is no longer than one that goes on from it. -/
theorem checkPath_of_push (hn : FilePath.IsFileName n) (hp : p.text ≠ "")
    (h : checkPath (p.push n) = .ok ()) : checkPath p = .ok () := by
  obtain ⟨slash, htext⟩ := hn.text_push (p := p)
  rw [checkPath_eq_ok, htext] at h
  obtain ⟨hnul, -, hshort⟩ := h
  refine checkPath_eq_ok.mpr ⟨fun hmem => hnul ?_, hp, ?_⟩
  · rw [String.toList_append, String.toList_append]
    exact List.mem_append_left _ (List.mem_append_left _ hmem)
  · rw [String.utf8ByteSize_append, String.utf8ByteSize_append] at hshort
    omega

theorem checkPath_of_foldl_push (hn : ∀ n ∈ names, FilePath.IsFileName n) (hp : p.text ≠ "")
    (h : checkPath (names.foldl FilePath.push p) = .ok ()) : checkPath p = .ok () := by
  induction names generalizing p with
  | nil => exact h
  | cons n names ih =>
    obtain ⟨hhead, hrest⟩ := List.forall_mem_cons.mp hn
    exact checkPath_of_push hhead hp (ih hrest (FilePath.text_push_ne hhead) h)

theorem checkPath_of_entry (h : d.entry p = .ok e) : checkPath p = .ok () := by
  simp only [entry, place, bind_eq_ok] at h
  obtain ⟨_, ⟨_, hpath, -⟩, -⟩ := h
  exact hpath

theorem get?_concat (h : d.get? names = some (.directory entries)) :
    d.get? (names ++ [n]) = entries.lookup n := by
  have htop : d.root.get? names = some (.directory entries) := h
  rw [Disk.get?, Entry.get?_append, htop, Option.bind_some, Entry.get?]
  cases entries.lookup n with
  | none => rfl
  | some e => exact e.get?_nil

/-- A walk to a directory goes on to what a name in it leads to. -/
theorem walk_concat (h : d.walk names cs = .ok (.found found (.directory entries)))
    (hn : n.utf8ByteSize ≤ longestName) (he : entries.lookup n = some e) :
    d.walk names (cs ++ [.normal n]) = .ok (.found (found ++ [n]) e) := by
  induction cs generalizing names with
  | nil =>
    rw [walk] at h
    cases hget : d.get? names with
    | none =>
      rw [hget] at h
      exact nomatch h
    | some top =>
      rw [hget] at h
      obtain ⟨rfl, rfl⟩ := Place.found.inj (Except.ok.inj h)
      rw [List.nil_append, walk, hget]
      simp only [he, Option.isNone_some, Bool.false_and, Bool.false_eq_true, if_false,
        Nat.not_lt.mpr hn, walk, get?_concat hget]
  | cons c rest ih =>
    cases hget : d.get? names with
    | none =>
      rw [walk, hget] at h
      exact nomatch h
    | some top =>
      cases top with
      | file content =>
        rw [walk, hget] at h
        exact nomatch h
      | directory below =>
        rw [List.cons_append]
        cases c with
        | root =>
          rw [walk, hget] at h ⊢
          exact ih h
        | current =>
          rw [walk, hget] at h ⊢
          exact ih h
        | parent =>
          rw [walk, hget] at h ⊢
          exact ih h
        | normal name =>
          simp only [walk, hget] at h ⊢
          split at h
          · exact nomatch h
          · rename_i hshort
            split at h
            · exact nomatch h
            · rename_i hthere
              -- A walk may end at a free name, but it does not go on from there.
              have hsome : (below.lookup name).isNone = false := by
                refine Bool.eq_false_iff.mpr fun hnone => ?_
                rw [hnone, Bool.true_and, Bool.not_eq_true', Bool.not_eq_false,
                  List.isEmpty_iff] at hthere
                rw [hthere, walk, get?_concat hget, Option.isNone_iff_eq_none.mp hnone] at h
                exact nomatch h
              simp only [if_neg hshort, hsome, Bool.false_and, Bool.false_eq_true, if_false]
              exact ih h

theorem walk_of_entry (h : d.entry p = .ok (.directory entries)) :
    ∃ found, d.walk (d.start p) p.components = .ok (.found found (.directory entries)) := by
  simp only [entry, place, bind_eq_ok] at h
  obtain ⟨place, ⟨_, -, walked, hwalk, hplace⟩, h⟩ := h
  cases place with
  | free names => exact nomatch h
  | found names e =>
    obtain rfl : e = .directory entries := Except.ok.inj h
    refine ⟨names, ?_⟩
    rw [hwalk]
    split at hplace
    · split at hplace
      · exact nomatch hplace
      · exact nomatch Except.ok.inj hplace
    · exact hplace

theorem entry_of_walk (hpath : checkPath p = .ok ()) (hp : namesDirectory p = false)
    (h : d.walk (d.start p) p.components = .ok (.found found e)) : d.entry p = .ok e := by
  have hplace : d.place p = .ok (.found found e) := by
    simp only [place, bind_eq_ok]
    refine ⟨(), hpath, _, h, ?_⟩
    cases e with
    | file content =>
      rw [hp]
      rfl
    | directory entries => rfl
  rw [entry, hplace]
  rfl

/-- A path that ends in a name may be that of a file. -/
theorem namesDirectory_push (hn : FilePath.IsFileName n) : namesDirectory (p.push n) = false := by
  obtain ⟨slash, htext⟩ := hn.text_push (p := p)
  obtain ⟨c, rest, hrev⟩ :=
    List.exists_cons_of_ne_nil (List.reverse_ne_nil_iff.mpr hn.toList_ne_nil)
  have hslash : ∀ x ∈ c :: rest, x ≠ '/' := by
    rintro x hx rfl
    exact hn.not_parted (List.mem_reverse.mp (hrev ▸ hx))
  unfold namesDirectory
  rw [htext, String.toList_append, List.reverse_append, hrev, List.cons_append]
  split
  · rename_i heq
    exact absurd (List.cons.inj heq).1 (hslash c List.mem_cons_self)
  · rename_i heq
    obtain ⟨rfl, hrest⟩ := List.cons.inj heq
    cases rest with
    | nil =>
      have hdot : n = "." := by
        rw [← String.toList_inj, ← List.reverse_inj, hrev]
        rfl
      exact absurd hdot hn.not_current
    | cons x rest =>
      have hx : x ∈ '.' :: x :: rest := List.mem_cons_of_mem _ List.mem_cons_self
      exact absurd (List.cons.inj hrest).1 (hslash x hx)
  · rfl

/-- What an entry of a directory is called leads to it from the directory's path. -/
theorem entry_push (h : d.entry p = .ok (.directory entries)) (hn : IsEntryName n)
    (he : entries.lookup n = some e) (hpath : checkPath (p.push n) = .ok ()) :
    d.entry (p.push n) = .ok e := by
  have hp : p.text ≠ "" := (checkPath_eq_ok.mp (checkPath_of_entry h)).2.1
  obtain ⟨found, hwalk⟩ := walk_of_entry h
  have hnext : d.walk (d.start (p.push n)) (p.push n).components =
      .ok (.found (found ++ [n]) e) := by
    rw [FilePath.components_push_name hn.toIsFileName, start,
      FilePath.isAbsolute_push hn.toIsFileName hp]
    exact walk_concat hwalk hn.short he
  exact entry_of_walk hpath (namesDirectory_push hn.toIsFileName) hnext

theorem entry_foldl_push {top : Entry} (h : d.entry p = .ok top) (htop : top.IsNamed)
    (he : top.get? names = some e) (hpath : checkPath (names.foldl FilePath.push p) = .ok ()) :
    d.entry (names.foldl FilePath.push p) = .ok e := by
  induction names generalizing p top with
  | nil =>
    rw [Entry.get?_nil] at he
    rw [← Option.some.inj he]
    exact h
  | cons n names ih =>
    have hnames := htop.of_get? he
    obtain ⟨entries, below, rfl, hbelow, he⟩ := Entry.get?_cons_eq_some.mp he
    obtain ⟨hn, hnamed⟩ := htop.of_lookup hbelow
    have hshort : checkPath (p.push n) = .ok () :=
      checkPath_of_foldl_push (fun m hm => (hnames m (List.mem_cons_of_mem _ hm)).toIsFileName)
        (FilePath.text_push_ne hn.toIsFileName) hpath
    exact ih (entry_push h hn hbelow hshort) hnamed he hpath

/-- A file below a directory counts as one unless its path is too long. -/
theorem isFile_foldl_push {top : Entry} {content : ByteArray} (h : d.entry p = .ok top)
    (htop : top.IsNamed) (he : top.get? names = some (.file content)) :
    d.isFile (names.foldl FilePath.push p) = (checkPath (names.foldl FilePath.push p)).isOk := by
  cases hpath : checkPath (names.foldl FilePath.push p) with
  | ok _ =>
    rw [isFile, entry_foldl_push h htop he hpath]
    rfl
  | error failure =>
    rw [isFile, entry, place, hpath]
    rfl

end Disk
end Files
end TypedGraph
