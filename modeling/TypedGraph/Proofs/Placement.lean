/-
Where artifacts are written, and where their modules are looked for.

Package segments and module names are checked to hold an identifier, and then go
into paths as they stand, while indexes declare the identifiers.  Paths and
declarations agree exactly in runs whose names are their own identifiers
(`placed_iff_plain`).  A raw identifier does not count as one: its mark is left
out when the file of its module is looked for.
-/
import Mathlib.Data.List.Perm.Basic
import TypedGraph.Generate.Persist
import TypedGraph.Proofs.Identifiers
import TypedGraph.Proofs.ModuleTree
import TypedGraph.Proofs.Paths

namespace TypedGraph

open Files (Component FilePath)

/-! ## The text of an index -/

namespace Code

open Generate (indexFile)

def declaration (name : String) : String := "pub mod " ++ name ++ ";\n"

open Layout in
/-- A declaration takes a line of its own, and the page goes on at its margin. -/
theorem render_declaration {page : Page} (howed : page.owed = 0) (name : String)
    (rest : List Piece) :
    ∃ page' : Page, page'.owed = 0 ∧ page'.text = page.text ++ declaration name ∧
      renderAll (.broken .consistent) 0 0 page ((Item.submodule "pub " name).pieces ++ rest) =
        renderAll (.broken .consistent) 0 0 page' rest := by
  let words := ((((page.word "pub ").word "mod ").word name).word ";")
  refine ⟨words.newLine { blank := unbounded } 0, rfl, ?_, ?_⟩
  · have hwords : words.text = page.text ++ "pub " ++ "mod " ++ name ++ ";" := by
      simp [words, Page.word, Page.put, howed]
    show words.text ++ "\n" = _
    rw [hwords, declaration]
    simp only [String.append_assoc]
    rfl
  · -- All that fits or not are words, which are written alike.
    simp only [Item.pieces, consistent, hardBreak, word, List.cons_append, List.nil_append,
      renderAll, Piece.render, ite_self]
    rfl

open Layout in
theorem renderAll_declarations {page : Page} (howed : page.owed = 0) (names : List String) :
    (renderAll (.broken .consistent) 0 0 page
      (names.flatMap fun name => (Item.submodule "pub " name).pieces)).text =
      page.text ++ String.join (names.map declaration) := by
  induction names generalizing page with
  | nil => exact (String.append_empty).symm
  | cons name names ih =>
    obtain ⟨page', howed', htext, hrender⟩ := render_declaration howed name
      (names.flatMap fun name => (Item.submodule "pub " name).pieces)
    rw [List.flatMap_cons, hrender, ih howed', htext, List.map_cons, String.join_cons,
      String.append_assoc]

theorem text_indexFile (names : List String) :
    (indexFile names).text = String.join (names.map declaration) := by
  let pieces := names.flatMap fun name => (Item.submodule "pub " name).pieces
  have htext : (indexFile names).text = Layout.text pieces := by
    show Layout.text ([] ++ (names.map (Item.submodule "pub ")).flatMap Item.pieces) = _
    rw [List.nil_append, List.flatMap_map]
  cases names with
  | nil => exact htext
  | cons name rest =>
    have hbreak : Layout.unbounded ≤ Layout.widthAll pieces := by
      simp only [pieces, List.flatMap_cons, Item.pieces, hardBreak, List.cons_append,
        Layout.widthAll, Layout.Piece.width]
      omega
    have hwide : (Layout.widthAll pieces + 0 : Nat) > ({} : Layout.Page).room := by
      have hroom : ({} : Layout.Page).room < (Layout.unbounded : Nat) := by decide
      omega
    rw [htext, Layout.text, Layout.Piece.render, if_pos hwide]
    exact (renderAll_declarations rfl (name :: rest)).trans String.empty_append

/-- The width of a listing is that of the names in it, and ten for each. -/
theorem length_text_indexFile (names : List String) :
    (indexFile names).text.length = (names.map String.length).sum + 10 * names.length := by
  rw [text_indexFile, String.length_join]
  induction names with
  | nil => rfl
  | cons name names ih =>
    have hname : (declaration name).length = name.length + 10 := by
      have hstart : "pub mod ".length = 8 := rfl
      have hend : ";\n".length = 2 := rfl
      rw [declaration, String.length_append, String.length_append]
      omega
    simp only [List.map_cons, List.sum_cons, List.length_cons, ih, hname]
    omega

/-! ## Names that are their own identifiers -/

/-- What a module is called where its file is looked for: the mark of a raw
identifier is left out. -/
def fileName (name : String) : String :=
  if Scan.startsWith "r#" name.toList then String.ofList (name.toList.drop 2) else name

/-- A text that is an identifier as it stands, and not a raw one. -/
structure IsPlain (n : String) : Prop where
  identifier : identifier? n = some n
  file : fileName n = n

namespace IsPlain

variable {n : String}

instance : Decidable (IsPlain n) :=
  decidable_of_iff (identifier? n = some n ∧ fileName n = n)
    ⟨fun h => ⟨h.1, h.2⟩, fun h => ⟨h.identifier, h.file⟩⟩

theorem isIdentContinue (h : IsPlain n) : ∀ x ∈ n.toList, x = '#' ∨ Text.isIdentContinue x = true :=
  (identifier?_ok h.identifier).2.2

theorem not_parted (h : IsPlain n) : '/' ∉ n.toList := fun hmem =>
  absurd (h.isIdentContinue _ hmem) (by decide)

theorem not_dotted (h : IsPlain n) : '.' ∉ n.toList := fun hmem =>
  absurd (h.isIdentContinue _ hmem) (by decide)

theorem isFileName (h : IsPlain n) : FilePath.IsFileName n where
  nonempty := (identifier?_ok h.identifier).2.1
  not_current heq := h.not_dotted (by rw [heq]; decide)
  not_parent heq := h.not_dotted (by rw [heq]; decide)
  not_parted := h.not_parted

end IsPlain

/-- The identifiers in plain names are these names. -/
theorem eq_of_plain {ns names : List String} (hplain : ∀ n ∈ ns, IsPlain n)
    (h : List.Forall₂ (fun n name => identifier? n = some name) ns names) : names = ns := by
  have hequal : List.Forall₂ (· = ·) ns names :=
    ((List.forall₂_and_left _ _).mpr ⟨hplain, h⟩).imp fun n name hn =>
      Option.some.inj (hn.1.identifier.symm.trans hn.2)
  rw [List.forall₂_eq_eq_eq] at hequal
  exact hequal.symm

theorem isFileName_source {n : String} (h : '/' ∉ n.toList) : FilePath.IsFileName (n ++ ".rs") := by
  have hlonger : ∀ short : String, short.length < 3 → n ++ ".rs" ≠ short := by
    intro short hshort heq
    have hlength : (n ++ ".rs").length = n.length + 3 := String.length_append n ".rs"
    rw [heq] at hlength
    omega
  refine ⟨hlonger "" (by decide), hlonger "." (by decide), hlonger ".." (by decide), ?_⟩
  rw [String.toList_append, List.mem_append, not_or]
  exact ⟨h, by decide⟩

/-- Identifiers are no longer than the texts that hold them, and all of a text
when they are as long. -/
theorem sum_length_le {ns names : List String}
    (h : List.Forall₂ (fun n name => identifier? n = some name) ns names) :
    (names.map String.length).sum ≤ (ns.map String.length).sum ∧
      ((ns.map String.length).sum ≤ (names.map String.length).sum → names = ns) := by
  induction h with
  | nil => exact ⟨Nat.le_refl _, fun _ => rfl⟩
  | @cons n name ns names hname _ ih =>
    obtain ⟨hle, heq⟩ := ih
    have hpart : name.toList <:+: n.toList := (identifier?_ok hname).1
    have hlength : name.length ≤ n.length := hpart.length_le
    simp only [List.map_cons, List.sum_cons]
    refine ⟨by omega, fun hsum => ?_⟩
    have hsame : name.toList = n.toList :=
      hpart.eq_of_length (by show name.length = n.length; omega)
    rw [String.toList_inj.mp hsame, heq (by omega)]

/-- A listing of the identifiers in some names reads like one of these names only
if each name is its identifier. -/
theorem eq_of_text_eq {ns ns' names : List String}
    (h : List.Forall₂ (fun n name => identifier? n = some name) ns names) (hperm : ns'.Perm ns)
    (htext : (indexFile ns').text = (indexFile names).text) : names = ns := by
  refine (sum_length_le h).2 ?_
  have hlength := congrArg String.length htext
  rw [length_text_indexFile, length_text_indexFile, hperm.length_eq, h.length_eq,
    (hperm.map String.length).sum_nat] at hlength
  omega

end Code

/-! ## Runs -/

namespace Generate

/-- What an index declares: its sub-packages and modules as they are spelled, each
with its file where the declaration has it looked for. -/
structure Declares (artifacts : List Artifact) (x : Artifact) (children modules : List String) :
    Prop where
  nodup : (children ++ modules).Nodup
  mem_children : ∀ n, n ∈ children ↔
    ∃ a ∈ artifacts, a.isModuleIndex = false ∧ x.segments ++ [n] <+: a.segments
  mem_modules : ∀ n, n ∈ modules ↔
    ∃ a ∈ artifacts, a.isModuleIndex = false ∧ a.segments = x.segments ∧ a.module_ = n
  body : x.body = (indexFile (children ++ modules)).text
  children_found : ∀ n ∈ children, ∃ y ∈ artifacts, y.isModuleIndex = true ∧
    y.segments = x.segments ++ [n] ∧ y.relativePath.components =
      (x.segments ++ [Code.fileName n, moduleIndexName ++ ".rs"]).map .normal
  modules_found : ∀ n ∈ modules, ∃ a ∈ artifacts, a.isModuleIndex = false ∧
    a.segments = x.segments ∧ a.module_ = n ∧
    a.relativePath.components = (x.segments ++ [Code.fileName n ++ ".rs"]).map .normal

/-- Artifacts are written below any root, under their packages and modules, where
the indexes have them looked for. -/
structure IsPlaced (artifacts : List Artifact) : Prop where
  relative : ∀ a ∈ artifacts,
    a.relativePath.isAbsolute = false ∧ .parent ∉ a.relativePath.components
  components : ∀ a ∈ artifacts,
    a.relativePath.components = (a.segments ++ [a.module_ ++ ".rs"]).map .normal
  written : ∀ a ∈ artifacts, ∀ root disk path, ((diskSink root a).run disk).1 = .ok path →
    path.components = root.components ++ a.relativePath.components
  declared : ∀ x ∈ artifacts, x.isModuleIndex = true →
    ∃ children modules, Declares artifacts x children modules

/-- The packages and modules of artifacts are called by their own identifiers. -/
def HasPlainNames (artifacts : List Artifact) : Prop :=
  ∀ a ∈ artifacts, a.isModuleIndex = false → ∀ n ∈ a.segments ++ [a.module_], Code.IsPlain n

variable {artifacts : List Artifact} {a x : Artifact}

instance : Decidable (HasPlainNames artifacts) :=
  inferInstanceAs (Decidable (∀ a ∈ artifacts, a.isModuleIndex = false →
    ∀ n ∈ a.segments ++ [a.module_], Code.IsPlain n))

theorem diskSink_path {root path : FilePath} {disk : Files.Disk}
    (h : ((diskSink root a).run disk).1 = .ok path) : path = a.pathBelow root := by
  cases hmade : disk.makeDirectories (((a.pathBelow root).parent?).getD ⟨""⟩) with
  | mk made outcome =>
    cases outcome with
    | error cause => simp [diskSink, hmade] at h
    | ok _ =>
      cases hwritten : made.writeText (a.pathBelow root) a.body with
      | error cause => simp [diskSink, hmade, hwritten] at h
      | ok written =>
        simp [diskSink, hmade, hwritten] at h
        exact (Except.ok.inj h).symm

namespace IsModuleTree

theorem exists_index (h : IsModuleTree artifacts) {p : List String}
    (hp : p = [] ∨ ∃ a ∈ artifacts, a.isModuleIndex = false ∧ p <+: a.segments) :
    ∃ x ∈ artifacts, x.isModuleIndex = true ∧ x.segments = p := by
  have hcount := h.indexes p
  rw [if_pos hp] at hcount
  obtain ⟨x, hx, hkind⟩ := List.countP_pos_iff.mp (by rw [hcount]; exact Nat.one_pos)
  rw [Bool.and_eq_true, beq_iff_eq] at hkind
  exact ⟨x, hx, hkind⟩

theorem package_of_index (h : IsModuleTree artifacts) (hx : x ∈ artifacts)
    (hkind : x.isModuleIndex = true) :
    x.segments = [] ∨ ∃ a ∈ artifacts, a.isModuleIndex = false ∧ x.segments <+: a.segments := by
  by_contra hnone
  have hcount := h.indexes x.segments
  rw [if_neg hnone, List.countP_eq_zero] at hcount
  refine hcount x hx ?_
  rw [hkind, Bool.true_and]
  exact beq_self_eq_true _

/-- What indexes declare as it stands is an identifier. -/
theorem identifier_of_declares (h : IsModuleTree artifacts) (hx : x ∈ artifacts)
    (hkind : x.isModuleIndex = true) {children modules : List String}
    (hdeclares : Declares artifacts x children modules) :
    ∀ n ∈ children ++ modules, Code.identifier? n = some n := by
  obtain ⟨children', modules', names, hchildren, hmodules, hnodup, hnames, hbody⟩ :=
    h.declared x hx hkind
  have hperm : (children ++ modules).Perm (children' ++ modules') := by
    refine (List.perm_ext_iff_of_nodup hdeclares.nodup hnodup).mpr fun n => ?_
    rw [List.mem_append, List.mem_append, hdeclares.mem_children, hdeclares.mem_modules, hchildren,
      hmodules]
  have heq : names = children' ++ modules' :=
    Code.eq_of_text_eq hnames hperm (hdeclares.body.symm.trans hbody)
  rw [heq, List.forall₂_same] at hnames
  exact fun n hn => hnames n (hperm.mem_iff.mp hn)

theorem segments_plain (h : IsModuleTree artifacts) (hplain : HasPlainNames artifacts)
    (ha : a ∈ artifacts) : ∀ n ∈ a.segments, Code.IsPlain n := by
  intro n hn
  cases hkind : a.isModuleIndex with
  | false => exact hplain a ha hkind n (List.mem_append_left _ hn)
  | true =>
    rcases h.package_of_index ha hkind with hroot | ⟨b, hb, hbkind, hbelow⟩
    · rw [hroot] at hn
      exact absurd hn List.not_mem_nil
    · exact hplain b hb hbkind n (List.mem_append_left _ (hbelow.subset hn))

theorem components_of_plain (h : IsModuleTree artifacts) (hplain : HasPlainNames artifacts)
    (ha : a ∈ artifacts) :
    a.relativePath.components = (a.segments ++ [a.module_ ++ ".rs"]).map .normal := by
  have hsegments : ∀ n ∈ a.segments, FilePath.IsFileName n := fun n hn =>
    (h.segments_plain hplain ha n hn).isFileName
  have hmodule : '/' ∉ a.module_.toList := by
    cases hkind : a.isModuleIndex with
    | false => exact (hplain a ha hkind _ (List.mem_append_right _ List.mem_cons_self)).not_parted
    | true =>
      rw [Artifact.module_, if_pos hkind]
      decide
  rw [Artifact.relativePath, FilePath.components_push_name (Code.isFileName_source hmodule),
    FilePath.components_ofSegments hsegments, List.map_append]
  rfl

/-- In a tree of plain names the indexes declare these names, and the files are
where they are looked for. -/
theorem exists_declares (h : IsModuleTree artifacts) (hplain : HasPlainNames artifacts)
    (hx : x ∈ artifacts) (hkind : x.isModuleIndex = true) :
    ∃ children modules, Declares artifacts x children modules := by
  obtain ⟨children, modules, names, hchildren, hmodules, hnodup, hnames, hbody⟩ :=
    h.declared x hx hkind
  have hchild : ∀ n ∈ children, Code.IsPlain n := by
    intro n hn
    obtain ⟨a, ha, hakind, hbelow⟩ := (hchildren n).mp hn
    refine hplain a ha hakind n (List.mem_append_left _ (hbelow.subset ?_))
    exact List.mem_append_right _ List.mem_cons_self
  have hmodule : ∀ n ∈ modules, Code.IsPlain n := by
    intro n hn
    obtain ⟨a, ha, hakind, -, rfl⟩ := (hmodules n).mp hn
    exact hplain a ha hakind _ (List.mem_append_right _ List.mem_cons_self)
  have hsame : names = children ++ modules := by
    refine Code.eq_of_plain (fun n hn => ?_) hnames
    rcases List.mem_append.mp hn with hn | hn
    · exact hchild n hn
    · exact hmodule n hn
  rw [hsame] at hbody
  refine ⟨children, modules, hnodup, hchildren, hmodules, hbody, fun n hn => ?_, fun n hn => ?_⟩
  · obtain ⟨y, hy, hykind, hsegments⟩ :=
      h.exists_index (p := x.segments ++ [n]) (.inr ((hchildren n).mp hn))
    refine ⟨y, hy, hykind, hsegments, ?_⟩
    rw [h.components_of_plain hplain hy, hsegments, Artifact.module_, if_pos hykind,
      (hchild n hn).file, List.append_assoc]
    rfl
  · obtain ⟨a, ha, hakind, hsegments, hname⟩ := (hmodules n).mp hn
    refine ⟨a, ha, hakind, hsegments, hname, ?_⟩
    rw [h.components_of_plain hplain ha, hsegments, hname, (hmodule n hn).file]

theorem isPlaced (h : IsModuleTree artifacts) (hplain : HasPlainNames artifacts) :
    IsPlaced artifacts where
  relative a ha := by
    have hcomponents := h.components_of_plain hplain ha
    refine ⟨FilePath.not_absolute (FilePath.origin_of_components hcomponents), ?_⟩
    rw [hcomponents]
    simp
  components a ha := h.components_of_plain hplain ha
  written a ha root disk path hpath := by
    rw [diskSink_path hpath]
    exact FilePath.components_push
      (FilePath.origin_of_components (h.components_of_plain hplain ha))
  declared x hx hkind := h.exists_declares hplain hx hkind

end IsModuleTree

namespace IsPlaced

/-- Names that are found where they are looked for are no raw ones. -/
theorem file_of_declares (h : IsPlaced artifacts) {children modules : List String}
    (hdeclares : Declares artifacts x children modules) :
    ∀ n ∈ children ++ modules, Code.fileName n = n := by
  have hnormal : Function.Injective Component.normal := fun _ _ => Component.normal.inj
  intro n hn
  rcases List.mem_append.mp hn with hn | hn
  · obtain ⟨y, hy, -, hsegments, hcomponents⟩ := hdeclares.children_found n hn
    rw [h.components y hy, hsegments, List.append_assoc] at hcomponents
    have heq := List.append_cancel_left (List.map_injective_iff.mpr hnormal hcomponents)
    exact (List.cons.inj heq).1.symm
  · obtain ⟨a, ha, -, hsegments, hname, hcomponents⟩ := hdeclares.modules_found n hn
    rw [h.components a ha, hsegments, hname] at hcomponents
    have heq := List.append_cancel_left (List.map_injective_iff.mpr hnormal hcomponents)
    exact ((String.append_left_inj ".rs").mp (List.cons.inj heq).1).symm

/-- Some index declares each name of an artifact. -/
theorem exists_declaring (h : IsPlaced artifacts) (htree : IsModuleTree artifacts)
    (ha : a ∈ artifacts) (hkind : a.isModuleIndex = false) {n : String}
    (hn : n ∈ a.segments ++ [a.module_]) :
    ∃ x ∈ artifacts, x.isModuleIndex = true ∧ ∃ children modules,
      Declares artifacts x children modules ∧ n ∈ children ++ modules := by
  rcases List.mem_append.mp hn with hn | hn
  · -- The package above a segment declares it.
    obtain ⟨above, below, habove⟩ := List.append_of_mem hn
    obtain ⟨x, hx, hxkind, hsegments⟩ := htree.exists_index (p := above)
      (.inr ⟨a, ha, hkind, by rw [habove]; exact List.prefix_append _ _⟩)
    obtain ⟨children, modules, hdeclares⟩ := h.declared x hx hxkind
    refine ⟨x, hx, hxkind, children, modules, hdeclares, List.mem_append_left _ ?_⟩
    refine (hdeclares.mem_children n).mpr ⟨a, ha, hkind, below, ?_⟩
    rw [hsegments, habove, List.append_assoc]
    rfl
  · obtain ⟨x, hx, hxkind, hsegments⟩ := htree.exists_index (p := a.segments)
      (.inr ⟨a, ha, hkind, List.prefix_refl _⟩)
    obtain ⟨children, modules, hdeclares⟩ := h.declared x hx hxkind
    refine ⟨x, hx, hxkind, children, modules, hdeclares, List.mem_append_right _ ?_⟩
    exact (hdeclares.mem_modules n).mpr ⟨a, ha, hkind, hsegments.symm,
      (List.mem_singleton.mp hn).symm⟩

theorem hasPlainNames (h : IsPlaced artifacts) (htree : IsModuleTree artifacts) :
    HasPlainNames artifacts := by
  intro a ha hkind n hn
  obtain ⟨x, hx, hxkind, children, modules, hdeclares, hmem⟩ :=
    h.exists_declaring htree ha hkind hn
  exact ⟨htree.identifier_of_declares hx hxkind hdeclares n hmem,
    h.file_of_declares hdeclares n hmem⟩

end IsPlaced

/-- A run's artifacts are written below any root, where its indexes have them
looked for, exactly when its packages and modules are called by their own
identifiers. -/
theorem placed_iff_plain {m : Schema.Model} {config : Config}
    (h : (generate m config).outcome = .ok artifacts) :
    IsPlaced artifacts ↔ HasPlainNames artifacts := by
  obtain ⟨made, indexes, hmade, hindexes, rfl⟩ := Scope.generate_indexes h
  obtain ⟨packages, hlists, hunshadowed, hindexOf⟩ := moduleIndexes_ok hindexes
  have htree : IsModuleTree (made ++ indexes) :=
    Indexed.isModuleTree ⟨hmade, hlists, hunshadowed, hindexOf⟩
  exact ⟨fun hplaced => hplaced.hasPlainNames htree, htree.isPlaced⟩

theorem town_is_placed :
    ∃ artifacts, (generate town {}).outcome = .ok artifacts ∧ IsPlaced artifacts := by
  obtain ⟨artifacts, h, hnames⟩ := town_generates
  have hplain : ∀ n ∈ townNames, Code.IsPlain n := by decide +kernel
  exact ⟨artifacts, h, (placed_iff_plain h).mpr fun a ha hkind n hn =>
    hplain n (hnames a ha hkind n hn)⟩

/-- An enumeration in a package. -/
def coloured (package : String) : Schema.Model :=
  Schema.Model.empty.add (.ofEnum { ident := .of (some package) "Color", literals := ["Red"] })

/-- The package holds the identifier `s` after a comment, and the path of the
enumeration starts at the root of the disk. -/
theorem coloured_leaves_root :
    ∃ artifacts, (generate (coloured "//tmp/x\ns") {}).outcome = .ok artifacts ∧
      (∃ a ∈ artifacts, a.relativePath.isAbsolute = true) ∧ ¬ IsPlaced artifacts := by
  have hrun : (generate (coloured "//tmp/x\ns") {}).outcome.toOption.map
      (fun as => as.any (·.relativePath.isAbsolute)) = some true := by
    decide +kernel
  obtain ⟨artifacts, h, hany⟩ := exists_ok_of_map hrun
  obtain ⟨a, ha, habsolute⟩ := List.any_eq_true.mp hany
  refine ⟨artifacts, h, ⟨a, ha, habsolute⟩, fun hplaced => ?_⟩
  rw [(hplaced.relative a ha).1] at habsolute
  exact nomatch habsolute

end Generate
end TypedGraph
