/-
What a scan reads, and in which order.

A scan goes over a tree, one directory after the other, and comes to the same as
going over one list of files (`readsInOrder_scanEntries`).  The list has the files
that names in the tree lead to, unless their paths are too long (`mem_sourcesOf`),
and it is in the order of the components of their paths (`ascending_sourcesOf`).
-/
import Mathlib.Data.List.Forall2
import TypedGraph.Proofs.DirectoryTrees
import TypedGraph.Schema.Source

namespace TypedGraph
namespace Schema

open Files (Component Disk Entry FilePath IsEntryName)

/-- The files of a scan, with what they hold. -/
abbrev SourceFiles := List (FilePath × ByteArray)

/-- Sources that a format was handed. -/
abbrev Sources := List (FilePath × String)

/-- The sources are the texts of the files. -/
def Decoded (files : SourceFiles) (sources : Sources) : Prop :=
  List.Forall₂ (fun f s => f.1 = s.1 ∧ String.fromUTF8? f.2 = some s.2) files sources

theorem Decoded.append {files more : SourceFiles} {sources others : Sources}
    (h : Decoded files sources) (hmore : Decoded more others) :
    Decoded (files ++ more) (sources ++ others) := List.rel_append h hmore

/-- The files are in the order of the components of their paths, and no path stands
twice. -/
def InPathOrder (files : SourceFiles) : Prop := files.Pairwise fun f g => f.1.order g.1 = .lt

def parsings (sources : Sources) : List Event := sources.map fun s => .parsing s.1.text

namespace SourceFormat

variable {σ : Type} (format : SourceFormat σ)

/-- A format parses sources one after the other, and none fails. -/
inductive Parses : Sources → σ → σ → Prop
  | nil (state : σ) : Parses [] state state
  | cons {path : FilePath} {source : String} {rest : Sources} {state next final : σ}
    (head : format.parse path source state = (next, none)) (tail : Parses rest next final) :
    Parses ((path, source) :: rest) state final

/-- A scan reads all files of a list, or all up to the first that is no text, or
all up to the first that is refused, which is handed to the format as well. -/
inductive ReadsInOrder (files : SourceFiles) (state : σ) : Scanned σ → Prop
  | all {sources : Sources} {final : σ} (decoded : Decoded files sources)
    (parses : format.Parses sources state final) :
    ReadsInOrder files state (final, ⟨parsings sources, .ok files.length⟩)
  | unreadable {before after : SourceFiles} {path : FilePath} {content : ByteArray}
    {sources : Sources} {final : σ} (split : files = before ++ (path, content) :: after)
    (decoded : Decoded before sources) (parses : format.Parses sources state final)
    (binary : String.fromUTF8? content = none) :
    ReadsInOrder files state (final, ⟨parsings sources, .error (.unreadable path .notText)⟩)
  | refused {before after : SourceFiles} {path : FilePath} {content : ByteArray}
    {sources : Sources} {source : String} {mid final : σ} {e : SourceError}
    (split : files = before ++ (path, content) :: after) (decoded : Decoded before sources)
    (parses : format.Parses sources state mid) (text : String.fromUTF8? content = some source)
    (refuses : format.parse path source mid = (final, some e)) :
    ReadsInOrder files state (final, ⟨parsings (sources ++ [(path, source)]), .error e⟩)

variable {format}

theorem Parses.append {sources more : Sources} {state mid final : σ}
    (h : format.Parses sources state mid) (hmore : format.Parses more mid final) :
    format.Parses (sources ++ more) state final := by
  induction h with
  | nil state => exact hmore
  | cons head _ ih => exact .cons head (ih hmore)

theorem parsings_append (sources more : Sources) :
    parsings (sources ++ more) = parsings sources ++ parsings more := List.map_append

/-- A scan of files that follow goes on from those that were read. -/
theorem ReadsInOrder.after {files more : SourceFiles} {sources : Sources} {state mid final : σ}
    {events : List Event} {outcome : Except SourceError Nat} (decoded : Decoded files sources)
    (parses : format.Parses sources state mid)
    (h : format.ReadsInOrder more mid (final, ⟨events, outcome⟩)) :
    format.ReadsInOrder (files ++ more) state
      (final, ⟨parsings sources ++ events, outcome.map (files.length + ·)⟩) := by
  have hsplit : ∀ {before rest : SourceFiles} {f}, more = before ++ f :: rest →
      files ++ more = (files ++ before) ++ f :: rest := by
    intro before rest f hmore
    rw [hmore, List.append_assoc]
  cases h with
  | all decoded' parses' =>
    have hall := ReadsInOrder.all (decoded.append decoded') (parses.append parses')
    rw [List.length_append, parsings_append] at hall
    exact hall
  | unreadable split decoded' parses' binary =>
    have hstop := ReadsInOrder.unreadable (hsplit split) (decoded.append decoded')
      (parses.append parses') binary
    rw [parsings_append] at hstop
    exact hstop
  | refused split decoded' parses' text refuses =>
    have hstop := ReadsInOrder.refused (hsplit split) (decoded.append decoded')
      (parses.append parses') text refuses
    rw [List.append_assoc, parsings_append] at hstop
    exact hstop

theorem ReadsInOrder.andThen {files more : SourceFiles} {state : σ} {first : Scanned σ}
    {next : σ → Scanned σ} (h : format.ReadsInOrder files state first)
    (hnext : ∀ mid, format.ReadsInOrder more mid (next mid)) :
    format.ReadsInOrder (files ++ more) state (Scanned.andThen first next) := by
  cases h with
  | all decoded parses => exact .after decoded parses (hnext _)
  | unreadable split decoded parses binary =>
    rw [split, List.append_assoc, List.cons_append]
    exact .unreadable rfl decoded parses binary
  | refused split decoded parses text refuses =>
    rw [split, List.append_assoc, List.cons_append]
    exact .refused rfl decoded parses text refuses

theorem readsInOrder_nil (state : σ) : format.ReadsInOrder [] state (state, pure 0) :=
  .all .nil (.nil state)

theorem readsInOrder_scanFile (path : FilePath) (content : ByteArray) (state : σ) :
    format.ReadsInOrder [(path, content)] state (format.scanFile path content state) := by
  have hsplit : [(path, content)] = [] ++ (path, content) :: [] := rfl
  unfold scanFile
  split
  · rename_i hbinary
    exact .unreadable hsplit .nil (.nil state) hbinary
  · rename_i source htext
    split
    · rename_i next hparse
      exact .all (.cons ⟨rfl, htext⟩ .nil) (.cons hparse (.nil next))
    · rename_i next e hparse
      exact .refused hsplit .nil (.nil state) htext hparse

/-! ## The files of a scan -/

section

variable (format)

mutual

/-- The files that a scan comes to below a path, in its order. -/
def sourcesOf (deep : Bool) (path : FilePath) (name : String) : Entry → SourceFiles
  | .file content =>
    if format.accepts name && (Disk.checkPath path).isOk then [(path, content)] else []
  | .directory entries =>
    if deep && (Disk.checkPath path).isOk then sourcesIn deep path entries else []

def sourcesIn (deep : Bool) (above : FilePath) : List (String × Entry) → SourceFiles
  | [] => []
  | (name, e) :: rest => sourcesOf deep (above.push name) name e ++ sourcesIn deep above rest

end

end

mutual

theorem readsInOrder_scanEntry (deep : Bool) (path : FilePath) (name : String) :
    (e : Entry) → (state : σ) → format.ReadsInOrder (format.sourcesOf deep path name e) state
      (format.scanEntry deep path name e state)
  | .file content, state => by
    rw [sourcesOf, scanEntry]
    split
    · exact readsInOrder_scanFile path content state
    · exact readsInOrder_nil state
  | .directory entries, state => by
    rw [sourcesOf, scanEntry]
    split
    · exact readsInOrder_scanEntries deep path entries state
    · exact readsInOrder_nil state

/-- A scan of directories is one of the files in them. -/
theorem readsInOrder_scanEntries (deep : Bool) (above : FilePath) :
    (entries : List (String × Entry)) → (state : σ) →
      format.ReadsInOrder (format.sourcesIn deep above entries) state
        (format.scanEntries deep above entries state)
  | [], state => readsInOrder_nil state
  | (name, e) :: rest, state => by
    rw [sourcesIn, scanEntries]
    exact (readsInOrder_scanEntry deep (above.push name) name e state).andThen
      fun mid => readsInOrder_scanEntries deep above rest mid

end

theorem sourcesIn_eq (deep : Bool) (above : FilePath) (entries : List (String × Entry)) :
    format.sourcesIn deep above entries =
      entries.flatMap fun x => format.sourcesOf deep (above.push x.1) x.1 x.2 := by
  induction entries with
  | nil => rfl
  | cons x rest ih => rw [sourcesIn, ih, List.flatMap_cons]

variable (format)

/-- Names that lead from a directory to a file of the format, right in the directory
unless the scan is a deep one. -/
structure IsSource (deep : Bool) (top : Entry) (names : List String) (content : ByteArray) :
    Prop where
  file : top.get? names = some (.file content)
  accepted : ∃ name ∈ names.getLast?, format.accepts name = true
  depth : deep = true ∨ names.length = 1

/-- Names that lead on to a file from an entry, which has a name itself. -/
structure LeadsTo (deep : Bool) (name : String) (e : Entry) (names : List String)
    (content : ByteArray) : Prop where
  file : e.get? names = some (.file content)
  accepted : ∃ last ∈ (name :: names).getLast?, format.accepts last = true
  depth : deep = true ∨ names = []

variable {format} {deep : Bool} {name n : String} {names : List String} {content : ByteArray}
  {entries : List (String × Entry)} {e : Entry} {path : FilePath} {f : FilePath × ByteArray}

theorem not_isSource_nil : ¬ format.IsSource deep e [] content := fun h => by
  obtain ⟨name, hname, -⟩ := h.accepted
  exact nomatch hname

theorem isSource_cons : format.IsSource deep (.directory entries) (n :: names) content ↔
    ∃ below, entries.lookup n = some below ∧ format.LeadsTo deep n below names content := by
  have hdepth : (n :: names).length = 1 ↔ names = [] := by
    rw [List.length_cons, Nat.add_eq_right, List.length_eq_zero_iff]
  constructor
  · rintro ⟨hfile, haccepted, hdeep⟩
    obtain ⟨_, below, heq, hbelow, hfile⟩ := Entry.get?_cons_eq_some.mp hfile
    rw [← Entry.directory.inj heq] at hbelow
    exact ⟨below, hbelow, hfile, haccepted, hdeep.imp_right hdepth.mp⟩
  · rintro ⟨below, hbelow, hfile, haccepted, hdeep⟩
    exact ⟨Entry.get?_cons_eq_some.mpr ⟨entries, below, rfl, hbelow, hfile⟩, haccepted,
      hdeep.imp_right hdepth.mpr⟩

theorem leadsTo_file {held : ByteArray} :
    format.LeadsTo deep name (.file held) names content ↔
      names = [] ∧ held = content ∧ format.accepts name = true := by
  constructor
  · rintro ⟨hfile, ⟨last, hlast, haccepted⟩, -⟩
    cases names with
    | nil =>
      obtain rfl : name = last := Option.some.inj hlast
      exact ⟨rfl, Entry.file.inj (Option.some.inj hfile), haccepted⟩
    | cons n names => exact nomatch hfile
  · rintro ⟨rfl, rfl, haccepted⟩
    exact ⟨rfl, ⟨name, rfl, haccepted⟩, .inr rfl⟩

theorem leadsTo_directory : format.LeadsTo deep name (.directory entries) names content ↔
    deep = true ∧ format.IsSource deep (.directory entries) names content := by
  cases names with
  | nil =>
    constructor
    · intro h
      exact nomatch Option.some.inj h.file
    · intro h
      exact absurd h.2 not_isSource_nil
  | cons n names =>
    constructor
    · rintro ⟨hfile, haccepted, hdeep⟩
      have htrue : deep = true := hdeep.resolve_right (List.cons_ne_nil n names)
      rw [List.getLast?_cons_cons] at haccepted
      exact ⟨htrue, hfile, haccepted, .inl htrue⟩
    · rintro ⟨htrue, hfile, haccepted, -⟩
      rw [← List.getLast?_cons_cons (a := name)] at haccepted
      exact ⟨hfile, haccepted, .inl htrue⟩

theorem mem_sourcesIn_sorted (hbelow : ∀ n below, entries.lookup n = some below →
      (f ∈ format.sourcesOf deep (path.push n) n below.sorted ↔ Disk.checkPath f.1 = .ok () ∧
        ∃ names, format.LeadsTo deep n below names f.2 ∧
          f.1 = names.foldl FilePath.push (path.push n))) :
    f ∈ format.sourcesIn deep path (Entry.sortedAll entries) ↔ Disk.checkPath f.1 = .ok () ∧
      ∃ names, format.IsSource deep (.directory entries) names f.2 ∧
        f.1 = names.foldl FilePath.push path := by
  rw [sourcesIn_eq, List.mem_flatMap]
  constructor
  · rintro ⟨⟨n, sorted⟩, hx, hf⟩
    obtain ⟨below, hlookup, rfl⟩ := Entry.mem_sortedAll.mp hx
    obtain ⟨hpath, names, hleads, heq⟩ := (hbelow n below hlookup).mp hf
    exact ⟨hpath, n :: names, isSource_cons.mpr ⟨below, hlookup, hleads⟩, heq⟩
  · rintro ⟨hpath, names, hsource, heq⟩
    cases names with
    | nil => exact absurd hsource not_isSource_nil
    | cons n names =>
      obtain ⟨below, hlookup, hleads⟩ := isSource_cons.mp hsource
      refine ⟨(n, below.sorted), Entry.mem_sortedAll.mpr ⟨below, hlookup, rfl⟩, ?_⟩
      exact (hbelow n below hlookup).mpr ⟨hpath, names, hleads, heq⟩

/-- A scan comes to the files that names lead to and whose paths are not too long. -/
theorem mem_sourcesOf (he : e.IsNamed) (hp : path.text ≠ "") :
    f ∈ format.sourcesOf deep path name e.sorted ↔ Disk.checkPath f.1 = .ok () ∧
      ∃ names, format.LeadsTo deep name e names f.2 ∧ f.1 = names.foldl FilePath.push path := by
  induction e using Entry.induct generalizing path name with
  | file held =>
    rw [Entry.sorted, sourcesOf, List.mem_ite_nil_right, Bool.and_eq_true, List.mem_singleton]
    constructor
    · rintro ⟨⟨haccepted, hpath⟩, rfl⟩
      exact ⟨Disk.isOk_checkPath.mp hpath, [], leadsTo_file.mpr ⟨rfl, rfl, haccepted⟩, rfl⟩
    · rintro ⟨hpath, names, hleads, heq⟩
      obtain ⟨rfl, hheld, haccepted⟩ := leadsTo_file.mp hleads
      rw [heq] at hpath
      exact ⟨⟨haccepted, Disk.isOk_checkPath.mpr hpath⟩, Prod.ext heq hheld.symm⟩
  | directory entries ih =>
    rw [Entry.sorted, sourcesOf, List.mem_ite_nil_right, Bool.and_eq_true,
      mem_sourcesIn_sorted fun n below hlookup => by
        obtain ⟨hn, hbelow⟩ := he.of_lookup hlookup
        exact ih _ (Entry.mem_of_lookup hlookup) hbelow (FilePath.text_push_ne hn.toIsFileName)]
    constructor
    · rintro ⟨⟨hdeep, -⟩, hpath, names, hsource, heq⟩
      exact ⟨hpath, names, leadsTo_directory.mpr ⟨hdeep, hsource⟩, heq⟩
    · rintro ⟨hpath, names, hleads, heq⟩
      obtain ⟨hdeep, hsource⟩ := leadsTo_directory.mp hleads
      have hnames : ∀ n ∈ names, FilePath.IsFileName n := fun n hn =>
        (he.of_get? hsource.file n hn).toIsFileName
      have habove : Disk.checkPath path = .ok () :=
        Disk.checkPath_of_foldl_push hnames hp (heq ▸ hpath)
      exact ⟨⟨hdeep, Disk.isOk_checkPath.mpr habove⟩, hpath, names, hsource, heq⟩

/-- The files of an entry are below its path. -/
theorem components_of_mem_sourcesOf (hn : IsEntryName n) (he : e.IsNamed)
    (h : f ∈ format.sourcesOf deep (path.push n) name e.sorted) :
    ∃ back, f.1.components = path.components ++ .normal n :: back := by
  obtain ⟨-, names, hleads, heq⟩ :=
    (mem_sourcesOf he (FilePath.text_push_ne hn.toIsFileName)).mp h
  have hnames : ∀ m ∈ names, FilePath.IsFileName m := fun m hm =>
    (he.of_get? hleads.file m hm).toIsFileName
  refine ⟨names.map .normal, ?_⟩
  rw [heq, FilePath.components_foldl_push hnames, FilePath.components_push_name hn.toIsFileName,
    List.append_assoc]
  rfl

/-- The files are in the order of their paths: those of two entries in the order of
the entries' names. -/
theorem ascending_sourcesIn (h : (Entry.directory entries).IsNamed)
    (hbelow : ∀ n below, entries.lookup n = some below →
      InPathOrder (format.sourcesOf deep (path.push n) n below.sorted)) :
    InPathOrder (format.sourcesIn deep path (Entry.sortedAll entries)) := by
  rw [InPathOrder, sourcesIn_eq, List.pairwise_flatMap]
  constructor
  · rintro ⟨n, sorted⟩ hx
    obtain ⟨below, hlookup, rfl⟩ := Entry.mem_sortedAll.mp hx
    exact hbelow n below hlookup
  · refine (Entry.ascending_sortedAll entries).imp_of_mem ?_
    rintro ⟨n, sorted⟩ ⟨m, sorted'⟩ hx hy hlt f hf g hg
    obtain ⟨below, hlookup, rfl⟩ := Entry.mem_sortedAll.mp hx
    obtain ⟨below', hlookup', rfl⟩ := Entry.mem_sortedAll.mp hy
    obtain ⟨hn, hbelow⟩ := h.of_lookup hlookup
    obtain ⟨hm, hbelow'⟩ := h.of_lookup hlookup'
    obtain ⟨back, hf⟩ := components_of_mem_sourcesOf hn hbelow hf
    obtain ⟨next, hg⟩ := components_of_mem_sourcesOf hm hbelow' hg
    exact FilePath.order_of_names hf hg hlt

theorem ascending_sourcesOf (he : e.IsNamed) :
    InPathOrder (format.sourcesOf deep path name e.sorted) := by
  induction e using Entry.induct generalizing path name with
  | file content =>
    rw [Entry.sorted, sourcesOf]
    split
    · exact List.pairwise_singleton _ _
    · exact List.Pairwise.nil
  | directory entries ih =>
    rw [Entry.sorted, sourcesOf]
    split
    · exact ascending_sourcesIn he fun n below hlookup =>
        ih _ (Entry.mem_of_lookup hlookup) (he.of_lookup hlookup).2
    · exact List.Pairwise.nil

/-! ## Scans of a directory -/

/-- A scan of a directory hands over the files that its format accepts, at any depth
or right in the directory, in the order of their paths and up to the first failure.
A file whose path is too long is no file to it. -/
theorem scan_reads_in_path_order (format : SourceFormat σ) (disk : Disk) (deep : Bool)
    (dir : FilePath) (entries : List (String × Entry))
    (hdir : disk.entry dir = .ok (.directory entries))
    (hnamed : (Entry.directory entries).IsNamed) :
    ∃ files : SourceFiles,
      (∀ path content, (path, content) ∈ files ↔ disk.isFile path = true ∧
        ∃ names, format.IsSource deep (.directory entries) names content ∧
          path = names.foldl FilePath.push dir) ∧
      InPathOrder files ∧
      ∀ state, format.ReadsInOrder files state (format.scan disk deep dir state) := by
  have hp : dir.text ≠ "" := (Disk.checkPath_eq_ok.mp (Disk.checkPath_of_entry hdir)).2.1
  refine ⟨format.sourcesIn deep dir (Entry.sortedAll entries), fun path content => ?_, ?_, ?_⟩
  · rw [mem_sourcesIn_sorted fun n below hlookup => by
      obtain ⟨hn, hbelow⟩ := hnamed.of_lookup hlookup
      exact mem_sourcesOf hbelow (FilePath.text_push_ne hn.toIsFileName)]
    constructor
    · rintro ⟨hpath, names, hsource, rfl⟩
      refine ⟨?_, names, hsource, rfl⟩
      rw [Disk.isFile_foldl_push hdir hnamed hsource.file]
      exact Disk.isOk_checkPath.mpr hpath
    · rintro ⟨hfile, names, hsource, rfl⟩
      refine ⟨?_, names, hsource, rfl⟩
      rw [Disk.isFile_foldl_push hdir hnamed hsource.file] at hfile
      exact Disk.isOk_checkPath.mp hfile
  · exact ascending_sourcesIn hnamed fun n below hlookup =>
      ascending_sourcesOf (hnamed.of_lookup hlookup).2
  · intro state
    rw [scan, hdir]
    exact readsInOrder_scanEntries deep dir _ state

/-- A directory `a` beside a source whose name goes on from its own. -/
def nested : List (String × Entry) :=
  [("a.mm.json", .file "t".toUTF8), ("a", .directory [("b.mm.json", .file "u".toUTF8)])]

theorem isNamed_nested : (Entry.directory nested).IsNamed := by
  have hsource : IsEntryName "a.mm.json" := by decide
  have hinner : IsEntryName "b.mm.json" := by decide
  have hdirectory : IsEntryName "a" := by decide
  have hbelow : (Entry.directory [("b.mm.json", .file "u".toUTF8)]).IsNamed :=
    .directory (List.forall_mem_singleton.mpr hinner) (List.forall_mem_singleton.mpr (.file _))
  exact .directory (List.forall_mem_cons.mpr ⟨hsource, List.forall_mem_singleton.mpr hdirectory⟩)
    (List.forall_mem_cons.mpr ⟨.file _, List.forall_mem_singleton.mpr hbelow⟩)

/-- What is in the directory is read before what stands beside it. -/
theorem nested_read_in_path_order :
    ∃ files : SourceFiles, (⟨"./a/b.mm.json"⟩, "u".toUTF8) ∈ files ∧
      (⟨"./a.mm.json"⟩, "t".toUTF8) ∈ files ∧ InPathOrder files ∧
      Document.format.ReadsInOrder files {}
        (Document.format.scan { root := .directory nested } true ⟨"."⟩ {}) := by
  obtain ⟨files, hfiles, hordered, hreads⟩ := scan_reads_in_path_order Document.format
    { root := .directory nested } true ⟨"."⟩ nested (by rfl) isNamed_nested
  refine ⟨files, (hfiles _ _).mpr ⟨by decide +kernel, ["a", "b.mm.json"], ?_, by decide⟩,
    (hfiles _ _).mpr ⟨by decide +kernel, ["a.mm.json"], ?_, by decide⟩, hordered, hreads {}⟩
  · exact ⟨rfl, ⟨"b.mm.json", rfl, by decide +kernel⟩, .inl rfl⟩
  · exact ⟨rfl, ⟨"a.mm.json", rfl, by decide +kernel⟩, .inl rfl⟩

/-! ## Paths that are too long -/

def slashes : Nat → String
  | 0 => ""
  | n + 1 => "/" ++ slashes n

/-- The working directory, with slashes after it. -/
def slashed (n : Nat) : FilePath := ⟨"." ++ slashes n⟩

theorem toList_slashed (n : Nat) : (slashed n).text.toList = '.' :: List.replicate n '/' := by
  have hslashes : (slashes n).toList = List.replicate n '/' := by
    induction n with
    | zero => rfl
    | succ n ih =>
      rw [slashes, String.toList_append, ih]
      rfl
  rw [slashed, String.toList_append, hslashes]
  rfl

theorem utf8ByteSize_slashed (n : Nat) : (slashed n).text.utf8ByteSize = n + 1 := by
  have hslashes : (slashes n).utf8ByteSize = n := by
    induction n with
    | zero => rfl
    | succ n ih =>
      rw [slashes, String.utf8ByteSize_append, ih]
      exact Nat.add_comm 1 n
  rw [slashed, String.utf8ByteSize_append, hslashes]
  exact Nat.add_comm 1 n

theorem named_slashes (n : Nat) : FilePath.named (List.replicate n '/') = [] := by
  induction n with
  | zero => rfl
  | succ n ih =>
    rw [List.replicate_succ, ← List.nil_append ('/' :: _), FilePath.named_concat, ih]
    rfl

theorem components_slashed (n : Nat) : (slashed n).components = [.current] := by
  rw [FilePath.components_eq, toList_slashed]
  cases n with
  | zero => rfl
  | succ n =>
    rw [List.replicate_succ, ← List.singleton_append, FilePath.origin_concat,
      FilePath.named_concat, named_slashes]
    rfl

theorem checkPath_slashed {n : Nat} (hn : n < Disk.longestPath) :
    Disk.checkPath (slashed n) = .ok () := by
  refine Disk.checkPath_eq_ok.mpr ⟨?_, ?_, ?_⟩
  · rw [toList_slashed, List.mem_cons, List.mem_replicate]
    rintro (h | ⟨-, h⟩)
    · exact absurd h (by decide)
    · exact absurd h (by decide)
  · intro hempty
    have hlist := toList_slashed n
    rw [hempty] at hlist
    exact nomatch hlist
  · rw [utf8ByteSize_slashed]
    exact hn

theorem entry_slashed {n : Nat} (hn : n < Disk.longestPath) (entries : List (String × Entry)) :
    ({ root := .directory entries } : Disk).entry (slashed n) = .ok (.directory entries) := by
  rw [Disk.entry, Disk.place, checkPath_slashed hn, components_slashed, Disk.start, ite_self]
  rfl

/-- The source in the working directory is passed over without an error when so many
slashes stand before its name. -/
theorem scan_slashed (state : ModelBuilder) :
    Document.format.scan { root := .directory [("a.mm.json", .file "t".toUTF8)] } false
      (slashed 4089) state = (state, pure 0) := by
  have hname : IsEntryName "a.mm.json" := by decide
  have hlong : (Disk.checkPath ((slashed 4089).push "a.mm.json")).isOk = false := by
    refine Bool.eq_false_iff.mpr fun hpath => ?_
    obtain ⟨slash, htext⟩ := hname.text_push (p := slashed 4089)
    have hshort := (Disk.checkPath_eq_ok.mp (Disk.isOk_checkPath.mp hpath)).2.2
    have hsize : "a.mm.json".utf8ByteSize = 9 := rfl
    rw [htext, String.utf8ByteSize_append, String.utf8ByteSize_append, utf8ByteSize_slashed, hsize,
      Disk.longestPath] at hshort
    omega
  have hsorted : Entry.sortedAll [("a.mm.json", .file "t".toUTF8)] =
      [("a.mm.json", .file "t".toUTF8)] := rfl
  rw [scan, entry_slashed (by decide)]
  simp only [hsorted, scanEntries, scanEntry, hlong, Bool.and_false, Bool.false_eq_true, if_false]
  rfl

theorem ReadsInOrder.length_of_ok {files : SourceFiles} {state : σ} {scanned : Scanned σ} {n : Nat}
    (h : format.ReadsInOrder files state scanned) (hn : scanned.2.outcome = .ok n) :
    files.length = n := by
  cases h with
  | all decoded parses => exact Except.ok.inj hn
  | unreadable split decoded parses binary => exact nomatch hn
  | refused split decoded parses text refuses => exact nomatch hn

/-- Not every source in a directory is handed over. -/
theorem long_path_passed_over :
    ∃ (disk : Disk) (dir : FilePath) (entries : List (String × Entry)),
      disk.entry dir = .ok (.directory entries) ∧ (Entry.directory entries).IsNamed ∧
        ¬ ∃ files : SourceFiles,
          (∀ path content, (path, content) ∈ files ↔
            ∃ names, Document.format.IsSource false (.directory entries) names content ∧
              path = names.foldl FilePath.push dir) ∧
          InPathOrder files ∧
          ∀ state, Document.format.ReadsInOrder files state
            (Document.format.scan disk false dir state) := by
  have hname : IsEntryName "a.mm.json" := by decide
  refine ⟨{ root := .directory [("a.mm.json", .file "t".toUTF8)] }, slashed 4089, _,
    entry_slashed (by decide) _, .directory (List.forall_mem_singleton.mpr hname)
      (List.forall_mem_singleton.mpr (.file _)), ?_⟩
  rintro ⟨files, hfiles, -, hreads⟩
  have hmem := (hfiles _ "t".toUTF8).mpr
    ⟨["a.mm.json"], ⟨rfl, ⟨"a.mm.json", rfl, by decide +kernel⟩, .inr rfl⟩, rfl⟩
  have hreads := hreads {}
  rw [scan_slashed] at hreads
  rw [List.eq_nil_of_length_eq_zero (hreads.length_of_ok rfl)] at hmem
  exact absurd hmem List.not_mem_nil

end SourceFormat
end Schema
end TypedGraph
