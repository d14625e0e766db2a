/-
The order in which definitions are added to a builder.

A builder keeps classifiers and indexes apart, so how the two are interleaved
never matters.  Within each kind the order decides only between definitions that
end up under one name: if the names are distinct, an index meets the same classes
in whatever order they came, and the registry holds what was added, whatever came
first.  The name that counts is the one a definition is registered under.
-/
import Mathlib.Data.List.Nodup
import Mathlib.Data.List.Perm.Basic
import TypedGraph.Proofs.IndexOwners
import TypedGraph.Proofs.Registry

namespace TypedGraph
namespace Schema

/-! ## Writes of distinct names -/

namespace Model

variable {m m' : Model} {ws ws' : List Classifier} {c : Classifier} {fqn : String}

theorem lastWrite_eq_some (h : (ws.map Classifier.fqn).Nodup) :
    lastWrite fqn ws = some c ↔ c ∈ ws ∧ c.fqn = fqn := by
  induction ws using List.reverseRecOn with
  | nil => simp [lastWrite]
  | append_singleton ws d ih =>
    rw [List.map_append, List.nodup_append] at h
    obtain ⟨hws, -, hd⟩ := h
    rw [lastWrite_concat, List.mem_append, List.mem_singleton]
    by_cases hname : d.fqn = fqn
    · rw [if_pos hname, Option.some.injEq]
      constructor
      · rintro rfl
        exact ⟨.inr rfl, hname⟩
      · rintro ⟨hc | rfl, hc'⟩
        · have hne := hd _ (List.mem_map_of_mem hc) d.fqn (by simp)
          exact absurd (hc'.trans hname.symm) hne
        · rfl
    · rw [if_neg hname, ih hws]
      refine and_congr_left fun hc => (or_iff_left ?_).symm
      rintro rfl
      exact hname hc

theorem lastWrite_perm (hperm : ws.Perm ws') (h : (ws.map Classifier.fqn).Nodup) (fqn : String) :
    lastWrite fqn ws = lastWrite fqn ws' := by
  have h' : (ws'.map Classifier.fqn).Nodup := (hperm.map _).nodup_iff.mp h
  refine Option.ext fun c => ?_
  rw [lastWrite_eq_some h, lastWrite_eq_some h', hperm.mem_iff]

theorem current_eq_self (h : (ws.map Classifier.fqn).Nodup) : current ws = ws := by
  induction ws with
  | nil => rfl
  | cons c rest ih =>
    rw [List.map_cons, List.nodup_cons] at h
    have hlast : rest.any (·.fqn == c.fqn) = false := by
      rw [List.any_eq_false]
      intro d hd hname
      exact h.1 (List.mem_map.mpr ⟨d, hd, beq_iff_eq.mp hname⟩)
    simp only [current, hlast, Bool.false_eq_true, if_false, ih h.2]

namespace Holds

theorem foldl_add (h : Holds m ws) (cs : List Classifier) :
    Holds (cs.foldl Model.add m) (ws ++ cs) := by
  induction cs generalizing m ws with
  | nil =>
    rw [List.append_nil]
    exact h
  | cons c rest ih =>
    have hrest := ih (h.add c)
    rw [List.append_assoc] at hrest
    exact hrest

/-- Registries of the same writes agree, in whatever order those came, if the
names are distinct. -/
theorem get?_eq_of_perm (h : Holds m ws) (h' : Holds m' ws') (hperm : ws.Perm ws')
    (hnodup : (ws.map Classifier.fqn).Nodup) (fqn : String) : m.get? fqn = m'.get? fqn := by
  rw [h.get?, h'.get?, lastWrite_perm hperm hnodup]

theorem indexesOf_perm (h : Holds m ws) (h' : Holds m' ws') (hperm : ws.Perm ws')
    (hnodup : (ws.map Classifier.fqn).Nodup) (className property : String) :
    (m.indexesOf className property).Perm (m'.indexesOf className property) := by
  have hnodup' : (ws'.map Classifier.fqn).Nodup := (hperm.map _).nodup_iff.mp hnodup
  rw [h.indexesOf_eq, h'.indexesOf_eq, current_eq_self hnodup, current_eq_self hnodup']
  exact (hperm.filterMap _).filter _

end Holds

end Model

/-! ## Additions by kind -/

namespace Addition

def isIndex : Addition → Bool
  | .ofIndex .. => true
  | _ => false

def classifier? : Addition → Option Classifier
  | .ofClass c => some (.ofClass c)
  | .ofEnum e => some (.ofEnum e)
  | .ofIndex .. => none

def request? : Addition → Option IndexRequest
  | .ofIndex fqn className properties => some ⟨fqn, className, properties⟩
  | _ => none

end Addition

/-- The name that an index is registered under, if its text can be read. -/
def IndexRequest.name? (r : IndexRequest) : Option String :=
  (QualifiedName.parse r.fqn).toOption.map QualifiedName.fqn

/-- The name that a definition is registered under. -/
def Addition.name? (a : Addition) : Option String :=
  (a.classifier?.map Classifier.fqn).or (a.request?.bind IndexRequest.name?)

namespace ModelBuilder

variable {xs ys : List Addition}

theorem foldl_extend (xs : List Addition) (b : ModelBuilder) :
    xs.foldl extend b =
      { definitions := b.definitions ++ xs.filterMap Addition.classifier?
        indexes := b.indexes ++ xs.filterMap Addition.request? } := by
  induction xs generalizing b with
  | nil => simp
  | cons a rest ih =>
    rw [List.foldl_cons, ih]
    cases a with
    | ofClass c => simp [extend, addClass, List.filterMap_cons, Addition.classifier?, Addition.request?]
    | ofEnum e => simp [extend, addEnum, List.filterMap_cons, Addition.classifier?, Addition.request?]
    | ofIndex fqn className properties =>
      simp [extend, addIndex, List.filterMap_cons, Addition.classifier?, Addition.request?]

theorem definitions_ofAdditions (xs : List Addition) :
    (ofAdditions xs).definitions = xs.filterMap Addition.classifier? := by
  simp [ofAdditions, foldl_extend]

theorem indexes_ofAdditions (xs : List Addition) :
    (ofAdditions xs).indexes = xs.filterMap Addition.request? := by
  simp [ofAdditions, foldl_extend]

theorem names_perm (xs : List Addition) : (xs.filterMap Addition.name?).Perm
    ((xs.filterMap Addition.classifier?).map Classifier.fqn ++
      (xs.filterMap Addition.request?).filterMap IndexRequest.name?) := by
  induction xs with
  | nil => exact .refl _
  | cons a rest ih =>
    cases a with
    | ofClass c => exact ih.cons _
    | ofEnum e => exact ih.cons _
    | ofIndex fqn className properties =>
      have hclassifier : Addition.classifier? (.ofIndex fqn className properties) = none := rfl
      have hrequest : Addition.request? (.ofIndex fqn className properties) =
          some ⟨fqn, className, properties⟩ := rfl
      have hname : Addition.name? (.ofIndex fqn className properties) =
          IndexRequest.name? ⟨fqn, className, properties⟩ := rfl
      rw [List.filterMap_cons, List.filterMap_cons_none hclassifier,
        List.filterMap_cons_some hrequest, List.filterMap_cons, hname]
      cases IndexRequest.name? ⟨fqn, className, properties⟩ with
      | none => exact ih
      | some name => exact (ih.cons name).trans List.perm_middle.symm

/-- A build reads the classifiers and the indexes off a sequence separately. -/
theorem ofAdditions_eq_of_filter_eq
    (hclassifiers : xs.filter (!·.isIndex) = ys.filter (!·.isIndex))
    (hindexes : xs.filter (·.isIndex) = ys.filter (·.isIndex)) : ofAdditions xs = ofAdditions ys := by
  have hdefinitions : ∀ zs : List Addition, zs.filterMap Addition.classifier? =
      (zs.filter (!·.isIndex)).filterMap Addition.classifier? := by
    intro zs
    rw [List.filterMap_filter]
    refine congrFun (congrArg List.filterMap (funext fun a => ?_)) _
    cases a <;> rfl
  have hrequests : ∀ zs : List Addition, zs.filterMap Addition.request? =
      (zs.filter (·.isIndex)).filterMap Addition.request? := by
    intro zs
    rw [List.filterMap_filter]
    refine congrFun (congrArg List.filterMap (funext fun a => ?_)) _
    cases a <;> rfl
  rw [ofAdditions, ofAdditions, foldl_extend, foldl_extend, hdefinitions xs, hdefinitions ys,
    hrequests xs, hrequests ys, hclassifiers, hindexes]

end ModelBuilder

/-! ## Indexes -/

namespace IndexRequest

def registration (r : IndexRequest) : Registration := .index r.fqn r.className r.properties

end IndexRequest

namespace Index

variable {owner : Class} {i i' : Index} {names : List String}

theorem ident_addMembers (h : names.foldlM (addMember owner) i = .ok i') : i'.ident = i.ident := by
  induction names generalizing i with
  | nil => rw [← Except.ok.inj h]
  | cons name rest ih =>
    rw [List.foldlM_cons] at h
    obtain ⟨next, hnext, h⟩ := bind_eq_ok.mp h
    obtain ⟨p, -, rfl⟩ := addMember_ok hnext
    have hrest := ih h
    exact hrest

theorem ident_ofClass {ident : QualifiedName} (h : Index.ofClass ident owner names = .ok i) :
    i.ident = ident :=
  ident_addMembers h

end Index

namespace Model

variable {m m' : Model} {r : IndexRequest} {c : Classifier}

/-- Registering an index is writing it, if there is one to write. -/
theorem addIndex_eq_ok : m.addIndex r.fqn r.className r.properties = .ok m' ↔
    ∃ c, m.written? r.registration = some c ∧ m' = m.add c := by
  simp only [IndexRequest.registration, written?, addIndex]
  cases QualifiedName.parse r.fqn with
  | error e => simp [bind, Except.bind]
  | ok ident =>
    cases m.class? r.className with
    | none => simp [bind, Except.bind]
    | some owner =>
      simp only [bind, Except.bind]
      cases Index.ofClass ident owner r.properties with
      | error e => simp [Except.toOption]
      | ok i => simp [Except.toOption, pure, Except.pure, eq_comm]

theorem written?_congr (h : ∀ fqn, m.class? fqn = m'.class? fqn) (r : IndexRequest) :
    m.written? r.registration = m'.written? r.registration := by
  simp only [IndexRequest.registration, written?, h]

theorem written?_eq_some (h : m.written? r.registration = some c) :
    ∃ i, c = .ofIndex i ∧ r.name? = some i.fqn := by
  simp only [IndexRequest.registration, written?] at h
  cases hident : QualifiedName.parse r.fqn with
  | error e =>
    rw [hident] at h
    cases h
  | ok ident =>
    cases howner : m.class? r.className with
    | none =>
      rw [hident, howner] at h
      cases h
    | some owner =>
      rw [hident, howner] at h
      obtain ⟨i, hi, rfl⟩ := Option.map_eq_some_iff.mp h
      refine ⟨i, rfl, ?_⟩
      cases hindex : Index.ofClass ident owner r.properties with
      | error e =>
        rw [hindex] at hi
        cases hi
      | ok j =>
        rw [hindex] at hi
        rw [IndexRequest.name?, hident, ← Option.some.inj hi, Index.fqn,
          Index.ident_ofClass hindex]
        rfl

theorem class?_add_ofIndex {i : Index} (hfree : m.class? i.fqn = none) (fqn : String) :
    (m.add (.ofIndex i)).class? fqn = m.class? fqn := by
  rw [class?, get?_add]
  by_cases hname : Classifier.fqn (.ofIndex i) = fqn
  · rw [if_pos hname]
    subst hname
    exact hfree.symm
  · rw [if_neg hname]
    rfl

/-- Indexes with names of their own are made of the classes there were before
all of them. -/
theorem foldlM_addIndex_eq_ok {declared : Model} {requests : List IndexRequest}
    (hfree : ∀ r ∈ requests, ∀ name, r.name? = some name → declared.class? name = none)
    (hclass : ∀ fqn, m.class? fqn = declared.class? fqn) :
    requests.foldlM (fun m r => m.addIndex r.fqn r.className r.properties) m = .ok m' ↔
      (∀ r ∈ requests, (declared.written? r.registration).isSome) ∧
        m' = (requests.filterMap fun r => declared.written? r.registration).foldl add m := by
  induction requests generalizing m with
  | nil =>
    rw [List.foldlM_nil]
    constructor
    · intro h
      exact ⟨fun r hr => absurd hr List.not_mem_nil, (Except.ok.inj h).symm⟩
    · rintro ⟨-, rfl⟩
      rfl
  | cons r rest ih =>
    have hrest := fun r hr => hfree r (List.mem_cons_of_mem _ hr)
    have hwritten := written?_congr hclass r
    rw [List.foldlM_cons, bind_eq_ok, List.forall_mem_cons, List.filterMap_cons]
    simp only [addIndex_eq_ok, hwritten]
    cases hr : declared.written? r.registration with
    | none => simp
    | some c =>
      obtain ⟨i, rfl, hname⟩ := written?_eq_some hr
      have hnone : m.class? i.fqn = none := by
        rw [hclass]
        exact hfree r List.mem_cons_self i.fqn hname
      have hnext : ∀ fqn, (m.add (.ofIndex i)).class? fqn = declared.class? fqn := fun fqn =>
        (class?_add_ofIndex hnone fqn).trans (hclass fqn)
      simp only [Option.some.injEq, exists_eq_left', exists_eq_left, Option.isSome_some, true_and,
        List.foldl_cons]
      exact ih hrest hnext

end Model

/-! ## Builds -/

namespace ModelBuilder

variable {xs ys : List Addition} {m : Model}

/-- What a build writes: the definitions, and the indexes over them. -/
def written (b : ModelBuilder) : List Classifier :=
  b.definitions ++ b.indexes.filterMap fun r => b.declared.written? r.registration

/-- An index can be made of every request. -/
def Resolves (b : ModelBuilder) : Prop :=
  ∀ r ∈ b.indexes, (b.declared.written? r.registration).isSome

theorem holds_declared (b : ModelBuilder) : Model.Holds b.declared b.definitions :=
  Model.holds_empty.foldl_add b.definitions

section
variable (hnodup : (xs.filterMap Addition.name?).Nodup)
include hnodup

theorem nodup_names : ((ofAdditions xs).definitions.map Classifier.fqn ++
    (ofAdditions xs).indexes.filterMap IndexRequest.name?).Nodup := by
  rw [definitions_ofAdditions, indexes_ofAdditions]
  exact (names_perm xs).nodup_iff.mp hnodup

theorem class?_name_of_request {r : IndexRequest} (hr : r ∈ (ofAdditions xs).indexes)
    {name : String} (hname : r.name? = some name) :
    (ofAdditions xs).declared.class? name = none := by
  obtain ⟨hdefinitions, -, hdisjoint⟩ := List.nodup_append.mp (nodup_names hnodup)
  rw [Option.eq_none_iff_forall_ne_some]
  intro c hc
  rw [Model.class?_eq_some, (holds_declared _).get?, Model.lastWrite_eq_some hdefinitions] at hc
  have hmem := List.mem_map_of_mem (f := Classifier.fqn) hc.1
  exact hdisjoint _ hmem name (List.mem_filterMap.mpr ⟨r, hr, hname⟩) hc.2

theorem build_eq_ok : (ofAdditions xs).build = .ok m ↔
    (ofAdditions xs).Resolves ∧
      m = ((ofAdditions xs).indexes.filterMap fun r =>
        (ofAdditions xs).declared.written? r.registration).foldl Model.add
          (ofAdditions xs).declared :=
  Model.foldlM_addIndex_eq_ok (fun _ hr _ hname => class?_name_of_request hnodup hr hname)
    fun _ => rfl

theorem holds_build (h : (ofAdditions xs).build = .ok m) :
    Model.Holds m (ofAdditions xs).written := by
  obtain ⟨-, rfl⟩ := (build_eq_ok hnodup).mp h
  exact (holds_declared _).foldl_add _

theorem nodup_written : ((ofAdditions xs).written.map Classifier.fqn).Nodup := by
  have hsublist : ∀ requests : List IndexRequest,
      ((requests.filterMap fun r => (ofAdditions xs).declared.written? r.registration).map
        Classifier.fqn).Sublist (requests.filterMap IndexRequest.name?) := by
    intro requests
    induction requests with
    | nil => exact .slnil
    | cons r rest ih =>
      rw [List.filterMap_cons, List.filterMap_cons]
      cases hwritten : (ofAdditions xs).declared.written? r.registration with
      | none =>
        cases r.name? with
        | none => exact ih
        | some name => exact ih.cons name
      | some c =>
        obtain ⟨i, rfl, hname⟩ := Model.written?_eq_some hwritten
        rw [hname]
        exact ih.cons_cons _
  rw [written, List.map_append]
  exact (nodup_names hnodup).sublist ((List.Sublist.refl _).append (hsublist _))

end

section
variable (hperm : xs.Perm ys) (hnodup : (xs.filterMap Addition.name?).Nodup)
include hperm hnodup

theorem written?_declared_perm (r : IndexRequest) :
    (ofAdditions xs).declared.written? r.registration =
      (ofAdditions ys).declared.written? r.registration := by
  have hdefinitions : (ofAdditions xs).definitions.Perm (ofAdditions ys).definitions := by
    rw [definitions_ofAdditions, definitions_ofAdditions]
    exact hperm.filterMap _
  have hnames := (List.nodup_append.mp (nodup_names hnodup)).1
  refine Model.written?_congr (fun fqn => ?_) r
  rw [Model.class?, Model.class?,
    (holds_declared _).get?_eq_of_perm (holds_declared _) hdefinitions hnames]

theorem written_perm : (ofAdditions xs).written.Perm (ofAdditions ys).written := by
  rw [written, written, definitions_ofAdditions, definitions_ofAdditions, indexes_ofAdditions,
    indexes_ofAdditions]
  simp only [written?_declared_perm hperm hnodup]
  exact (hperm.filterMap _).append ((hperm.filterMap _).filterMap _)

theorem resolves_perm : (ofAdditions xs).Resolves ↔ (ofAdditions ys).Resolves := by
  have hindexes : (ofAdditions xs).indexes.Perm (ofAdditions ys).indexes := by
    rw [indexes_ofAdditions, indexes_ofAdditions]
    exact hperm.filterMap _
  simp only [Resolves, written?_declared_perm hperm hnodup, hindexes.mem_iff]

end

theorem exists_build_iff_resolves (hnodup : (xs.filterMap Addition.name?).Nodup) :
    (∃ m, (ofAdditions xs).build = .ok m) ↔ (ofAdditions xs).Resolves := by
  simp only [build_eq_ok hnodup, exists_and_left, exists_eq, and_true]

end ModelBuilder

open ModelBuilder (ofAdditions)

/-- A build gives the same result however classifiers and indexes are interleaved.
If no two definitions are registered under one name, any other order fails as
well, or gives a model with the same classifiers and, up to their order, the same
indexes on each property. -/
theorem build_order_matters_within_a_name :
    (∀ xs ys : List Addition,
      xs.filter (!·.isIndex) = ys.filter (!·.isIndex) →
      xs.filter (·.isIndex) = ys.filter (·.isIndex) →
        (ofAdditions xs).build = (ofAdditions ys).build) ∧
    (∀ xs ys : List Addition, xs.Perm ys → (xs.filterMap Addition.name?).Nodup →
      (∃ e e', (ofAdditions xs).build = .error e ∧ (ofAdditions ys).build = .error e') ∨
      ∃ m m', (ofAdditions xs).build = .ok m ∧ (ofAdditions ys).build = .ok m' ∧
        (∀ fqn, m.get? fqn = m'.get? fqn) ∧
        ∀ className property,
          (m.indexesOf className property).Perm (m'.indexesOf className property)) := by
  refine ⟨fun xs ys hclassifiers hindexes => ?_, fun xs ys hperm hnodup => ?_⟩
  · rw [ModelBuilder.ofAdditions_eq_of_filter_eq hclassifiers hindexes]
  · have hnodup' : (ys.filterMap Addition.name?).Nodup :=
      (hperm.filterMap _).nodup_iff.mp hnodup
    have hresolves := ModelBuilder.resolves_perm hperm hnodup
    rw [← ModelBuilder.exists_build_iff_resolves hnodup,
      ← ModelBuilder.exists_build_iff_resolves hnodup'] at hresolves
    cases hx : (ofAdditions xs).build with
    | error e =>
      have hnone : ¬∃ m, (ofAdditions ys).build = .ok m := by
        rw [← hresolves, hx]
        rintro ⟨m, h⟩
        exact nomatch h
      cases hy : (ofAdditions ys).build with
      | error e' => exact .inl ⟨e, e', rfl, rfl⟩
      | ok m' => exact absurd ⟨m', hy⟩ hnone
    | ok m =>
      obtain ⟨m', hy⟩ := hresolves.mp ⟨m, hx⟩
      have hm := ModelBuilder.holds_build hnodup hx
      have hm' := ModelBuilder.holds_build hnodup' hy
      have hwritten := ModelBuilder.written_perm hperm hnodup
      have hnames := ModelBuilder.nodup_written hnodup
      refine .inr ⟨m, m', rfl, hy, ?_, ?_⟩
      · exact hm.get?_eq_of_perm hm' hwritten hnames
      · exact hm.indexesOf_perm hm' hwritten hnames

/-- Two indexes before and after their class. -/
theorem contact_indexes_in_any_order :
    let byEmail : Addition := .ofIndex "s.byEmail" "s.Person" ["email"]
    let byPost : Addition := .ofIndex "s.byPost" "s.Person" ["email"]
    (ofAdditions [byEmail, contact, byPost]).build = (ofAdditions [contact, byEmail, byPost]).build ∧
    ∃ m m', (ofAdditions [contact, byEmail, byPost]).build = .ok m ∧
      (ofAdditions [byPost, byEmail, contact]).build = .ok m' ∧
      m.get? "s.byEmail" = m'.get? "s.byEmail" ∧
      (m.indexesOf "s.Person" "email").Perm (m'.indexesOf "s.Person" "email") := by
  intro byEmail byPost
  obtain ⟨hinterleaved, hpermuted⟩ := build_order_matters_within_a_name
  refine ⟨hinterleaved _ _ rfl rfl, ?_⟩
  have hperm := (List.reverse_perm [contact, byEmail, byPost]).symm
  have hnodup : ([contact, byEmail, byPost].filterMap Addition.name?).Nodup := by decide
  rcases hpermuted _ _ hperm hnodup with ⟨e, -, he, -⟩ | ⟨m, m', hm, hm', hget, hindexes⟩
  · have hok : (ofAdditions [contact, byEmail, byPost]).build.isOk = true := by decide
    rw [he] at hok
    exact nomatch hok
  · exact ⟨m, m', hm, hm', hget _, hindexes _ _⟩

/-- The text that a definition is named by when it is added. -/
def Addition.text : Addition → String
  | .ofClass c => c.ident.fqn
  | .ofEnum e => e.ident.fqn
  | .ofIndex fqn _ _ => fqn

/-- Two texts that differ only by a dot in front name one index, and the later
one counts. -/
theorem later_of_two_spellings_counts :
    let owner : Addition := .ofClass ((({ ident := .of none "A" } : Class).addProperty
      { name := "p", type := "String", kind := .attribute }).addProperty
        { name := "q", type := "String", kind := .attribute })
    let dotted : Addition := .ofIndex ".x" "A" ["p"]
    let plain : Addition := .ofIndex "x" "A" ["q"]
    [owner, dotted, plain].Perm [owner, plain, dotted] ∧
      ([owner, dotted, plain].map Addition.text).Nodup ∧
      ∃ m m', (ofAdditions [owner, dotted, plain]).build = .ok m ∧
        (ofAdditions [owner, plain, dotted]).build = .ok m' ∧ m.get? "x" ≠ m'.get? "x" := by
  intro owner dotted plain
  refine ⟨(List.Perm.swap plain dotted []).cons owner, by decide, ?_⟩
  have hfirst : (ofAdditions [owner, dotted, plain]).build.toOption.map (·.membersOf "x") =
      some ["q"] := by decide
  have hsecond : (ofAdditions [owner, plain, dotted]).build.toOption.map (·.membersOf "x") =
      some ["p"] := by decide
  obtain ⟨m, hm, hq⟩ := exists_ok_of_map hfirst
  obtain ⟨m', hm', hp⟩ := exists_ok_of_map hsecond
  refine ⟨m, m', hm, hm', fun hget => ?_⟩
  have hmembers : m.membersOf "x" = m'.membersOf "x" := by
    simp only [Model.membersOf, Model.index?, hget]
  rw [hq, hp] at hmembers
  exact absurd hmembers (by decide)

end Schema
end TypedGraph
