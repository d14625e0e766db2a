/-
Asking for a value.

An entry keeps a value as it stands, while a query is cut at commas and trimmed.
The query that is written from a value asks for that value exactly when there is
nothing in it to cut or to trim, and then a person is found by the address that it
entered the index with.
-/
import Mathlib.Data.List.Basic
import TypedGraph.Proofs.EmailIndex

namespace TypedGraph

namespace Text

theorem length_trim_le (cs : List Char) : (trim cs).length ≤ cs.length := by
  have hstart : (trimStart cs).length ≤ cs.length := (List.dropWhile_sublist isBlank).length_le
  have hend := (List.dropWhile_sublist (l := (trimStart cs).reverse) isBlank).length_le
  rw [trim, trimEnd, List.length_reverse]
  rw [List.length_reverse] at hend
  exact Nat.le_trans hend hstart

end Text

namespace Nodes
namespace Query

variable {key value : List Char}

/-- One pair, written without commas, is one condition. -/
theorem parse_pair (hkey : '=' ∉ key) (hpair : ',' ∉ key ++ '=' :: value) :
    parse (String.ofList (key ++ '=' :: value)) =
      [⟨String.ofList (Text.trim key), String.ofList (Text.trim value)⟩] := by
  rw [parse, String.toList_ofList, List.splitOn_eq_singleton hpair,
    List.filterMap_cons_some (Condition.ofPiece?_append hkey value), List.filterMap_nil]

/-- A comma ends a pair. -/
theorem parse_pair_append (hkey : '=' ∉ key) (hpair : ',' ∉ key ++ '=' :: value)
    (rest : List Char) : parse (String.ofList (key ++ '=' :: value ++ ',' :: rest)) =
      ⟨String.ofList (Text.trim key), String.ofList (Text.trim value)⟩ ::
        parse (String.ofList rest) := by
  rw [parse, String.toList_ofList, List.splitOn_append_cons_self_of_not_mem hpair,
    List.filterMap_cons_some (Condition.ofPiece?_append hkey value), parse, String.toList_ofList]

end Query
end Nodes

namespace Sample

open Nodes (Condition Node Query)

variable {g : Nodes.Graph} {past : List Call}

/-- The query that is written from an address. -/
def emailQuery (address : String) : String := "email=" ++ address

/-- A value that has nothing to cut at or to trim. -/
def IsPlainValue (value : String) : Prop :=
  ',' ∉ value.toList ∧ Text.trim value.toList = value.toList

instance (value : String) : Decidable (IsPlainValue value) :=
  inferInstanceAs (Decidable (_ ∧ _))

/-- The address that a node is in the index with. -/
def recordedEmail? (g : Nodes.Graph) (id : Int) : Option String :=
  (g.store.entryAt? emailIndex id).bind (·.lookup (Attribute.key .email))

/-! ## What the query of an address asks for -/

theorem emailQuery_eq (address : String) :
    emailQuery address = String.ofList ("email".toList ++ '=' :: address.toList) := by
  rw [← String.toList_inj, String.toList_ofList, emailQuery, String.toList_append]
  rfl

theorem not_mem_pair {value : List Char} (h : ',' ∉ value) :
    ',' ∉ "email".toList ++ '=' :: value := by
  rw [List.mem_append, List.mem_cons, not_or, not_or]
  exact ⟨by decide, by decide, h⟩

theorem holds_emailEntry_iff {value text : String} :
    Condition.holds ⟨String.ofList (Text.trim "email".toList), value⟩ (emailEntry text) = true ↔
      value = text := by
  have hkey : String.ofList (Text.trim "email".toList) = Attribute.key .email := by decide
  rw [Condition.holds_iff, emailEntry, List.mem_singleton, Prod.mk.injEq, hkey]
  exact and_iff_right rfl

/-- Without a comma, an address is asked for as it is after trimming. -/
theorem holds_emailQuery {address text : String} (h : ',' ∉ address.toList) :
    (Query.parse (emailQuery address)).holds (emailEntry text) = true ↔
      String.ofList (Text.trim address.toList) = text := by
  rw [emailQuery_eq, Query.parse_pair (by decide) (not_mem_pair h), Query.holds, List.all_cons,
    List.all_nil, Bool.and_true, holds_emailEntry_iff]

theorem holds_emailQuery_of_plain {address text : String} (h : IsPlainValue address) :
    (Query.parse (emailQuery address)).holds (emailEntry text) = true ↔ text = address := by
  rw [holds_emailQuery h.1, h.2, String.ofList_toList, eq_comm]

/-- What stands before a comma is shorter than the address, also after trimming. -/
theorem not_holds_emailQuery {address : String} (h : ',' ∈ address.toList) :
    (Query.parse (emailQuery address)).holds (emailEntry address) ≠ true := by
  obtain ⟨first, rest, haddress, hfirst⟩ := List.eq_append_cons_of_mem h
  have hquery : emailQuery address =
      String.ofList ("email".toList ++ '=' :: first ++ ',' :: rest) := by
    rw [emailQuery_eq, haddress, List.append_assoc, List.cons_append]
  rw [hquery, Query.parse_pair_append (by decide) (not_mem_pair hfirst), Query.holds,
    List.all_cons, Ne, Bool.and_eq_true, holds_emailEntry_iff]
  rintro ⟨heq, -⟩
  have hlength := congrArg (fun s => s.toList.length) heq
  have htrim := Text.length_trim_le first
  simp only [String.toList_ofList, haddress, List.length_append, List.length_cons] at hlength
  omega

/-- An address is found by its own query when it is plain, and not otherwise. -/
theorem holds_emailQuery_self {address : String} :
    (Query.parse (emailQuery address)).holds (emailEntry address) = true ↔
      IsPlainValue address := by
  by_cases hcomma : ',' ∈ address.toList
  · exact iff_of_false (not_holds_emailQuery hcomma) fun h => h.1 hcomma
  · rw [holds_emailQuery hcomma, IsPlainValue, and_iff_right hcomma, ← String.toList_inj,
      String.toList_ofList]

/-! ## A person under its own address -/

section
variable {plugins : List Nodes.Plugin} {p : Node} {address : String}

theorem Run.recordedEmail?_eq (run : Run (newGraph plugins) past g) (id : Int) :
    recordedEmail? g id = enteredEmail? id past := by
  rw [recordedEmail?, run.entryAt?_eq]
  cases enteredEmail? id past with
  | none => rfl
  | some text => rfl

/-- The handles of an answer are told by their ids. -/
theorem mem_handles {world time id : Int} {ids : List Int} :
    ⟨world, time, id, .ofClass "sample.Person"⟩ ∈
      ids.map (fun id => (⟨world, time, id, .ofClass "sample.Person"⟩ : Node)) ↔ id ∈ ids :=
  List.mem_map_of_injective fun _ _ heq => congrArg Node.id heq

/-- The graph after a person was given an address and entered the index. -/
def enterUnder (g : Nodes.Graph) (p : Node) (address : String) : Nodes.Graph :=
  indexByEmail (g.setParameter p (Attribute.key .email) (.text address)) p

theorem typeOf?_enterUnder (id : Int) :
    (enterUnder g p address).store.typeOf? id = g.store.typeOf? id := by
  rw [enterUnder, Nodes.Store.typeOf?, record?_indexByEmail, ← Nodes.Store.typeOf?]
  exact Nodes.Store.typeOf?_setAttribute ..

theorem Run.enterUnder (run : Run (newGraph plugins) past g) (hp : g.store.contains p.id)
    (address : String) :
    Run (newGraph plugins) (.indexByEmail p :: .set p .email address :: past)
      (enterUnder g p address) := by
  have hset : (Call.set p .email address).perform g =
      g.setParameter p (Attribute.key .email) (.text address) :=
    Call.perform_set (a := .email) (by decide) address
  have hwritten := run.call (.set p .email address) (List.forall_mem_singleton.mpr hp)
  rw [hset] at hwritten
  refine hwritten.call (.indexByEmail p) (List.forall_mem_singleton.mpr ?_)
  rw [Nodes.Store.contains_eq] at hp ⊢
  rw [← hp]
  exact congrArg Option.isSome (Nodes.Store.typeOf?_setAttribute ..)

theorem enteredEmail?_enterUnder (p : Node) (address : String) (past : List Call) :
    enteredEmail? p.id (.indexByEmail p :: .set p .email address :: past) = some address := by
  have hwrites : (Call.set p .email address).writes? p.id .email = some (.text address) :=
    if_pos ⟨rfl, rfl⟩
  rw [enteredEmail?, if_pos rfl, written?, List.findSome?_cons, hwrites]
  rfl

/-- A person that is given an address and enters the index is found by that address
exactly when the address has no comma and no blanks at its ends.  Then the answer
has the persons that are in the index with this very address, and no others. -/
theorem found_by_value_iff_plain (run : Run (newGraph plugins) past g)
    (hp : g.store.typeOf? p.id = some "sample.Person") (address : String) (world time : Int) :
    ∃ written, set g p .email address = .ok written ∧ ∃ found,
      (∀ {α : Type} (callback : List Node → α),
        findByEmailThen (indexByEmail written p) world time ("email=" ++ address) callback =
          callback found) ∧
      (⟨world, time, p.id, .ofClass "sample.Person"⟩ ∈ found ↔ IsPlainValue address) ∧
      (IsPlainValue address → Answers world time (fun id =>
        g.store.typeOf? id = some "sample.Person" ∧
          recordedEmail? (indexByEmail written p) id = some address) found) := by
  have hset : set g p .email address =
      .ok (g.setParameter p (Attribute.key .email) (.text address)) :=
    set_eq_ok (a := .email) (by decide) address
  refine ⟨_, hset, ?_⟩
  rw [← Sample.enterUnder]
  have hcontains : g.store.contains p.id := by
    rw [Nodes.Store.contains_eq, hp]
    rfl
  have hrun := run.enterUnder hcontains address
  obtain ⟨ids, hsorted, hmem, hfound⟩ := answers_entered (hrun.regular (regular_newGraph plugins))
    world time (Query.parse (emailQuery address)).holds
  simp only [hrun.entered_iff, typeOf?_enterUnder] at hmem
  refine ⟨_, fun callback => findByEmailThen_eq _ world time (emailQuery address) callback, ?_,
    fun hplain => ⟨ids, hsorted, fun id => ?_, hfound⟩⟩
  · have hself : p.id ∈ ids ↔ IsPlainValue address := by
      rw [hmem, enteredEmail?_enterUnder, ← holds_emailQuery_self]
      constructor
      · rintro ⟨-, text, htext, hholds⟩
        obtain rfl := Option.some.inj htext
        exact hholds
      · intro hholds
        exact ⟨hp, address, rfl, hholds⟩
    rw [hfound]
    exact mem_handles.trans hself
  · rw [hmem]
    refine and_congr_right fun _ => ?_
    rw [hrun.recordedEmail?_eq]
    constructor
    · rintro ⟨text, htext, hholds⟩
      rw [htext, (holds_emailQuery_of_plain hplain).mp hholds]
    · intro htext
      exact ⟨address, htext, (holds_emailQuery_of_plain hplain).mpr rfl⟩

/-- An equals sign in an address does no harm, and another person stays out. -/
theorem person_found_by_value_with_equals :
    let person : Node := ⟨0, 0, 1, .ofClass "sample.Person"⟩
    let other : Node := ⟨0, 0, 2, .ofClass "sample.Person"⟩
    let past : List Call := [.indexByEmail other, .set other .email "b", .create .person 0 0,
      .create .person 0 0]
    ∃ g written, Run (newGraph []) past g ∧ set g person .email "a=b" = .ok written ∧
      ∃ ids : List Int, 1 ∈ ids ∧ 2 ∉ ids ∧
        findByEmail (indexByEmail written person) 5 9 "email=a=b" =
          ids.map fun id => ⟨5, 9, id, .ofClass "sample.Person"⟩ := by
  intro person other past
  have run : Run (newGraph []) past (past.foldr (fun c g => c.perform g) (newGraph [])) := by
    refine .call _ (.call _ (.call _ (.call _ .start ?_) ?_) ?_) ?_
    all_goals decide +kernel
  obtain ⟨written, hset, found, hcall, hself, hanswers⟩ :=
    found_by_value_iff_plain run (p := person) (by decide +kernel) "a=b" 5 9
  have hplain : IsPlainValue "a=b" := by decide
  obtain ⟨ids, -, hmem, rfl⟩ := hanswers hplain
  refine ⟨_, written, run, hset, ids, mem_handles.mp (hself.mpr hplain), fun htwo => ?_, hcall id⟩
  · have hother : (set (past.foldr (fun c g => c.perform g) (newGraph [])) person .email
        "a=b").toOption.bind (fun g => recordedEmail? (indexByEmail g person) 2) = some "b" := by
      decide +kernel
    rw [hset] at hother
    have hsame : some "b" = some "a=b" := hother.symm.trans ((hmem 2).mp htwo).2
    exact absurd hsame (by decide)

/-- The query of an address with a comma finds another person and not the one that has
the address. -/
theorem value_with_comma_finds_another :
    let person : Node := ⟨0, 0, 1, .ofClass "sample.Person"⟩
    let other : Node := ⟨0, 0, 2, .ofClass "sample.Person"⟩
    let past : List Call := [.indexByEmail other, .set other .email "a", .create .person 0 0,
      .create .person 0 0]
    ∃ g written, Run (newGraph []) past g ∧ g.store.typeOf? person.id = some "sample.Person" ∧
      set g person .email "a,b" = .ok written ∧
      recordedEmail? (indexByEmail written person) person.id = some "a,b" ∧
      recordedEmail? (indexByEmail written person) other.id = some "a" ∧
      findByEmail (indexByEmail written person) 0 0 "email=a,b" = [other] := by
  intro person other past
  have run : Run (newGraph []) past (past.foldr (fun c g => c.perform g) (newGraph [])) := by
    refine .call _ (.call _ (.call _ (.call _ .start ?_) ?_) ?_) ?_
    all_goals decide +kernel
  have hset : set (past.foldr (fun c g => c.perform g) (newGraph [])) person .email "a,b" =
      .ok (Nodes.Graph.setParameter (past.foldr (fun c g => c.perform g) (newGraph [])) person
        "email" (.text "a,b")) := set_eq_ok (a := .email) (by decide) "a,b"
  refine ⟨_, _, run, ?_, hset, ?_, ?_, ?_⟩
  all_goals decide +kernel

end

end Sample
end TypedGraph
