/-
Calls in generated code.

A call is known by the last name of what it calls, and `callsOf` lists what is
handed over at each call of a name.  What accessors and the facade call beside that is
listed by kind of member, and a collector that passes those names takes nothing there.
In an accessor only the methods that enter an index call the mutators of an index, and
in the task api only the actions that do the same.
-/
import TypedGraph.Proofs.Collecting
import TypedGraph.Proofs.Opposites
import TypedGraph.Proofs.TaskNames

namespace TypedGraph
namespace Code

/-- The arguments of each call of a function or method of a name. -/
def callsTo (name : String) : Collector (List Expr) where
  call n args := if n = some name then [args] else []

abbrev Member.callsOf (name : String) (f : Member) : List (List Expr) := f.collect (callsTo name)

abbrev Item.callsOf (name : String) (i : Item) : List (List Expr) := i.collect (callsTo name)

section
variable {name : String}

@[simp] theorem callsTo_item (t : Ty) (segments : List Segment) :
    (callsTo name).item t segments = [] := rfl

@[simp] theorem callsTo_call (n : Option String) (args : List Expr) :
    (callsTo name).call n args = if n = some name then [args] else [] := rfl

theorem passes_callsTo {n : String} (h : n ≠ name) : (callsTo name).Passes n :=
  fun _ => if_neg fun heq => h (Option.some.inj heq)

theorem passes_all {names : List String} (h : ∀ n ∈ names, n ≠ name) :
    ∀ n ∈ names, (callsTo name).Passes n :=
  fun n hn => passes_callsTo (h n hn)

end

/-! ## Members -/

namespace Member

/-- The member takes a node out of an index. -/
def leavesIndex (f : Member) : Bool := !(f.callsOf "remove_from_index").isEmpty

theorem leavesIndex_eq_false {f : Member} (h : f.callsOf "remove_from_index" = []) :
    f.leavesIndex = false := by
  rw [leavesIndex, h]
  rfl

/-- A method of that name resolves an index, takes the node out of it and puts it
in again, both times under the same key. -/
structure Reenters (f : Member) (name : String) (index : List Expr) (key : Expr) : Prop where
  named : f.IsMethod name
  resolves : ∃ world time action, f.callsOf "index" = [[world, time] ++ index ++ [action]]
  leaves : f.callsOf "remove_from_index" = [[.borrow (.name "entry"), key]]
  enters : f.callsOf "add_to_index" = [[.borrow (.name "entry"), key]]

theorem Reenters.leavesIndex {f : Member} {index : List Expr} {key : Expr}
    (h : f.Reenters name index key) : f.leavesIndex = true := by
  rw [Member.leavesIndex, h.leaves]
  rfl

end Member

namespace Item

/-- The function puts nodes into an index. -/
def entersIndex (f : Item) : Bool := !(f.callsOf "add_to_global_index").isEmpty

/-- A function of that name puts nodes into an index under a key. -/
structure Enters (f : Item) (name : String) (index key : Expr) : Prop where
  named : f.functionName? = some name
  enters : f.callsOf "add_to_global_index" = [[index, key]]

end Item

end Code

namespace Generate

open Schema (Index)
open Code (Collector Expr Stmt Member Item Path callsTo passes_all passes_callsTo)

variable {s : Scope} {name : String}

/-! ## Accessors -/

/-- The key of an index that a list of constants of the type itself is. -/
def ownKeys (keys : List String) : Expr := .borrow (.array (keys.map Expr.ofSelf))

/-- Methods of the accessor at hand or at another end that the methods of a
property call. -/
def PropertyPlan.called (e : PropertyPlan) : List String :=
  match e.access with
  | .plain a => (a.cover.map Cover.method).toList
  | .relation a => (a.opposite.map fun calls => [calls.add, calls.remove]).getD []
  | _ => []

/-! What else the methods of a property call, by how it is reached. -/

def plainCalls : List String := ["node", "get", "set"]

def learnedCalls : List String :=
  ["node", "graph", "new_sync_counter", "clone", "relation", "into_iter", "find_map", "extrapolate",
    "wrap", "wait_result", "Some", "new_typed_node", "set_parameter", "add_to_relation", "downcast",
    "learn", "count", "wait"]

def relationCalls : List String :=
  ["node", "relation", "callback", "into_iter", "filter_map", "collect", "add_to_relation",
    "remove_from_relation"]

def propertyCalls : List String := plainCalls ++ learnedCalls ++ relationCalls

section
variable {α : Type} {c : Collector α} {e : PropertyPlan} {f : Member}

theorem collect_constants (hf : f ∈ Accessor.constants e s) : f.collect c = [] := by
  unfold Accessor.constants at hf
  cases h : e.typeConstant with
  | none =>
    rw [h] at hf
    rw [List.mem_singleton.mp hf, collect_textConstant]
  | some t =>
    rw [h] at hf
    rcases List.mem_pair.mp hf with rfl | rfl
    · exact collect_textConstant _ _ _
    · rw [Member.collect_constant, collect_hostValue]

theorem collect_plainMethods {a : PlainAccess} (hpass : ∀ n ∈ plainCalls, c.Passes n)
    (ha : ∀ cover, a.cover = some cover → c.Passes cover.method)
    (hf : f ∈ Accessor.plainMethods s e a) : f.collect c = [] := by
  simp only [plainCalls, List.forall_mem_cons, Collector.Passes] at hpass
  rcases List.mem_pair.mp hf with rfl | rfl
  · simp [hpass]
  · cases hcover : a.cover with
    | none => simp [hpass]
    | some cover =>
      have hrefresh := ha cover hcover
      cases s.config.reindexOnWrite with
      | false => simp [hpass]
      | true => simp [hpass, hrefresh _]

theorem collect_learnedMethods {a : LearnedAccess} (hpass : ∀ n ∈ learnedCalls, c.Passes n)
    (hf : f ∈ Accessor.learnedMethods s e a) : f.collect c = [] := by
  simp only [learnedCalls, List.forall_mem_cons, Collector.Passes] at hpass
  rcases List.mem_pair.mp hf with rfl | rfl
  · simp [Accessor.gateStatements, moveClosure, hpass]
  · simp [Accessor.gateStatements, moveClosure, Stmt.collectAll_map_eq_nil, hpass]

theorem collect_relationMethods {r : RelationAccess} (hpass : ∀ n ∈ relationCalls, c.Passes n)
    (hr : ∀ calls, r.opposite = some calls → c.Passes calls.add ∧ c.Passes calls.remove)
    (hf : f ∈ Accessor.relationMethods s e r) : f.collect c = [] := by
  simp only [relationCalls, List.forall_mem_cons, Collector.Passes] at hpass
  simp only [Accessor.relationMethods, List.mem_append, List.mem_cons, List.not_mem_nil,
    or_false] at hf
  rcases hf with (rfl | rfl | rfl) | hf
  · simp [moveClosure, Scope.callbackFound, hpass]
  · cases hopposite : r.opposite with
    | none => simp [Accessor.changeEnd, hpass]
    | some calls => simp [Accessor.changeEnd, hpass, (hr calls hopposite).1 _]
  · cases hopposite : r.opposite with
    | none => simp [Accessor.changeEnd, hpass]
    | some calls => simp [Accessor.changeEnd, hpass, (hr calls hopposite).2 _]
  · cases hi : r.internal with
    | none =>
      rw [hi] at hf
      exact absurd hf List.not_mem_nil
    | some calls =>
      rw [hi] at hf
      rcases List.mem_pair.mp hf with rfl | rfl
      · simp [Accessor.changeEnd, hpass]
      · simp [Accessor.changeEnd, hpass]

theorem collect_accessMethods (hpass : ∀ n ∈ propertyCalls, c.Passes n)
    (hcalled : ∀ n ∈ e.called, c.Passes n) (hf : f ∈ Accessor.accessMethods s e) :
    f.collect c = [] := by
  simp only [propertyCalls, List.forall_mem_append] at hpass
  obtain ⟨⟨hplain, hlearned⟩, hrelation⟩ := hpass
  unfold Accessor.accessMethods at hf
  unfold PropertyPlan.called at hcalled
  match haccess : e.access with
  | .none =>
    rw [haccess] at hf
    exact absurd hf List.not_mem_nil
  | .plain a =>
    rw [haccess] at hf hcalled
    refine collect_plainMethods hplain (fun cover hcover => hcalled _ ?_) hf
    simp [hcover]
  | .learned a =>
    rw [haccess] at hf
    exact collect_learnedMethods hlearned hf
  | .relation r =>
    rw [haccess] at hf hcalled
    refine collect_relationMethods hrelation (fun calls hcalls =>
      ⟨hcalled _ ?_, hcalled _ ?_⟩) hf
    · simp [hcalls]
    · simp [hcalls]

end

theorem reenters_indexMethod (s : Scope) (m : IndexMethod) :
    (Accessor.indexMethod s m).Reenters m.group.method (m.facade.join [m.constant]).asArguments
      (ownKeys m.group.members) where
  named := ⟨_, _, _, _, rfl, rfl⟩
  resolves := by
    simp [Accessor.indexMethod, Accessor.gateStatements, moveClosure]
  leaves := by
    simp [Accessor.indexMethod, Accessor.gateStatements, moveClosure, ownKeys]
  enters := by
    simp [Accessor.indexMethod, Accessor.gateStatements, moveClosure, ownKeys]

/-- The names that the methods of indexes call. -/
def indexCalls : List String :=
  ["node", "graph", "new_sync_counter", "clone", "world", "time", "index", "remove_from_index",
    "add_to_index", "count", "wait"]

theorem collect_indexMethod {α : Type} {c : Collector α} (hpass : ∀ n ∈ indexCalls, c.Passes n)
    (m : IndexMethod) : (Accessor.indexMethod s m).collect c = [] := by
  simp only [indexCalls, List.forall_mem_cons, Collector.Passes] at hpass
  simp [Accessor.indexMethod, Accessor.gateStatements, moveClosure, hpass]

/-- A member of an accessor that is no method of an index: it belongs to a property,
or every accessor has it. -/
inductive Accessor.IsOwn (s : Scope) (a : Accessor) (f : Member) : Prop
  | constant {e : PropertyPlan} (he : e ∈ a.properties) (hf : f ∈ Accessor.constants e s)
  | access {e : PropertyPlan} (he : e ∈ a.properties) (hf : f ∈ Accessor.accessMethods s e)
  | fixed (hnamed : ∀ attributes visibility signature body,
      f = .function attributes visibility signature body → signature.name ∈ ["new", "node", "deref"])
    (hcollect : ∀ {α : Type} (c : Collector α), c.Passes "new" → c.Passes "node" → f.collect c = [])

/-- The methods of indexes stand together in an accessor. -/
theorem members_file (s : Scope) (a : Accessor) :
    ∃ front back, (a.file s).members = front ++ a.indexMethods.map (Accessor.indexMethod s) ++ back ∧
      ∀ f ∈ front ++ back, a.IsOwn s f := by
  simp only [Code.File.members, Accessor.file, List.flatMap_cons, List.flatMap_nil, List.nil_append,
    List.append_nil]
  refine ⟨_, _, rfl, fun f hf => ?_⟩
  have hfixed : ∀ (attributes : List Code.Attribute) (visibility : String)
      (signature : Code.Signature) (body : List Stmt),
      signature.name ∈ ["new", "node", "deref"] →
      (∀ {α : Type} (c : Collector α), c.Passes "new" → c.Passes "node" →
        Stmt.collectAll c body = []) →
      a.IsOwn s (.function attributes visibility signature (some body)) := by
    refine fun _ _ _ _ hname hcollect => .fixed (fun _ _ _ _ heq => ?_) hcollect
    rw [← (Member.function.inj heq).2.2.1]
    exact hname
  have hconstant : ∀ visibility text, a.IsOwn s (textConstant visibility nodeNameConstant text) :=
    fun _ _ => .fixed (fun _ _ _ _ heq => by cases heq) fun _ _ _ => collect_textConstant _ _ _
  simp only [List.mem_append, List.mem_cons, List.not_mem_nil, or_false, List.mem_flatMap] at hf
  rcases hf with (((rfl | ⟨e, he, hf⟩) | rfl | rfl) | ⟨e, he, hf⟩) | (rfl | rfl) | rfl | rfl
  · exact hconstant _ _
  · exact .constant he hf
  · refine hfixed _ _ _ _ (by simp) fun c hnew _ => ?_
    simp [hnew _]
  · refine hfixed _ _ _ _ (by simp) fun c _ hnode => ?_
    cases a.base <;> simp [hnode _]
  · exact .access he hf
  · exact .fixed (fun _ _ _ _ heq => by cases heq) fun _ _ _ => rfl
  · exact hfixed _ _ _ _ (by simp) fun _ _ _ => by simp
  · exact hconstant _ _
  · refine hfixed _ _ _ _ (by simp) fun c _ hnode => ?_
    cases a.base <;> simp [hnode _]

theorem isOwn_or_index {s : Scope} {a : Accessor} {f : Member} (hf : f ∈ (a.file s).members) :
    a.IsOwn s f ∨ ∃ m ∈ a.indexMethods, f = Accessor.indexMethod s m := by
  obtain ⟨front, back, hmembers, hothers⟩ := members_file s a
  rw [hmembers, List.mem_append, List.mem_append] at hf
  rcases hf with (hf | hf) | hf
  · exact .inl (hothers f (List.mem_append_left _ hf))
  · obtain ⟨m, hm, rfl⟩ := List.mem_map.mp hf
    exact .inr ⟨m, hm, rfl⟩
  · exact .inl (hothers f (List.mem_append_right _ hf))

/-- Only methods of indexes pass a test that they all pass and no other member does. -/
theorem filter_members_file {s : Scope} {a : Accessor} {test : Member → Bool}
    (hown : ∀ f, a.IsOwn s f → test f = false)
    (hindex : ∀ m ∈ a.indexMethods, test (Accessor.indexMethod s m) = true) :
    (a.file s).members.filter test = a.indexMethods.map (Accessor.indexMethod s) := by
  obtain ⟨front, back, hmembers, hothers⟩ := members_file s a
  have hnone : ∀ fs : List Member, (∀ f ∈ fs, f ∈ front ++ back) → fs.filter test = [] := by
    intro fs hfs
    rw [List.filter_eq_nil_iff]
    intro f hf
    rw [hown f (hothers f (hfs f hf))]
    exact Bool.false_ne_true
  have hall : (a.indexMethods.map (Accessor.indexMethod s)).filter test =
      a.indexMethods.map (Accessor.indexMethod s) := by
    rw [List.filter_eq_self]
    intro f hf
    obtain ⟨m, hm, rfl⟩ := List.mem_map.mp hf
    exact hindex m hm
  rw [hmembers, List.filter_append, List.filter_append, hall,
    hnone front fun f hf => List.mem_append_left _ hf,
    hnone back fun f hf => List.mem_append_right _ hf, List.nil_append, List.append_nil]

/-- The members of an accessor that take the node out of an index are the methods
of its groups. -/
theorem filter_leavesIndex_file (s : Scope) (a : Accessor)
    (h : ∀ e ∈ a.properties, "remove_from_index" ∉ e.called) :
    (a.file s).members.filter Member.leavesIndex = a.indexMethods.map (Accessor.indexMethod s) := by
  refine filter_members_file (fun f hf => Member.leavesIndex_eq_false ?_) fun m _ =>
    (reenters_indexMethod s m).leavesIndex
  cases hf with
  | constant he hf => exact collect_constants hf
  | access he hf =>
    exact collect_accessMethods (passes_all (by decide))
      (passes_all fun n hn heq => h _ he (heq ▸ hn)) hf
  | fixed hnamed hcollect =>
    exact hcollect _ (passes_callsTo (by decide)) (passes_callsTo (by decide))

/-! ## The facade -/

namespace Facade

variable {facade : Facade} {f : Member}

theorem members_file (s : Scope) (facade : Facade) :
    (facade.file s).members = facade.constantMembers ++ [facade.constructor s] ++ ownMethods s ++
      facade.factories.map factoryMethod ++ facade.queries.flatMap (queryMethods s) := by
  simp only [Code.File.members, file, List.flatMap_cons, List.flatMap_nil, List.nil_append,
    List.append_nil]

/-- The names that the methods and the factories of every facade call. -/
def ownCalls : List String :=
  ["get", "copied", "now", "duration_since", "map_or", "try_from", "as_millis", "unwrap_or", "clone",
    "connect", "get_or_init", "fork", "callback", "disconnect", "save", "new_typed_node", "downcast"]

/-- The names that a method for an index calls. -/
def queryCalls : List String :=
  ["to_string", "index_if_exists", "find", "find_all", "callback", "new", "into_iter", "filter_map",
    "collect"]

section
variable {α : Type} {c : Collector α}

theorem collect_constantMembers (hf : f ∈ facade.constantMembers) : f.collect c = [] := by
  rcases List.mem_cons.mp hf with rfl | hf
  · simp
  · obtain ⟨i, -, rfl⟩ := List.mem_map.mp hf
    exact collect_textConstant _ _ _

theorem collect_constructor (hpass : c.Passes "build") (facade : Facade) :
    (facade.constructor s).collect c = c.call (some "with_plugin") facade.plugin.asArguments ++
      if facade.learns then c.call (some "with_plugin") (s.host.join ["ml", "MlPlugin"]).asArguments
      else [] := by
  cases hlearns : facade.learns <;> simp [constructor, withPlugin, hlearns, hpass _]

theorem collect_ownMethods (hpass : ∀ n ∈ ownCalls, c.Passes n) (hf : f ∈ ownMethods s) :
    f.collect c = [] := by
  simp only [ownCalls, List.forall_mem_cons, Collector.Passes] at hpass
  simp only [ownMethods, List.mem_cons, List.not_mem_nil, or_false] at hf
  rcases hf with rfl | rfl | rfl | rfl | rfl | rfl
  · simp [selfGraph]
  · simp [plannedWorld, hpass]
  · simp [nowValue, Expr.names, Expr.callee?, Path.ofNames, Path.std, Code.Segment.name, hpass]
  · simp [connectMethod, selfGraph, plannedWorld, moveClosure, hpass]
  · simp [graphCall, selfGraph, hpass]
  · simp [graphCall, selfGraph, hpass]

/-- A factory names the node name of the class that it makes nodes of. -/
theorem collect_factoryMethod (hpass : ∀ n ∈ ownCalls, c.Passes n) (factory : Factory) :
    (factoryMethod factory).collect c = c.item factory.accessor.ty [.plain nodeNameConstant] := by
  simp only [ownCalls, List.forall_mem_cons, Collector.Passes] at hpass
  simp [factoryMethod, selfGraph, hpass]

theorem collect_queryMethods (hpass : ∀ n ∈ queryCalls, c.Passes n) {q : Query}
    (hf : f ∈ queryMethods s q) : f.collect c = [] := by
  simp only [queryCalls, List.forall_mem_cons, Collector.Passes] at hpass
  rcases List.mem_pair.mp hf with rfl | rfl
  all_goals
    simp [askIndex, selfGraph, moveClosure, Scope.callbackFound, Expr.names, Expr.callee?,
      Path.ofNames, Code.Segment.name, hpass]

end

/-- The members of a facade other than its constructor and its methods for indexes. -/
def fixedMembers (s : Scope) (facade : Facade) : List Member :=
  facade.constantMembers ++ ownMethods s ++ facade.factories.map factoryMethod

theorem mem_members_file (hf : f ∈ (facade.file s).members) :
    f ∈ facade.fixedMembers s ∨ f = facade.constructor s ∨
      ∃ q ∈ facade.queries, f ∈ queryMethods s q := by
  simp only [members_file, List.mem_append, List.mem_singleton, List.mem_flatMap] at hf
  simp only [fixedMembers, List.mem_append]
  rcases hf with (((hf | hf) | hf) | hf) | hf
  · exact .inl (.inl (.inl hf))
  · exact .inr (.inl hf)
  · exact .inl (.inl (.inr hf))
  · exact .inl (.inr hf)
  · exact .inr (.inr hf)

theorem callsOf_fixedMembers (hname : ∀ n ∈ ownCalls, n ≠ name)
    (hf : f ∈ facade.fixedMembers s) : f.callsOf name = [] := by
  rcases List.mem_append.mp hf with hf | hf
  · rcases List.mem_append.mp hf with hf | hf
    · exact collect_constantMembers hf
    · exact collect_ownMethods (passes_all hname) hf
  · obtain ⟨factory, -, rfl⟩ := List.mem_map.mp hf
    exact collect_factoryMethod (passes_all hname) factory

end Facade

/-! ## The task api -/

theorem callsOfAll_ofType (type : Code.Ty) (keys : List String) :
    Expr.collectAll (callsTo name) (keys.map (Expr.ofType type)) = [] := by
  rw [Expr.collectAll_map, List.flatMap_eq_nil_iff]
  exact fun key _ => Expr.collect_ofType type key

/-- The key of an index that a list of constants of another type is. -/
def keysOf (type : Code.Ty) (keys : List String) : Expr :=
  .borrow (.array (keys.map (Expr.ofType type)))

theorem enters_addToIndex (s : Scope) (name : String) (facade : Path) (constant : String)
    (accessor : Path) (members : List String) :
    ((TaskFunction.addToIndex name facade constant accessor members).item s).Enters name
      (.ofType facade.ty constant) (keysOf accessor.ty members) where
  named := rfl
  enters := by
    simp [TaskFunction.item, callee?_hostValue, callsOfAll_ofType, keysOf]

/-- The function makes the action of an index. -/
def TaskFunction.isOfIndex : TaskFunction → Bool
  | .addToIndex .. => true
  | _ => false

theorem entersIndex_item (s : Scope) (f : TaskFunction) :
    (f.item s).entersIndex = f.isOfIndex := by
  cases f with
  | addToIndex name facade constant accessor members =>
    rw [Item.entersIndex, (enters_addToIndex s name facade constant accessor members).enters]
    rfl
  | _ =>
    simp [TaskFunction.item, Item.entersIndex, callee?_hostValue,
      TaskFunction.plannedOrReal, TaskFunction.isOfIndex]

end Generate
end TypedGraph
