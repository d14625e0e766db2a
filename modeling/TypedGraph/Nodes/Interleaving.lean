/-
Schedules of threads.

Each of some threads has steps to take, one after the other.  A schedule takes
all of them, and keeps the order within a thread; between threads any order may
occur.
-/

namespace TypedGraph
namespace Nodes

/-- The schedule takes the next step of any thread, until none has one left. -/
inductive Interleaving {α : Type} : List (List α) → List α → Prop
  | done {threads : List (List α)} : (∀ t ∈ threads, t = []) → Interleaving threads []
  | step (before : List (List α)) (a : α) (rest : List α) (after : List (List α))
      {schedule : List α} : Interleaving (before ++ rest :: after) schedule →
      Interleaving (before ++ (a :: rest) :: after) (a :: schedule)

namespace Interleaving

variable {α : Type} {threads : List (List α)} {schedule : List α}

theorem perm (h : Interleaving threads schedule) : schedule.Perm threads.flatten := by
  induction h with
  | done hempty => rw [List.flatten_eq_nil_iff.mpr hempty]
  | step before a rest after _ ih =>
    rw [List.flatten_append, List.flatten_cons] at ih ⊢
    rw [List.cons_append]
    exact (ih.cons a).trans List.perm_middle.symm

theorem nil_of_nil (h : Interleaving threads []) : ∀ t ∈ threads, t = [] :=
  List.flatten_eq_nil_iff.mp (List.nil_perm.mp h.perm)

/-- The last step of a schedule is the last of its thread. -/
theorem last_step {past : List α} {e : α} (h : Interleaving threads (past ++ [e])) :
    ∃ t ∈ threads, t.getLast? = some e := by
  generalize hs : past ++ [e] = schedule at h
  induction h generalizing past with
  | done _ => simp at hs
  | step before a rest after h ih =>
    cases past with
    | nil =>
      obtain ⟨rfl, rfl⟩ := List.cons.inj hs
      have hrest : rest = [] := h.nil_of_nil rest (by simp)
      exact ⟨e :: rest, by simp, by rw [hrest]; rfl⟩
    | cons b past =>
      obtain ⟨t, ht, hlast⟩ := ih (List.cons.inj hs).2
      rcases List.mem_append.mp ht with ht | ht
      · exact ⟨t, List.mem_append_left _ ht, hlast⟩
      · rcases List.mem_cons.mp ht with rfl | ht
        · refine ⟨a :: t, by simp, ?_⟩
          cases t with
          | nil => simp at hlast
          | cons c t => rw [List.getLast?_cons_cons]; exact hlast
        · exact ⟨t, List.mem_append_right _ (List.mem_cons_of_mem _ ht), hlast⟩

/-- A schedule keeps the order of each thread. -/
theorem sublist {t : List α} (h : Interleaving threads schedule) (ht : t ∈ threads) :
    t.Sublist schedule := by
  induction h generalizing t with
  | done hempty =>
    obtain rfl := hempty t ht
    exact .slnil
  | step before a rest after _ ih =>
    rcases List.mem_append.mp ht with ht | ht
    · exact (ih (List.mem_append_left _ ht)).cons a
    rcases List.mem_cons.mp ht with rfl | ht
    · exact (ih (by simp)).cons_cons a
    · exact (ih (List.mem_append_right _ (List.mem_cons_of_mem _ ht))).cons a

/-- Threads may run one after the other. -/
theorem flatten (threads : List (List α)) : Interleaving threads threads.flatten := by
  suffices h : ∀ idle : List (List α), (∀ t ∈ idle, t = []) →
      Interleaving (idle ++ threads) threads.flatten from h [] (by simp)
  induction threads with
  | nil =>
    intro idle hidle
    rw [List.append_nil]
    exact .done hidle
  | cons t threads ih =>
    intro idle hidle
    induction t with
    | nil =>
      have h := ih (idle ++ [[]]) fun t ht => by
        rcases List.mem_append.mp ht with ht | ht
        · exact hidle t ht
        · exact List.mem_singleton.mp ht
      rw [List.append_assoc] at h
      exact h
    | cons a t iht => exact .step idle a t threads iht

end Interleaving

end Nodes
end TypedGraph
