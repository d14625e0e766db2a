/-
Handing artifacts over.

A sink may keep any state and may fail at any artifact.  It is handed nothing
unless all artifacts have been generated, and then each of them once and in
order, whatever it answered before.  The report is what can be read off the
sequence of its answers, and so is the exit code of the command.
-/
import TypedGraph.Command.Run

namespace TypedGraph
namespace Generate

open Files (Disk FilePath)

variable {σ : Type} {sink : Sink (StateM σ)} {st last : σ}

/-- Artifacts handed to a sink, and what it answered. -/
abbrev History := List (Artifact × Except WriteError FilePath)

/-- A sink is handed artifacts one after the other, each in the state that the
one before it left. -/
inductive Handed (sink : Sink (StateM σ)) : σ → History → σ → Prop
  | done (st : σ) : Handed sink st [] st
  | next {st after last : σ} {a : Artifact} {answer : Except WriteError FilePath}
      {history : History} : (sink a).run st = (answer, after) → Handed sink after history last →
        Handed sink st ((a, answer) :: history) last

namespace History

variable (history : History)

/-- Every artifact was written. -/
def Succeeds : Prop := ∀ x ∈ history, x.2.isOk

instance : Decidable history.Succeeds := inferInstanceAs (Decidable (∀ x ∈ history, _))

def written : List FilePath := history.filterMap fun x => x.2.toOption

/-- The artifacts that were not written, and why. -/
def failed : List (Artifact × WriteError) :=
  history.filterMap fun
    | (a, .error e) => some (a, e)
    | (_, .ok _) => none

def report : Report := { written := history.written, failed := history.failed }

variable {history}

theorem record_report (history : History) (a : Artifact) (answer : Except WriteError FilePath) :
    history.report.record a answer = History.report (history ++ [(a, answer)]) := by
  cases answer with
  | ok path => simp [report, Report.record, written, failed, Except.toOption]
  | error e => simp [report, Report.record, written, failed, Except.toOption]

theorem total_report : history.report.total = history.length := by
  show (written history).length + (failed history).length = history.length
  induction history with
  | nil => rfl
  | cons x history ih =>
    obtain ⟨a, answer⟩ := x
    cases answer with
    | ok path =>
      have hwritten : written ((a, .ok path) :: history) = path :: written history := rfl
      have hfailed : failed ((a, .ok path) :: history) = failed history := rfl
      rw [hwritten, hfailed, List.length_cons, List.length_cons]
      omega
    | error e =>
      have hwritten : written ((a, .error e) :: history) = written history := rfl
      have hfailed : failed ((a, .error e) :: history) = (a, e) :: failed history := rfl
      rw [hwritten, hfailed, List.length_cons, List.length_cons]
      omega

theorem isComplete_report : history.report.isComplete = true ↔ history.Succeeds := by
  show history.failed.isEmpty = true ↔ history.Succeeds
  rw [List.isEmpty_iff, failed, List.filterMap_eq_nil_iff]
  refine forall₂_congr fun x _ => ?_
  obtain ⟨a, answer⟩ := x
  cases answer with
  | ok path => simp [Except.isOk, Except.toBool]
  | error e => simp [Except.isOk, Except.toBool]

theorem isOk_result_report : history.report.result.isOk = true ↔ history.Succeeds := by
  rw [← isComplete_report, Report.result]
  by_cases hcomplete : history.report.isComplete = true
  · simp [hcomplete, Except.isOk, Except.toBool]
  · simp [hcomplete, Except.isOk, Except.toBool]

end History

/-! ## Every artifact is handed over -/

theorem exists_handed (sink : Sink (StateM σ)) (artifacts : List Artifact) (st : σ) :
    ∃ history last, Handed sink st history last ∧ history.map Prod.fst = artifacts := by
  induction artifacts generalizing st with
  | nil => exact ⟨[], st, .done st, rfl⟩
  | cons a artifacts ih =>
    obtain ⟨history, last, hhanded, hartifacts⟩ := ih ((sink a).run st).2
    refine ⟨(a, ((sink a).run st).1) :: history, last, .next rfl hhanded, ?_⟩
    rw [List.map_cons, hartifacts]

theorem Handed.run_foldlM {history : History} (h : Handed sink st history last)
    (before : History) : ((history.map Prod.fst).foldlM
      (fun (r : Report) a => do return r.record a (← sink a)) before.report).run st =
        (History.report (before ++ history), last) := by
  induction h generalizing before with
  | done st => rw [List.append_nil]; rfl
  | @next st after last a answer history hsink hrest ih =>
    rw [List.map_cons, List.foldlM_cons, StateT.run_bind, StateT.run_bind, hsink]
    have hrecord := before.record_report a answer
    have hassoc : before ++ (a, answer) :: history = before ++ [(a, answer)] ++ history := by simp
    rw [hassoc, ← ih (before ++ [(a, answer)]), ← hrecord]
    rfl

theorem Handed.run_persist {history : History} (h : Handed sink st history last) :
    (persist sink (history.map Prod.fst)).run st = (history.report, last) :=
  h.run_foldlM []

/-! ## From a directory -/

/-- The model of a directory is loaded and its artifacts are generated. -/
def Generates (disk : Disk) (dir : FilePath) (deep : Bool) (config : Config)
    (artifacts : List Artifact) : Prop :=
  ∃ model, (Schema.loadModel disk dir deep).outcome = .ok model ∧
    (generate model config).outcome = .ok artifacts

variable {disk : Disk} {dir : FilePath} {deep : Bool} {config : Config}

theorem mapError_eq_ok {ε ε' α : Type} {f : ε → ε'} {x : Except ε α} {a : α} :
    x.mapError f = .ok a ↔ x = .ok a := by
  cases x with
  | error e =>
    constructor
    · intro h
      cases h
    · intro h
      cases h
  | ok b => exact ⟨fun h => congrArg _ (Except.ok.inj h), fun h => congrArg _ (Except.ok.inj h)⟩

theorem generateFrom_eq_ok {artifacts : List Artifact} :
    (generateFrom disk dir deep config).outcome = .ok artifacts ↔
      Generates disk dir deep config artifacts := by
  rw [generateFrom, Traced.outcome_bind, bind_eq_ok]
  simp only [Traced.mapError, mapError_eq_ok]
  exact Iff.rfl

theorem run_generateDirectory_of_error (h : ¬∃ artifacts, Generates disk dir deep config artifacts)
    (sink : Sink (StateM σ)) (st : σ) :
    ∃ events e, (generateDirectory sink disk dir deep config).run st =
      (⟨events, .error e⟩, st) := by
  delta generateDirectory
  match hfrom : generateFrom disk dir deep config with
  | ⟨events, .error e⟩ => exact ⟨events, e, rfl⟩
  | ⟨events, .ok artifacts⟩ =>
    have hgenerates := generateFrom_eq_ok.mp (congrArg Traced.outcome hfrom)
    exact absurd ⟨artifacts, hgenerates⟩ h

theorem Handed.run_generateDirectory {history : History} (h : Handed sink st history last)
    (hartifacts : Generates disk dir deep config (history.map Prod.fst)) :
    ∃ events, (generateDirectory sink disk dir deep config).run st =
      (⟨events, .ok history.report⟩, last) := by
  have hok := generateFrom_eq_ok.mpr hartifacts
  delta generateDirectory
  match hfrom : generateFrom disk dir deep config with
  | ⟨events, .error e⟩ =>
    rw [hfrom] at hok
    exact nomatch hok
  | ⟨events, .ok artifacts⟩ =>
    rw [hfrom] at hok
    rw [Except.ok.inj hok]
    refine ⟨events ++ history.report.events, ?_⟩
    rw [StateT.run_bind, h.run_persist]
    rfl

end Generate

namespace Command

open Files (Disk FilePath)
open Generate (Generates Handed History Sink)

variable {σ : Type} {sinkAt : FilePath → Sink (StateM σ)} {disk : Disk} {file : Option FilePath}
variable {o : GenerateOptions} {st last : σ} {history : History} {arguments : List String}

/-! ## The exit code -/

/-- The settings are found, artifacts are generated for them, and the sink at
their output directory is handed all of them. -/
def HandsOver (sinkAt : FilePath → Sink (StateM σ)) (disk : Disk) (file : Option FilePath)
    (o : GenerateOptions) (st : σ) (history : History) (last : σ) : Prop :=
  ∃ settings, Settings.resolve disk file = .ok settings ∧
    Generates disk (o.apply settings).input.dir (o.apply settings).input.deep
      (o.apply settings).generator (history.map Prod.fst) ∧
    Handed (sinkAt (o.apply settings).output.dir) st history last

/-- Three cases that leave out nothing and have codes of their own. -/
theorem iff_of_exclusive {code : Nat} {P Q R : Prop} (h : P ∨ Q ∨ R) (hP : P → code = 1)
    (hQ : Q → code = 2) (hR : R → code = 0) :
    (code = 1 ↔ P) ∧ (code = 2 ↔ Q) ∧ (code = 0 ↔ R) := by
  rcases h with hp | hq | hr
  · have hcode := hP hp
    have hq : ¬Q := fun hq => by have := hQ hq; omega
    have hr : ¬R := fun hr => by have := hR hr; omega
    simp [hcode, hp, hq, hr]
  · have hcode := hQ hq
    have hp : ¬P := fun hp => by have := hP hp; omega
    have hr : ¬R := fun hr => by have := hR hr; omega
    simp [hcode, hp, hq, hr]
  · have hcode := hR hr
    have hp : ¬P := fun hp => by have := hP hp; omega
    have hq : ¬Q := fun hq => by have := hQ hq; omega
    simp [hcode, hp, hq, hr]

section
variable (hparse : Invocation.parse arguments = .ok (.run file (.generate o)))
  (hdry : o.dryRun = false)
include hparse hdry

theorem HandsOver.run (h : HandsOver sinkAt disk file o st history last) : ∃ outcome,
    (Command.run sinkAt disk arguments).run st = (outcome, last) ∧
      outcome.code = if history.Succeeds then 0 else 2 := by
  obtain ⟨settings, hsettings, hgenerates, hhanded⟩ := h
  obtain ⟨events, hrun⟩ := hhanded.run_generateDirectory hgenerates
  refine ⟨reportOutcome (o.apply settings).output.dir history.report, ?_, ?_⟩
  · simp only [Command.run, hparse, runTask, hsettings, Task.apply, hdry, Bool.false_eq_true,
      if_false, generate, StateT.run_bind, hrun]
    rfl
  · rw [reportOutcome]
    by_cases hsucceeds : history.Succeeds
    · rw [if_pos (History.isComplete_report.mpr hsucceeds), if_pos hsucceeds]
    · rw [if_neg fun h => hsucceeds (History.isComplete_report.mp h), if_neg hsucceeds]

theorem run_of_not_handsOver
    (h : ¬∃ history last, HandsOver sinkAt disk file o st history last) : ∃ outcome,
    (Command.run sinkAt disk arguments).run st = (outcome, st) ∧ outcome.code = 1 := by
  cases hsettings : Settings.resolve disk file with
  | error e =>
    refine ⟨.failure e.message, ?_, rfl⟩
    simp only [Command.run, hparse, runTask, hsettings]
    rfl
  | ok settings =>
    have hnone : ¬∃ artifacts, Generates disk (o.apply settings).input.dir
        (o.apply settings).input.deep (o.apply settings).generator artifacts := by
      rintro ⟨artifacts, hgenerates⟩
      obtain ⟨history, last, hhanded, rfl⟩ :=
        Generate.exists_handed (sinkAt (o.apply settings).output.dir) artifacts st
      exact h ⟨history, last, settings, hsettings, hgenerates, hhanded⟩
    obtain ⟨events, e, hrun⟩ := Generate.run_generateDirectory_of_error hnone
      (sinkAt (o.apply settings).output.dir) st
    refine ⟨.failure e.message, ?_, rfl⟩
    simp only [Command.run, hparse, runTask, hsettings, Task.apply, hdry, Bool.false_eq_true,
      if_false, generate, StateT.run_bind, hrun]
    rfl

theorem HandsOver.code_eq (h : HandsOver sinkAt disk file o st history last) :
    ((Command.run sinkAt disk arguments).run st).1.code = if history.Succeeds then 0 else 2 := by
  obtain ⟨outcome, hrun, hcode⟩ := h.run hparse hdry
  rw [hrun]
  exact hcode

/-- One of three things happens, and the code says which. -/
theorem code_iff (sinkAt : FilePath → Sink (StateM σ)) (disk : Disk) (st : σ) :
    let ended := (Command.run sinkAt disk arguments).run st
    (ended.1.code = 1 ↔ ¬∃ history last, HandsOver sinkAt disk file o st history last) ∧
    (ended.1.code = 2 ↔
      ∃ history, HandsOver sinkAt disk file o st history ended.2 ∧ ¬history.Succeeds) ∧
    (ended.1.code = 0 ↔
      ∃ history, HandsOver sinkAt disk file o st history ended.2 ∧ history.Succeeds) := by
  intro ended
  refine iff_of_exclusive ?_ (fun hnone => ?_) ?_ ?_
  · by_cases h : ∃ history last, HandsOver sinkAt disk file o st history last
    · obtain ⟨history, last, hhands⟩ := h
      obtain ⟨outcome, hrun, -⟩ := hhands.run hparse hdry
      have hlast : ended.2 = last := congrArg Prod.snd hrun
      rw [hlast]
      by_cases hsucceeds : history.Succeeds
      · exact .inr (.inr ⟨history, hhands, hsucceeds⟩)
      · exact .inr (.inl ⟨history, hhands, hsucceeds⟩)
    · exact .inl h
  · obtain ⟨outcome, hrun, hcode⟩ := run_of_not_handsOver hparse hdry hnone
    exact (congrArg (fun p => p.1.code) hrun).trans hcode
  · rintro ⟨history, hhands, hfails⟩
    exact (hhands.code_eq hparse hdry).trans (if_neg hfails)
  · rintro ⟨history, hhands, hsucceeds⟩
    exact (hhands.code_eq hparse hdry).trans (if_pos hsucceeds)

end

/-- A sink is handed nothing unless everything was generated, and then every
artifact once and in order.  The report tells what it answered, and the code of
the command whether it was handed anything and whether it took all of it. -/
theorem report_and_code_tell_what_was_written (st : σ) :
    (∀ (sink : Sink (StateM σ)) (disk : Disk) (dir : FilePath) (deep : Bool)
        (config : Generate.Config),
      let ended := (Generate.generateDirectory sink disk dir deep config).run st
      (∀ e, ended.1.outcome = .error e →
        ended.2 = st ∧ ¬∃ artifacts, Generates disk dir deep config artifacts) ∧
      (∀ report, ended.1.outcome = .ok report → ∃ artifacts history,
        Generates disk dir deep config artifacts ∧ Handed sink st history ended.2 ∧
        history.map Prod.fst = artifacts ∧ report.written = history.written ∧
        report.failed = history.failed ∧ report.total = artifacts.length ∧
        (report.result.isOk = true ↔ history.Succeeds))) ∧
    (∀ (sinkAt : FilePath → Sink (StateM σ)) (disk : Disk) (arguments : List String)
        (file : Option FilePath) (o : GenerateOptions),
      Invocation.parse arguments = .ok (.run file (.generate o)) → o.dryRun = false →
      let ended := (run sinkAt disk arguments).run st
      (ended.1.code = 1 ↔ ¬∃ history last, HandsOver sinkAt disk file o st history last) ∧
      (ended.1.code = 1 → ended.2 = st) ∧
      (ended.1.code = 2 ↔
        ∃ history, HandsOver sinkAt disk file o st history ended.2 ∧ ¬history.Succeeds) ∧
      (ended.1.code = 0 ↔
        ∃ history, HandsOver sinkAt disk file o st history ended.2 ∧ history.Succeeds)) := by
  refine ⟨fun sink disk dir deep config => ?_, fun sinkAt disk arguments file o hparse hdry => ?_⟩
  · by_cases h : ∃ artifacts, Generates disk dir deep config artifacts
    · obtain ⟨artifacts, hgenerates⟩ := h
      obtain ⟨history, last, hhanded, rfl⟩ := Generate.exists_handed sink artifacts st
      obtain ⟨events, hrun⟩ := hhanded.run_generateDirectory hgenerates
      rw [hrun]
      refine ⟨fun e he => (nomatch he), fun report hreport => ?_⟩
      rw [← Except.ok.inj hreport]
      refine ⟨_, history, hgenerates, hhanded, rfl, rfl, rfl, ?_, History.isOk_result_report⟩
      rw [List.length_map]
      exact History.total_report
    · obtain ⟨events, e, hrun⟩ := Generate.run_generateDirectory_of_error h sink st
      rw [hrun]
      exact ⟨fun _ _ => ⟨rfl, h⟩, fun report hreport => (nomatch hreport)⟩
  · obtain ⟨hone, htwo, hzero⟩ := code_iff hparse hdry sinkAt disk st
    refine ⟨hone, fun hcode => ?_, htwo, hzero⟩
    obtain ⟨outcome, hrun, -⟩ := run_of_not_handsOver hparse hdry (hone.mp hcode)
    exact congrArg Prod.snd hrun

/-- A sink that counts what it is handed and takes none of it. -/
def refusing (root : FilePath) : Sink (StateM Nat) := fun _ => do
  modify (· + 1)
  return .error ⟨root, .refused "full"⟩

/-- The files of an empty model are refused one by one; without a directory of
models there is nothing to refuse. -/
theorem empty_model_refused :
    let disk : Disk := { root := .directory [("model", .empty)] }
    (∃ history, HandsOver refusing disk none {} 0 history
        ((run refusing disk ["generate"]).run 0).2 ∧ ¬history.Succeeds) ∧
      ((run refusing {} ["generate"]).run 0).2 = 0 := by
  intro disk
  obtain ⟨-, hcode⟩ := report_and_code_tell_what_was_written 0
  have hparse : Invocation.parse ["generate"] = .ok (.run none (.generate {})) := rfl
  obtain ⟨-, -, htwo, -⟩ := hcode refusing disk ["generate"] none {} hparse rfl
  obtain ⟨-, hunchanged, -⟩ := hcode refusing {} ["generate"] none {} hparse rfl
  exact ⟨htwo.mp (by decide +kernel), hunchanged (by decide +kernel)⟩

end Command
end TypedGraph
