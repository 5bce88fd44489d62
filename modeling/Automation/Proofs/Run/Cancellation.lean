import Automation.Proofs.Execution.Cancellation
import Automation.Proofs.Run.Agreement

/-!
A cancelled step cancels the run, and the run records that.

The cancellation passes through every step around the cancelled one without any further effect, and
the run hands over a last record, of a failure, before it ends cancelled itself.
-/

namespace Automation.Runner

open Executor

variable {σ τ : Type} {runner : Runner σ τ} {launch : Launch} {state : RunState σ τ}
  {finished : List StepResult} {step : Step} {before after : State σ}

theorem ComesTo.played_of_cancelled (comes : runner.ComesTo launch state finished step before)
    (cancelled : runner.executor.execute step before = (.cancelled, after)) :
    (runner.played launch state).1 = ⟨finished, StepResult.errors finished, .cancelled⟩ ∧
      (runner.played launch state).2.world = after.world := by
  obtain ⟨blueprint, start, earlier, later, begins, split, passes⟩ := comes
  rw [begins.played_eq.1, begins.played_eq.2, split, passes.runSteps_of_cancelled cancelled]
  exact ⟨rfl, rfl⟩

/-- The last record of a cancelled run, where `finished` are the steps that ended before. -/
structure RecordsCancellation (launch : Launch) (finished : List StepResult) (record : RunRecord) :
    Prop where
  launched : record.id = launch.executionId ∧ record.automationId = launch.automationId ∧
    record.triggerData = payloadOf launch.triggerData
  failed : record.status = .failed
  steps : Entries.get? "steps" record.detailsLog = some (.list (finished.map StepResult.toValue))
  errors : Entries.get? "errors" record.detailsLog =
    some (.list ((StepResult.errors finished ++ ["Automation execution cancelled"]).map .text))

theorem recordsCancellation_finalRecord (durationMs : Int)
    (ended : (runner.played launch state).1 = ⟨finished, StepResult.errors finished, .cancelled⟩) :
    RecordsCancellation launch finished
      (finalRecord launch (runner.played launch state).1 durationMs) := by
  rw [ended]
  exact ⟨⟨rfl, rfl, rfl⟩, by simp [finalRecord, Progress.withEnding], rfl, rfl⟩

/-- A run that comes to a cancelled step hands its store two records, the last one of its
cancellation, and ends cancelled, whatever the store answers. -/
theorem ComesTo.run_of_cancelled (comes : runner.ComesTo launch state finished step before)
    (cancelled : runner.executor.execute step before = (.cancelled, after)) {durationMs : Int}
    (finite : elapsedMs (runner.executor.collaborators.now state.world)
      (runner.executor.collaborators.now after.world) = .ok durationMs) :
    ∃ first second last,
      runner.run launch state = (.cancelled, last) ∧
        runner.watched.run launch (state.watched []) =
          (.cancelled, last.watched [first, second]) ∧
        last.world = after.world ∧ RecordsCancellation launch finished second.record := by
  obtain ⟨ended, sameWorld⟩ := comes.played_of_cancelled cancelled
  have finiteRun : runner.elapsed launch state = .ok durationMs := by
    rw [elapsed, world_reported, sameWorld]
    exact finite
  have stops : (runner.run launch state).1 = .cancelled := by
    rw [run_of_elapsed finiteRun, finish, ended]
  refine ⟨runner.firstSubmission launch state, runner.secondSubmission launch state durationMs,
    (runner.run launch state).2, Prod.ext stops rfl, ?_, ?_, ?_⟩
  · rw [run_watched finiteRun, stops]
  · rw [world_run, sameWorld]
  · exact recordsCancellation_finalRecord durationMs ended

/-- A step that is cancelled anywhere in the tree of a step cancels that step, and no step around it
does anything further: only the variables that loops bind are put back. A run that comes to the
tree records the failure and is cancelled too, even where its store refuses the record. -/
theorem cancellation_reaches_run {root inner : Step} {start : State σ} {scopes : List Variables}
    (reaches : runner.executor.Reaches root before inner start scopes)
    (cancelled : runner.executor.execute inner start = (.cancelled, after)) :
    (runner.executor.execute root before =
        (.cancelled, { after with «variables» := leaveLoops scopes after.variables })) ∧
      (∀ name, ¬IsLoopName name →
        (leaveLoops scopes after.variables).bound? name = after.variables.bound? name) ∧
      (∀ name outermost, IsLoopName name → scopes.getLast? = some outermost →
        (leaveLoops scopes after.variables).bound? name = outermost.bound? name) ∧
      ∀ launch state finished durationMs, runner.ComesTo launch state finished root before →
        elapsedMs (runner.executor.collaborators.now state.world)
          (runner.executor.collaborators.now after.world) = .ok durationMs →
        ∃ first second last,
          runner.run launch state = (.cancelled, last) ∧
            runner.watched.run launch (state.watched []) =
              (.cancelled, last.watched [first, second]) ∧
            last.world = after.world ∧ RecordsCancellation launch finished second.record := by
  have stops := reaches.execute_of_cancelled cancelled
  refine ⟨stops, fun name further => bound?_leaveLoops_of_not_loopName further,
    fun name outermost loopName last => bound?_leaveLoops_of_loopName loopName last, ?_⟩
  intro launch state finished durationMs comes finite
  have recorded := comes.run_of_cancelled stops finite
  exact recorded

section

/-- A retry of a step that is cancelled. -/
def stoppingRetry : Step :=
  .mk (plainHeader "again" "retry" true) none none
    (some
      ⟨.int 2, .null, [hostStep "stop" "stopping" false], [hostStep "recover" "steady" true]⟩)
    none none none

/-- A loop over the retry of a step that is cancelled. -/
def stoppingLoop : Step :=
  .mk (plainHeader "each" "loop" true) none (some ⟨.list [.int 1, .int 2], [stoppingRetry]⟩)
    none none none none

/-- The loop over the retry of a step that is cancelled, with an alternative. -/
def stoppingTree : Step :=
  .mk (plainHeader "either" "fallback" true) none none none
    (some ⟨[stoppingLoop], [hostStep "other" "steady" true]⟩) none none

theorem runStep_steady (state : State Unit) :
    ∃ result after, result.isSuccess = true ∧
      runStep hostExecutor (hostStep "first" "steady" true) state = (.done result, after) := by
  have given : (hostExecutor.execute (hostStep "first" "steady" true) state).1 =
      .done (.text "fine") := by
    rw [execute_of_handler rfl]
    change ((Action.ofExcept (elapsedMs (.zero false) (.zero false)) >>= _) _).1 = _
    rw [elapsedMs_zero]
    rfl
  obtain ⟨after, ran⟩ : ∃ after, hostExecutor.execute (hostStep "first" "steady" true) state =
      (.done (.text "fine"), after) := ⟨_, Prod.ext given rfl⟩
  refine ⟨⟨"first", "steady", .ok (.text "fine"), 0⟩, after, rfl, ?_⟩
  have finite : elapsedMs (hostExecutor.collaborators.now state.world)
      (hostExecutor.collaborators.now after.world) = .ok 0 := elapsedMs_zero
  simp only [runStep, ran, finite]
  rfl

theorem reaches_stopping (state : State Unit) :
    ∃ start, hostExecutor.Reaches stoppingTree state (hostStep "stop" "stopping" false) start
      [state.variables] := by
  have inRetry (state : State Unit) : hostExecutor.Enters stoppingRetry state
      (hostStep "stop" "stopping" false) (opened stoppingRetry.header state) none :=
    .attempt ⟨rfl, rfl⟩ rfl .first .first
  have inLoop (state : State Unit) : hostExecutor.Enters stoppingLoop state stoppingRetry
      (bound 0 (.int 1) (opened stoppingLoop.header state)) (some state.variables) :=
    .iteration ⟨rfl, rfl⟩ rfl .first .first
  have inFallback : hostExecutor.Enters stoppingTree state stoppingLoop
      (opened stoppingTree.header state) none :=
    .primary ⟨rfl, rfl⟩ .first
  exact ⟨_, .inside inFallback (.inside (inLoop _) (.inside (inRetry _) .here))⟩

theorem cancellation_reaches_run_of_stoppingTree :
    let runner : Runner Unit MemoryStore := ⟨hostExecutor, refusingStore, []⟩
    let launch := launchOf [hostStep "first" "steady" true, stoppingTree]
    let state : RunState Unit MemoryStore := ⟨[], (), []⟩
    ∃ before start after scopes finished,
      runner.executor.Reaches stoppingTree before (hostStep "stop" "stopping" false) start scopes ∧
        runner.executor.execute (hostStep "stop" "stopping" false) start = (.cancelled, after) ∧
        runner.ComesTo launch state finished stoppingTree before ∧
        elapsedMs (runner.executor.collaborators.now state.world)
          (runner.executor.collaborators.now after.world) = .ok 0 ∧
        runner.executor.execute stoppingTree before =
          (.cancelled, { after with «variables» := leaveLoops scopes after.variables }) ∧
        ∃ first second last,
          runner.run launch state = (.cancelled, last) ∧
            runner.watched.run launch (state.watched []) =
              (.cancelled, last.watched [first, second]) ∧
            RecordsCancellation launch finished second.record := by
  intro runner launch state
  obtain ⟨blueprint, start, begins, listed⟩ : ∃ blueprint start,
      runner.Begins launch state blueprint start ∧
        blueprint.steps = [hostStep "first" "steady" true, stoppingTree] := by
    obtain ⟨lines, prepared⟩ := runner.exists_prepare_eq_ok launch rfl (by decide)
    exact ⟨_, _, .mk rfl prepared, rfl⟩
  obtain ⟨result, before, succeeds, ends⟩ := runStep_steady start
  have comes : runner.ComesTo launch state [result] stoppingTree before :=
    ⟨blueprint, start, [_], [], begins, listed, .more ends (.inl succeeds) .nothing⟩
  obtain ⟨innerStart, reaches⟩ := reaches_stopping before
  have cancelled : runner.executor.execute (hostStep "stop" "stopping" false) innerStart =
      (.cancelled, opened (hostStep "stop" "stopping" false).header innerStart) := by
    rw [execute_of_handler rfl]
    exact complete_cancelled_iff.mpr rfl
  obtain ⟨stops, _, _, ended⟩ := cancellation_reaches_run reaches cancelled
  obtain ⟨first, second, last, run, handed, _, recorded⟩ :=
    ended launch state _ 0 comes elapsedMs_zero
  exact ⟨before, innerStart, _, _, _, reaches, cancelled, comes, elapsedMs_zero, stops, first,
    second, last, run, handed, recorded⟩

end

end Automation.Runner
