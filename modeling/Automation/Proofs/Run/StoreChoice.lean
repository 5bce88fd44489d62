import Automation.Proofs.Run.Discipline
import Automation.Proofs.Run.Recording
import Automation.Proofs.Run.Stores
import Mathlib.Data.Nat.Digits.Defs

/-!
The choice of the store does not change a run.

Runs of which a row loses nothing hand both stores the same records, and both take them. So the runs
end alike, and a record reads alike from both stores but for an offset below a second.
-/

namespace Automation

theorem Value.isKept_int_of_fitsWord {number : Int} (fits : fitsWord number = true) :
    (Value.int number).isKept = true := by
  have bounded : number.natAbs < 10 ^ 20 := by
    simp only [fitsWord, Nat.pow_eq, Bool.and_eq_true, decide_eq_true_eq] at fits
    omega
  have short : (Decimal.digits number.natAbs).length ≤ 20 :=
    Nat.toDigits_length 10 number.natAbs 20 (by decide) bounded
  exact decide_eq_true (short.trans (by decide))

/-- A step of which JSON text loses nothing. -/
structure StepResult.IsStorable (step : StepResult) : Prop where
  duration : fitsWord step.durationMs = true
  output : ∀ output, step.result = .ok output → output.isKept = true

theorem StepResult.IsStorable.isKept_toValue {step : StepResult} (storable : step.IsStorable) :
    step.toValue.isKept = true := by
  have duration := Value.isKept_int_of_fitsWord storable.duration
  cases ended : step.result with
  | ok output =>
      have kept := storable.output output ended
      simp [toValue, ended, Entries.keys, duration, kept]
  | error message => simp [toValue, ended, Entries.keys, duration]

theorem Progress.isKept_details {progress : Progress} {durationMs : Int}
    (steps : ∀ step ∈ progress.steps, step.IsStorable) (fits : fitsWord durationMs = true) :
    (Value.object (progress.details durationMs)).isKept = true := by
  have duration := Value.isKept_int_of_fitsWord fits
  have keptSteps : (Value.list (progress.steps.map StepResult.toValue)).isKept = true := by
    rw [Value.isKept_list_iff, List.forall_mem_map]
    exact fun step member => (steps step member).isKept_toValue
  have keptResults : (Value.list (progress.successes.map StepResult.toValue)).isKept = true := by
    rw [Value.isKept_list_iff, List.forall_mem_map]
    exact fun step member => (steps step (List.mem_filter.mp member).1).isKept_toValue
  have keptErrors : (Value.list (progress.withEnding.map .text)).isKept = true := by
    rw [Value.isKept_list_iff, List.forall_mem_map]
    exact fun message _ => Value.isKept_text message
  rw [Value.isKept_object_iff]
  refine ⟨by simp [details, Entries.keys], ?_⟩
  simp only [details, List.mem_cons, List.not_mem_nil, or_false, forall_eq_or_imp, forall_eq]
  exact ⟨keptSteps, keptResults, keptErrors, duration⟩

namespace Runner

variable {σ τ : Type}

/-- A run of which a row loses nothing: its payload and the outputs of its steps are kept, its
durations fit a column, and its time has a text. -/
structure IsStorable (runner : Runner σ τ) (launch : Launch) (state : RunState σ τ) : Prop where
  payload : launch.triggerData.isKept = true
  time : launch.createdAt.isValid = true
  steps : ∀ step ∈ (runner.played launch state).1.steps, step.IsStorable
  duration : ∃ durationMs, runner.elapsed launch state = .ok durationMs ∧
    fitsWord durationMs = true

theorem isKept_payloadOf {triggerData : Value} (kept : triggerData.isKept = true) :
    (payloadOf triggerData).isKept = true := by
  unfold payloadOf
  split
  · simp [Entries.keys]
  · exact kept

/-- What the two records of a run are to a table: a row loses nothing of them, and it takes them. -/
theorem IsStorable.record {runner : Runner σ τ} {launch : Launch} {state : RunState σ τ}
    {durationMs : Int} (storable : runner.IsStorable launch state)
    (finite : runner.elapsed launch state = .ok durationMs) :
    ∀ record ∈ [startingRecord launch,
        finalRecord launch (runner.played launch state).1 durationMs],
      record.IsLegible ∧ TableStore.checkRecord record = .ok () := by
  have payload := isKept_payloadOf storable.payload
  have fits : fitsWord durationMs = true := by
    obtain ⟨measured, finiteToo, fits⟩ := storable.duration
    rw [finite] at finiteToo
    cases finiteToo
    exact fits
  have details := Progress.isKept_details storable.steps fits
  have starting : (startingRecord launch).IsLegible :=
    ⟨Value.isLegible_of_isKept payload, rfl, storable.time⟩
  have final : (finalRecord launch (runner.played launch state).1 durationMs).IsLegible :=
    ⟨Value.isLegible_of_isKept payload, Value.isLegible_of_isKept details, storable.time⟩
  intro record member
  simp only [List.mem_cons, List.not_mem_nil, or_false] at member
  rcases member with rfl | rfl
  · exact ⟨starting, (TableStore.checkRecord_eq_ok_iff starting).mpr ⟨payload, rfl, rfl⟩⟩
  · exact ⟨final, (TableStore.checkRecord_eq_ok_iff final).mpr ⟨payload, details, fits⟩⟩

/-- A run whose two records are taken. -/
theorem accepts_run {runner : Runner σ τ} {launch : Launch} {state : RunState σ τ} {start : τ}
    {records : List RunRecord} {durationMs : Int}
    (finite : runner.elapsed launch state = .ok durationMs)
    (takes : ∀ record ∈ [startingRecord launch,
        finalRecord launch (runner.played launch state).1 durationMs],
      ∀ contents, (runner.store.upsert record contents).1 = .ok ())
    (accepts : runner.store.Accepts start records state.store) :
    runner.store.Accepts start (records ++ [startingRecord launch,
        finalRecord launch (runner.played launch state).1 durationMs])
      (runner.run launch state).2.store := by
  rw [store_run finite, List.append_cons]
  apply RunStore.Accepts.upsert
  · exact .upsert accepts (Prod.ext (takes _ (by simp) _) rfl)
  · exact Prod.ext (takes _ (by simp) _) rfl

/-- Run launches one after the other. -/
def runEach (runner : Runner σ τ) :
    List Launch → RunState σ τ → List (Outcome ExecutionResult) × RunState σ τ
  | [], state => ([], state)
  | launch :: rest, state =>
      match runner.run launch state with
      | (ended, after) =>
          match runEach runner rest after with
          | (others, last) => (ended :: others, last)

/-- Launches of which a row loses nothing, each from the state that the ones before leave. -/
def AreStorable (runner : Runner σ τ) : List Launch → RunState σ τ → Prop
  | [], _ => True
  | launch :: rest, state =>
      runner.IsStorable launch state ∧ AreStorable runner rest (runner.run launch state).2

/-- The records of launches: each hands over one of its start and one of its end. -/
inductive RecordsOf : List Launch → List RunRecord → Prop where
  | nil : RecordsOf [] []
  | cons {launch : Launch} {rest : List Launch} {records : List RunRecord} {progress : Progress}
      {durationMs : Int} (others : RecordsOf rest records) :
      RecordsOf (launch :: rest)
        (startingRecord launch :: finalRecord launch progress durationMs :: records)

theorem RecordsOf.id_mem {launches : List Launch} {records : List RunRecord}
    (recordsOf : RecordsOf launches records) :
    ∀ record ∈ records, record.id ∈ launches.map Launch.executionId := by
  induction recordsOf with
  | nil => exact nofun
  | cons others inductionHypothesis =>
      intro record member
      rw [List.map_cons, List.mem_cons]
      rcases List.mem_cons.mp member with rfl | member
      · exact .inl rfl
      · rcases List.mem_cons.mp member with rfl | member
        · exact .inl rfl
        · exact .inr (inductionHypothesis record member)

/-- Launches with different ids have two records each. -/
theorem RecordsOf.exists_recordsUnder {launches : List Launch} {records : List RunRecord}
    (recordsOf : RecordsOf launches records)
    (distinct : (launches.map Launch.executionId).Nodup) :
    ∀ launch ∈ launches, ∃ progress durationMs, recordsUnder launch.executionId records =
      [startingRecord launch, finalRecord launch progress durationMs] := by
  induction recordsOf with
  | nil => exact nofun
  | @cons first rest records progress durationMs others inductionHypothesis =>
      rw [List.map_cons, List.nodup_cons] at distinct
      intro launch member
      rcases List.mem_cons.mp member with rfl | inRest
      · refine ⟨progress, durationMs, ?_⟩
        have noneFurther : recordsUnder launch.executionId records = [] := by
          rw [recordsUnder_eq_nil_iff]
          intro record listed same
          exact distinct.1 (same ▸ others.id_mem record listed)
        simpa [recordsUnder, startingRecord, finalRecord] using noneFurther
      · obtain ⟨progress, durationMs, own⟩ := inductionHypothesis distinct.2 launch inRest
        refine ⟨progress, durationMs, ?_⟩
        have different : first.executionId ≠ launch.executionId := by
          intro same
          exact distinct.1 (same ▸ List.mem_map_of_mem inRest)
        rw [← own]
        simp [recordsUnder, startingRecord, finalRecord, different]

/-- A runner with a store in memory. -/
def inMemory (executor : Executor σ) (platformKeys : List String) : Runner σ MemoryStore :=
  ⟨executor, memoryStore, platformKeys⟩

/-- A runner with a store in a table. -/
def inTable (executor : Executor σ) (platformKeys : List String) : Runner σ TableStore :=
  ⟨executor, tableStore, platformKeys⟩

section

variable {executor : Executor σ} {platformKeys : List String} {records : List RunRecord}
  {state : RunState σ MemoryStore} {other : RunState σ TableStore}
  (blind : executor.HandlersAreBlind)

include blind

/-- A run on either store, where both took the same records before. -/
theorem run_in_both {launch : Launch} (sameWorld : other.world = state.world)
    (storable : (inMemory executor platformKeys).IsStorable launch state)
    (memoryAccepts : memoryStore.Accepts [] records state.store)
    (tableAccepts : tableStore.Accepts [] records other.store) :
    ∃ progress durationMs,
      let further := [startingRecord launch, finalRecord launch progress durationMs]
      let first := (inMemory executor platformKeys).run launch state
      let second := (inTable executor platformKeys).run launch other
      second.1 = first.1 ∧ second.2.world = first.2.world ∧
        memoryStore.Accepts [] (records ++ further) first.2.store ∧
        tableStore.Accepts [] (records ++ further) second.2.store ∧
        ∀ record ∈ further, record.IsLegible := by
  obtain ⟨durationMs, finite, _⟩ := storable.duration
  have taken := storable.record finite
  have table : ∀ record ∈ [startingRecord launch,
        finalRecord launch ((inMemory executor platformKeys).played launch state).1 durationMs],
      ∀ contents, (tableStore.upsert record contents).1 = .ok () := by
    intro record member contents
    exact congrArg Prod.fst (TableStore.upsert_eq_ok_iff.mpr ⟨(taken record member).2, rfl⟩)
  have sameAnswer : (tableStore.upsert (startingRecord launch) other.store).1 =
      ((inMemory executor platformKeys).store.upsert (startingRecord launch) state.store).1 :=
    table _ (by simp) _
  obtain ⟨sameOutcome, sameWorldAfter⟩ :=
    run_withStore blind sameWorld sameAnswer finite (table _ (by simp) _)
  obtain ⟨sameProgress, _⟩ := played_withStore blind sameWorld sameAnswer
  have finiteToo := (elapsed_withStore blind sameWorld sameAnswer).trans finite
  refine ⟨_, durationMs, sameOutcome, sameWorldAfter,
    accepts_run finite (fun _ _ _ => rfl) memoryAccepts, ?_,
    fun record member => (taken record member).1⟩
  rw [← sameProgress]
  refine accepts_run finiteToo ?_ tableAccepts
  rw [sameProgress]
  exact table

theorem runEach_in_both {launches : List Launch} (sameWorld : other.world = state.world)
    (storable : (inMemory executor platformKeys).AreStorable launches state)
    (memoryAccepts : memoryStore.Accepts [] records state.store)
    (tableAccepts : tableStore.Accepts [] records other.store) :
    ∃ further, RecordsOf launches further ∧
      let first := (inMemory executor platformKeys).runEach launches state
      let second := (inTable executor platformKeys).runEach launches other
      second.1 = first.1 ∧ second.2.world = first.2.world ∧
        memoryStore.Accepts [] (records ++ further) first.2.store ∧
        tableStore.Accepts [] (records ++ further) second.2.store ∧
        ∀ record ∈ further, record.IsLegible := by
  induction launches generalizing records state other with
  | nil =>
      refine ⟨[], .nil, rfl, sameWorld, ?_, ?_, nofun⟩
      · rwa [List.append_nil]
      · rwa [List.append_nil]
  | cons launch rest inductionHypothesis =>
      obtain ⟨storableFirst, storableRest⟩ := storable
      obtain ⟨progress, durationMs, sameOutcome, sameWorldBetween, memoryBetween, tableBetween,
        legibleFirst⟩ := run_in_both blind sameWorld storableFirst memoryAccepts tableAccepts
      obtain ⟨further, recordsOf, sameOthers, sameWorldAfter, memoryAfter, tableAfter,
        legibleRest⟩ := inductionHypothesis sameWorldBetween storableRest memoryBetween tableBetween
      rw [List.append_assoc] at memoryAfter tableAfter
      refine ⟨_, .cons recordsOf, ?_, sameWorldAfter, memoryAfter, tableAfter, ?_⟩
      · exact congrArg₂ List.cons sameOutcome sameOthers
      · intro record member
        have either : record ∈ [startingRecord launch, finalRecord launch progress durationMs] ++
            further := member
        rcases List.mem_append.mp either with own | others
        · exact legibleFirst record own
        · exact legibleRest record others

end

/-- Runs that start with empty stores end alike, whichever of the two stores takes their records,
and the record of each of them reads alike from both but for an offset below a second. -/
theorem runEach_agrees_between_stores {executor : Executor σ} {platformKeys : List String}
    {launches : List Launch} {world : σ} {log otherLog : List Logging.Line}
    (blind : executor.HandlersAreBlind)
    (distinct : (launches.map Launch.executionId).Nodup)
    (storable : (inMemory executor platformKeys).AreStorable launches ⟨log, world, []⟩) :
    let first := (inMemory executor platformKeys).runEach launches ⟨log, world, []⟩
    let second := (inTable executor platformKeys).runEach launches ⟨otherLog, world, []⟩
    second.1 = first.1 ∧ second.2.world = first.2.world ∧
      ∀ launch ∈ launches, ∃ record,
        memoryStore.get? launch.executionId first.2.store = some record ∧
          tableStore.get? launch.executionId second.2.store =
            some { record with createdAt := record.createdAt.restored } := by
  intro first second
  have sameStart : (⟨otherLog, world, []⟩ : RunState σ TableStore).world =
      (⟨log, world, []⟩ : RunState σ MemoryStore).world := rfl
  obtain ⟨records, recordsOf, sameOutcomes, sameWorld, memoryAccepts, tableAccepts, legible⟩ :=
    runEach_in_both blind sameStart storable .start .start
  rw [List.nil_append] at memoryAccepts tableAccepts
  refine ⟨sameOutcomes, sameWorld, ?_⟩
  intro launch member
  obtain ⟨progress, durationMs, own⟩ := recordsOf.exists_recordsUnder distinct launch member
  have merged {merge : RunRecord → RunRecord → RunRecord} :
      mergedUnder merge launch.executionId records =
        some (merge (startingRecord launch) (finalRecord launch progress durationMs)) := by
    simp [mergedUnder, own]
  refine ⟨finalRecord launch progress durationMs, ?_, ?_⟩
  · exact (MemoryStore.get?_of_accepts memoryAccepts _).trans merged
  · exact (TableStore.get?_of_accepts tableAccepts legible _).trans merged

section

/-- A launch of one step that succeeds, with a number in its payload. -/
def pricedLaunch (executionId : String) : Launch :=
  { launchOf [hostStep "only" "steady" true] with
    executionId := executionId
    triggerData := .object [("price", .float oneAndHalf)]
    createdAt := ⟨2024, 2, 29, 12, 30, 0, 0, 3600000000⟩ }

theorem runStep_only (state : State Unit) :
    (runStep hostExecutor (hostStep "only" "steady" true) state).1 =
      .done ⟨"only", "steady", .ok (.text "fine"), 0⟩ := by
  have handled := @Executor.execute_of_handler _ hostExecutor (hostStep "only" "steady" true)
    (fun _ => Action.done (.text "fine")) rfl
  have clock (world : Unit) : hostExecutor.collaborators.now world = .zero false := rfl
  simp only [runStep, handled, Executor.complete, bind, Action.andThen, Action.log, Executor.now,
    Action.done, clock, elapsedMs_zero, Action.ofExcept, pure]
  rfl

theorem isStorable_pricedLaunch (executionId : String) (state : RunState Unit MemoryStore) :
    (inMemory hostExecutor []).IsStorable (pricedLaunch executionId) state where
  payload := by
    change (Value.object [("price", .float oneAndHalf)]).isKept = true
    decide +kernel
  time := rfl
  duration := ⟨0, elapsedMs_zero, rfl⟩
  steps := by
    obtain ⟨start, begins⟩ : ∃ start, (inMemory hostExecutor []).Begins
        (pricedLaunch executionId) state
        ⟨[hostStep "only" "steady" true], "1.0", .null, [], [], []⟩ start := by
      obtain ⟨lines, prepared⟩ := (inMemory hostExecutor []).exists_prepare_eq_ok
        (pricedLaunch executionId) rfl (by decide)
      exact ⟨_, .mk rfl prepared⟩
    have only : runSteps hostExecutor executionId [hostStep "only" "steady" true] start = _ :=
      runSteps_of_done (Prod.ext (runStep_only start) rfl)
    intro step member
    rw [begins.played_eq.1] at member
    change step ∈ (runSteps hostExecutor executionId [hostStep "only" "steady" true] start).1.steps
      at member
    rw [only] at member
    obtain rfl : step = ⟨"only", "steady", .ok (.text "fine"), 0⟩ := by
      simpa [StepResult.isSuccess, Except.isOk, Except.toBool, Progress.following, runSteps,
        Progress.finished] using member
    refine ⟨rfl, ?_⟩
    rintro output ⟨⟩
    exact Value.isKept_text "fine"

theorem runEach_agrees_between_stores_of_two :
    let launches := [pricedLaunch "one", pricedLaunch "two"]
    hostExecutor.HandlersAreBlind ∧ (launches.map Launch.executionId).Nodup ∧
      (inMemory hostExecutor []).AreStorable launches ⟨[], (), []⟩ ∧
      ∃ record,
        memoryStore.get? "one"
            ((inMemory hostExecutor []).runEach launches ⟨[], (), []⟩).2.store = some record ∧
          tableStore.get? "one"
            ((inTable hostExecutor []).runEach launches ⟨[], (), []⟩).2.store =
              some { record with createdAt := record.createdAt.restored } := by
  intro launches
  have distinct : (launches.map Launch.executionId).Nodup := by decide
  have storable : (inMemory hostExecutor []).AreStorable launches ⟨[], (), []⟩ :=
    ⟨isStorable_pricedLaunch "one" _, isStorable_pricedLaunch "two" _, trivial⟩
  obtain ⟨_, _, alike⟩ :=
    runEach_agrees_between_stores handlersAreBlind_hostExecutor distinct storable
  exact ⟨handlersAreBlind_hostExecutor, distinct, storable,
    alike (pricedLaunch "one") List.mem_cons_self⟩

end

end Runner

end Automation
