import Automation.Proofs.Execution.Blindness
import Automation.Proofs.Execution.Escape
import Automation.Proofs.Execution.Plans

/-!
The rounds of a retry and of a loop.

A retry and a loop execute one list of steps again and again. Each such round starts from what the
round before left: a retry waits in between, and a loop binds the next item and its position. A
retry stops at the first round that does not fail, and at the last one that its plan allows; a loop
stops after its items, and at the first round that is not done.
-/

namespace Automation.Executor

variable {σ : Type} {executor : Executor σ} {step : Step} {state : State σ}

/-- One execution of a list of steps. -/
structure Round (σ : Type) where
  start : State σ
  outcome : Outcome (List StepEntry)
  after : State σ

/-- The state that rounds leave which began in a given state. -/
def leftBy (state : State σ) : List (Round σ) → State σ
  | [] => state
  | round :: rest => leftBy round.after rest

/-- Rounds of a body, one after the other. What a round starts in depends on its position, counted
from 0, and on the state that the rounds before it left. -/
structure AreInTurn (body : Action σ (List StepEntry)) (Starts : Nat → State σ → State σ → Prop)
    (state : State σ) (rounds : List (Round σ)) : Prop where
  executed : ∀ round ∈ rounds, body round.start = (round.outcome, round.after)
  starts : ∀ (k : Nat) (round : Round σ), rounds[k]? = some round →
    Starts k (leftBy state (rounds.take k)) round.start

namespace AreInTurn

variable {body : Action σ (List StepEntry)} {Starts Further : Nat → State σ → State σ → Prop}
  {start after : State σ} {rounds : List (Round σ)} {outcome : Outcome (List StepEntry)}

theorem nil : AreInTurn body Starts state [] where
  executed := nofun
  starts := nofun

theorem cons (executed : body start = (outcome, after)) (first : Starts 0 state start)
    (later : AreInTurn body (fun k => Starts (k + 1)) after rounds) :
    AreInTurn body Starts state (⟨start, outcome, after⟩ :: rounds) where
  executed := List.forall_mem_cons.mpr ⟨executed, later.executed⟩
  starts k round found := by
    cases k with
    | zero =>
        cases found
        exact first
    | succ k => exact later.starts k round found

/-- Only the first round depends on where the rounds began. -/
theorem imp (inTurn : AreInTurn body Starts state rounds) {began : State σ}
    (first : ∀ start, Starts 0 state start → Further 0 began start)
    (later : ∀ k left start, Starts (k + 1) left start → Further (k + 1) left start) :
    AreInTurn body Further began rounds where
  executed := inTurn.executed
  starts k round found := by
    have starts := inTurn.starts k round found
    cases k with
    | zero => exact first _ starts
    | succ k =>
        cases rounds with
        | nil => cases found
        | cons _ _ => exact later k _ _ starts

theorem mono (inTurn : AreInTurn body Starts state rounds)
    (weaker : ∀ k left start, Starts k left start → Further k left start) :
    AreInTurn body Further state rounds :=
  inTurn.imp (weaker 0 state) fun k => weaker (k + 1)

end AreInTurn

section Retry

variable {plan : RetryPlan}

/-- Where an attempt starts: in the variables that were left, and in the world that was left, after
a wait unless it is the first attempt or there is nothing to wait for. -/
structure IsAttempt (executor : Executor σ) (plan : RetryPlan) (k : Nat) (left start : State σ) :
    Prop where
  sameVariables : start.variables = left.variables
  waited : start.world =
    if 0 < k ∧ plan.backoff.isPositive = true then
      (executor.collaborators.sleep plan.backoff left.world).2
    else left.world

/-- Every wait of a plan comes to an end. -/
def WaitsEnd (executor : Executor σ) (plan : RetryPlan) : Prop :=
  plan.backoff.isPositive = true →
    ∀ world, (executor.collaborators.sleep plan.backoff world).1 = .done ()

theorem exists_pause_eq_done (waits : executor.WaitsEnd plan) (id : String) (number : Nat)
    (failure : Failure) (k : Nat) (state : State σ) :
    ∃ paused, executor.pause id plan number failure state = (.done (), paused) ∧
      executor.IsAttempt plan (k + 1) state paused := by
  rw [pause, Action.log_bind_apply]
  cases positive : plan.backoff.isPositive with
  | true =>
      exact ⟨_, Action.outside_eq (Prod.ext (waits positive state.world) rfl), rfl,
        by simp [positive]⟩
  | false => exact ⟨_, rfl, rfl, by simp [positive]⟩

/-- How the attempts of a retry end, by how the last of them ends. -/
def concluded (number : Nat) :
    Outcome (List StepEntry) → Outcome (Except Failure (Nat × List StepEntry))
  | .done entries => .done (.ok (number, entries))
  | .failed failure => .done (.error failure)
  | .cancelled => .cancelled

theorem exists_attempt_eq_concluded {body : Action σ (List StepEntry)}
    {outcome : Outcome (List StepEntry)} {after : State σ} (ended : body state = (outcome, after))
    (id : String) (left number : Nat) (stops : ∀ failure, outcome = .failed failure → left = 0) :
    ∃ reported : State σ, reported.scene = after.scene ∧
      executor.attempt id plan body left number state = (concluded number outcome, reported) := by
  rw [attempt]
  simp only [ended]
  cases outcome with
  | failed failure =>
      obtain rfl := stops failure rfl
      exact ⟨{ after with log := ⟨.warning,
        s!"Retry {id} attempt {number}/{plan.attempts} failed: {failure.message}"⟩ :: after.log },
        rfl, rfl⟩
  | _ => exact ⟨after, rfl, rfl⟩

/-- A body is attempted until it does not fail, and no more often than it may be. -/
theorem exists_attempts (waits : executor.WaitsEnd plan) (id : String)
    (body : Action σ (List StepEntry)) (left number : Nat) (state : State σ) :
    ∃ earlier last reported, AreInTurn body (executor.IsAttempt plan) state (earlier ++ [last]) ∧
      (∀ round ∈ earlier, ∃ failure, round.outcome = .failed failure) ∧
      earlier.length ≤ left ∧
      (∀ failure, last.outcome = .failed failure → earlier.length = left) ∧
      reported.scene = last.after.scene ∧
      executor.attempt id plan body left number state =
        (concluded (number + earlier.length) last.outcome, reported) := by
  have here (state : State σ) : executor.IsAttempt plan 0 state state := ⟨rfl, by simp⟩
  induction left generalizing number state with
  | zero =>
      have ended : body state = ((body state).1, (body state).2) := rfl
      obtain ⟨reported, shown, attempted⟩ :=
        exists_attempt_eq_concluded ended id 0 number fun _ _ => rfl
      exact ⟨[], ⟨state, _, _⟩, reported, .cons ended (here state) .nil, nofun, Nat.le_refl _,
        fun _ _ => rfl, shown, attempted⟩
  | succ left inductionHypothesis =>
      cases ended : body state with
      | mk outcome after =>
          cases outcome with
          | failed failure =>
              obtain ⟨paused, pauses, next⟩ := exists_pause_eq_done waits id number failure 0 after
              obtain ⟨earlier, last, reported, inTurn, failed, atMost, exhausted, shown,
                attempted⟩ := inductionHypothesis (number + 1) paused
              -- The next attempt starts where the pause ended, so it counts as the second one here.
              have further : AreInTurn body (fun k => executor.IsAttempt plan (k + 1)) after
                  (earlier ++ [last]) := by
                apply inTurn.imp
                · rintro start ⟨sameVariables, sameWorld⟩
                  exact ⟨sameVariables.trans next.sameVariables,
                    by simpa using sameWorld.trans next.waited⟩
                · intro k left start later
                  exact ⟨later.sameVariables, by simpa using later.waited⟩
              refine ⟨⟨state, .failed failure, after⟩ :: earlier, last, reported,
                .cons ended (here state) further, ?_, ?_, ?_, shown, ?_⟩
              · exact List.forall_mem_cons.mpr ⟨⟨failure, rfl⟩, failed⟩
              · simpa using atMost
              · simpa using exhausted
              · rw [attempt_of_failed ended, Action.bind_of_done pauses, attempted,
                  List.length_cons, Nat.add_comm earlier.length, Nat.add_assoc]
          | _ =>
              obtain ⟨reported, shown, attempted⟩ :=
                exists_attempt_eq_concluded ended id (left + 1) number nofun
              exact ⟨[], ⟨state, _, after⟩, reported, .cons ended (here state) .nil, nofun,
                Nat.zero_le _, nofun, shown, attempted⟩

/-- How a retry ends once its attempts are used up: as its recovery does, and without a recovery
with an error whose cause is the failure of the last attempt. -/
structure EndsExhausted (executor : Executor σ) (step : Step) (plan : RetryPlan) (state : State σ)
    (failure : Failure) (after : State σ) : Prop where
  ofRecovery : step.recovery ≠ [] → ∃ start outcome left, start.scene = after.scene ∧
    executor.executeAll step.recovery start = (outcome, left) ∧
    executor.EndsAs step state
      ((fun entries => .object [("attempts", .int plan.attempts), ("recovered", .bool true),
        ("results", entriesValue entries)]) <$> outcome) left
  withoutRecovery : step.recovery = [] → executor.EndsAs step state
    (.failed (.engine (.maxRetriesExceeded
      s!"Step {step.id} failed after {plan.attempts} attempts: {failure.message}"
      (.int plan.attempts) (some failure)))) after

/-- The rounds of a retry: every one but the last fails, and there are no more than its plan allows.
The retry ends by how the last one ends. -/
def Retries (executor : Executor σ) (step : Step) (plan : RetryPlan) (state : State σ) : Prop :=
  ∃ earlier last, AreInTurn (executor.executeAll step.attempted) (executor.IsAttempt plan)
      (opened step.header state) (earlier ++ [last]) ∧
    (∀ round ∈ earlier, ∃ failure, round.outcome = .failed failure) ∧
    (earlier.length + 1 : Int) ≤ plan.attempts ∧
    match last.outcome with
    | .done entries => executor.EndsAs step state
        (.done (.object [("attempts", .int (earlier.length + 1)),
          ("results", entriesValue entries)])) last.after
    | .failed failure =>
        (earlier.length + 1 : Int) = plan.attempts ∧
          executor.EndsExhausted step plan state failure last.after
    | .cancelled => executor.EndsAs step state .cancelled last.after

theorem RunsAs.endsExhausted (clock : executor.ClockIsFinite) (runs : executor.RunsAs step .retry)
    {failure : Failure} {after reported : State σ} (shown : reported.scene = after.scene)
    (handled : executor.handle step .retry (opened step.header state) =
      executor.afterAttempts step plan (.error failure) reported) :
    executor.EndsExhausted step plan state failure after where
  ofRecovery nonempty := by
    refine ⟨{ reported with
      log := ⟨.info, s!"Retry {step.id} exhausted, running recovery steps"⟩ :: reported.log },
      _, _, shown, rfl, runs.endsAs clock ?_⟩
    rw [handled, afterAttempts_of_recovery (by simpa using nonempty)]
    exact Action.bind_pure_eq rfl
  withoutRecovery empty := by
    refine EndsAs.congr (runs.endsAs clock ?_) shown
    rw [handled, afterAttempts, empty]
    rfl

theorem retry_executes_until_done (clock : executor.ClockIsFinite)
    (runs : executor.RunsAs step .retry) (planned : executor.planOf step = .ok plan)
    (waits : executor.WaitsEnd plan) (state : State σ) : executor.Retries step plan state := by
  obtain ⟨earlier, last, reported, inTurn, failed, atMost, exhausted, shown, attempted⟩ :=
    exists_attempts waits step.id (executor.executeAll step.attempted) (plan.attempts.toNat - 1) 1
      (opened step.header state)
  have allowed := (attempts_of_planOf planned).2
  have handled := congrFun (handle_retry planned) (opened step.header state)
  refine ⟨earlier, last, inTurn, failed, by omega, ?_⟩
  cases ended : last.outcome with
  | done entries =>
      rw [ended, Nat.add_comm] at attempted
      exact (runs.endsAs clock (handled.trans (Action.bind_of_done attempted))).congr shown
  | failed failure =>
      rw [ended] at attempted
      have all := exhausted failure ended
      exact ⟨by omega,
        runs.endsExhausted clock shown (handled.trans (Action.bind_of_done attempted))⟩
  | cancelled =>
      rw [ended] at attempted
      exact (runs.endsAs clock (handled.trans (Action.bind_of_cancelled attempted))).congr shown

section

/-- Three attempts of a step that nothing runs, two seconds apart. -/
def patientRetry : Step :=
  .mk (namedHeader "again" "retry" .null []) none none
    (some ⟨.int 3, .int 2,
      [.mk (namedHeader "lost" "teleport" .null []) none none none none none none], []⟩)
    none none none

theorem retry_executes_until_done_of_patientRetry :
    let plan : RetryPlan := ⟨3, Binary64.ofNat 2⟩
    let state : State Unit := ⟨⟨[]⟩, [], ()⟩
    let lost : Failure := .engine (.unknownStepType (.text "teleport"))
    cancellingExecutor.ClockIsFinite ∧ cancellingExecutor.RunsAs patientRetry .retry ∧
      cancellingExecutor.planOf patientRetry = .ok plan ∧ cancellingExecutor.WaitsEnd plan ∧
      (∃ rounds, AreInTurn (cancellingExecutor.executeAll patientRetry.attempted)
        (cancellingExecutor.IsAttempt plan) (opened patientRetry.header state) rounds ∧
        rounds.length = 3) ∧
      (cancellingExecutor.execute patientRetry state).1 =
        .failed (.engine (.maxRetriesExceeded
          s!"Step {patientRetry.id} failed after {plan.attempts} attempts: {lost.message}"
          (.int 3) (some lost))) := by
  intro plan state lost
  have clock : cancellingExecutor.ClockIsFinite := isReliable_cancellingExecutor.clock
  have runs : cancellingExecutor.RunsAs patientRetry .retry := ⟨rfl, rfl⟩
  have planned : cancellingExecutor.planOf patientRetry = .ok plan := rfl
  have waits : cancellingExecutor.WaitsEnd plan := fun _ _ => rfl
  obtain ⟨earlier, last, inTurn, failed, atMost, ends⟩ :=
    retry_executes_until_done clock runs planned waits state
  have fails : last.outcome = .failed lost :=
    (congrArg Prod.fst (inTurn.executed last (by simp))).symm
  rw [fails] at ends
  obtain ⟨all, exhausted⟩ := ends
  have length : (earlier ++ [last]).length = 3 := by
    rw [List.length_append, List.length_singleton]
    have attempts : plan.attempts = 3 := rfl
    omega
  exact ⟨clock, runs, planned, waits, ⟨_, inTurn, length⟩,
    (exhausted.withoutRecovery rfl).outcome_eq rfl⟩

end

end Retry

section Loop

/-- An outcome without a result, where another result is wanted. -/
inductive StopsAs {α β : Type} : Outcome α → Outcome β → Prop where
  | failed (failure : Failure) : StopsAs (.failed failure) (.failed failure)
  | cancelled : StopsAs .cancelled .cancelled

theorem StopsAs.exists_bind_pure_eq {α β γ : Type} {stopped : Outcome α} {outcome : Outcome β}
    (stops : StopsAs stopped outcome) {action : Action σ β} {after : State σ}
    (ended : action state = (outcome, after)) (f : β → γ) :
    ∃ further, StopsAs stopped further ∧
      (action >>= fun result => pure (f result)) state = (further, after) := by
  cases stops with
  | failed failure => exact ⟨_, .failed failure, Action.bind_of_failed ended⟩
  | cancelled => exact ⟨_, .cancelled, Action.bind_of_cancelled ended⟩

/-- Where an iteration starts: with its item and its position bound, and else in what was left. -/
structure IsIteration (items : List Value) (k : Nat) (left start : State σ) : Prop where
  within : k < items.length
  item : start.variables.get? itemName = items[k]?
  position : start.variables.get? indexName = some (.int k)
  others : ∀ name, ¬IsLoopName name → start.variables.bound? name = left.variables.bound? name
  sameWorld : start.world = left.world

theorem isIteration_bound {items : List Value} {k : Nat} {item : Value}
    (found : items[k]? = some item) (left : State σ) :
    IsIteration items k left (bound k item left) where
  within := (List.getElem?_eq_some_iff.mp found).1
  item := by
    have apart : Value.text itemName ≠ .text indexName := by simp [itemName, indexName]
    rw [found, Variables.get?_eq_bound?, bound, Variables.bound?_set_of_ne apart,
      Variables.bound?_set_self]
  position := Variables.bound?_set_self
  others name further := bound?_bound further
  sameWorld := rfl

theorem exists_visits (body : Action σ (List StepEntry)) (position : Nat) (items : List Value)
    (state : State σ) :
    let Starts (k : Nat) (left start : State σ) :=
      ∃ item, items[k]? = some item ∧ start = bound (position + k) item left
    (∃ rounds, ∃ results : List (List StepEntry), AreInTurn body Starts state rounds ∧
      rounds.map Round.outcome = results.map .done ∧ results.length = items.length ∧
      visitItems body position items state =
        (.done (results.map entriesValue), leftBy state rounds)) ∨
    ∃ earlier last outcome, AreInTurn body Starts state (earlier ++ [last]) ∧
      (∀ round ∈ earlier, ∃ entries, round.outcome = .done entries) ∧
      StopsAs last.outcome outcome ∧
      visitItems body position items state = (outcome, last.after) := by
  intro Starts
  induction items generalizing position state with
  | nil => exact .inl ⟨[], [], .nil, rfl, rfl, rfl⟩
  | cons item rest inductionHypothesis =>
      have first : Starts 0 state (bound position item state) := ⟨item, rfl, rfl⟩
      rw [visitItems_cons]
      cases ended : body (bound position item state) with
      | mk outcome after =>
          cases outcome with
          | done entries =>
              have shifts (k : Nat) (left start : State σ) :
                  (∃ item, rest[k]? = some item ∧ start = bound (position + 1 + k) item left) →
                    Starts (k + 1) left start := by
                rintro ⟨item, found, rfl⟩
                exact ⟨item, found, by rw [Nat.add_assoc, Nat.add_comm 1]⟩
              rw [Action.bind_of_done ended]
              rcases inductionHypothesis (position + 1) after with
                ⟨rounds, results, inTurn, outcomes, sameLength, visited⟩ |
                  ⟨earlier, last, outcome, inTurn, done, stops, visited⟩
              · refine .inl ⟨⟨_, .done entries, after⟩ :: rounds, entries :: results,
                  .cons ended first (inTurn.mono shifts), ?_, ?_, ?_⟩
                · rw [List.map_cons, outcomes, List.map_cons]
                · rw [List.length_cons, sameLength, List.length_cons]
                · exact Action.bind_of_done visited
              · obtain ⟨further, stopsToo, visited⟩ :=
                  stops.exists_bind_pure_eq visited (entriesValue entries :: ·)
                exact .inr ⟨⟨_, .done entries, after⟩ :: earlier, last, further,
                  .cons ended first (inTurn.mono shifts),
                  List.forall_mem_cons.mpr ⟨⟨entries, rfl⟩, done⟩, stopsToo, visited⟩
          | failed failure =>
              exact .inr ⟨[], ⟨_, _, after⟩, _, .cons ended first .nil, nofun, .failed failure,
                Action.bind_of_failed ended⟩
          | cancelled =>
              exact .inr ⟨[], ⟨_, _, after⟩, _, .cons ended first .nil, nofun, .cancelled,
                Action.bind_of_cancelled ended⟩

/-- The rounds of a loop: one for every item, or none after the first that is not done. -/
def Visits (executor : Executor σ) (step : Step) (items : List Value) (state : State σ) : Prop :=
  (∃ rounds, ∃ results : List (List StepEntry),
    AreInTurn (executor.executeAll step.iterated) (IsIteration items) (opened step.header state)
      rounds ∧
    rounds.map Round.outcome = results.map .done ∧ results.length = items.length ∧
    executor.EndsAs step state
      (.done (.object [("iterations", .int items.length),
        ("results", .list (results.map entriesValue))]))
      (restored state.variables (leftBy (opened step.header state) rounds))) ∨
  ∃ earlier last outcome,
    AreInTurn (executor.executeAll step.iterated) (IsIteration items) (opened step.header state)
      (earlier ++ [last]) ∧
    (∀ round ∈ earlier, ∃ entries, round.outcome = .done entries) ∧
    StopsAs last.outcome outcome ∧
    executor.EndsAs step state outcome (restored state.variables last.after)

theorem loop_executes_for_every_item (clock : executor.ClockIsFinite)
    (runs : executor.RunsAs step .loop) {items : List Value}
    (resolved : resolveSource state.variables step.itemSource = .ok (.list items)) :
    executor.Visits step items state := by
  have starts (k : Nat) (left start : State σ) :
      (∃ item, items[k]? = some item ∧ start = bound (0 + k) item left) →
        IsIteration items k left start := by
    rintro ⟨item, found, rfl⟩
    rw [Nat.zero_add]
    exact isIteration_bound found left
  rcases exists_visits (executor.executeAll step.iterated) 0 items (opened step.header state) with
    ⟨rounds, results, inTurn, outcomes, sameLength, visited⟩ |
      ⟨earlier, last, outcome, inTurn, done, stops, visited⟩
  · refine .inl ⟨rounds, results, inTurn.mono starts, outcomes, sameLength,
      runs.endsAs clock ?_⟩
    rw [handle_loop (opened step.header state) resolved]
    exact Action.bind_of_done (Action.ensure_eq visited)
  · obtain ⟨further, stopsToo, ended⟩ :=
      stops.exists_bind_pure_eq (Action.ensure_eq visited) fun results =>
        Value.object [("iterations", .int items.length), ("results", .list results)]
    exact .inr ⟨earlier, last, further, inTurn.mono starts, done, stopsToo,
      runs.endsAs clock ((handle_loop (opened step.header state) resolved).trans ended)⟩

theorem loop_executes_for_every_item_of_nestedLoops :
    let state : State Unit := ⟨⟨[(.text itemName, .text "mine")]⟩, [], ()⟩
    cancellingExecutor.ClockIsFinite ∧ cancellingExecutor.RunsAs nestedLoops .loop ∧
      resolveSource state.variables nestedLoops.itemSource = .ok (.list [.int 1, .int 2]) ∧
      cancellingExecutor.Visits nestedLoops [.int 1, .int 2] state := by
  intro state
  have clock : cancellingExecutor.ClockIsFinite := isReliable_cancellingExecutor.clock
  have runs : cancellingExecutor.RunsAs nestedLoops .loop := ⟨rfl, rfl⟩
  have resolved : resolveSource state.variables nestedLoops.itemSource =
      .ok (.list [.int 1, .int 2]) := rfl
  exact ⟨clock, runs, resolved, loop_executes_for_every_item clock runs resolved⟩

end Loop

end Automation.Executor
