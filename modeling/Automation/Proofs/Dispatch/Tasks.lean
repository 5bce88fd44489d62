import Automation.Proofs.Dispatch.Session
import Mathlib.Data.List.Nodup

/-!
The tasks of a session.

Each run that calls fire has its own task. It has not started, is going on or has ended, and its
task is outstanding until its done callback. So a wait for all runs is one for every run that was
fired before and has not ended.
-/

namespace Automation

open SessionEvent

variable {τ : Type}

theorem moved_perm {α : Type} (earlier later others : List α) (moved : α) :
    (earlier ++ moved :: later ++ others).Perm (earlier ++ later ++ (others ++ [moved])) := by
  calc (earlier ++ moved :: later ++ others).Perm
        (moved :: (earlier ++ later) ++ others) := List.perm_middle.append_right _
    List.Perm _ (earlier ++ later ++ others ++ [moved]) := (List.perm_append_singleton _ _).symm
    _ = earlier ++ later ++ (others ++ [moved]) := List.append_assoc _ _ _

/-- What has become of the tasks of a session, in which calls fired some runs of which some have
finished. -/
structure Session.HasTasks (session : Session τ) (automations : Repository Blueprint)
    (events : List SessionEvent) (fires finished : List FiredRun) : Prop where
  registry : session.dispatcher.automations =
    ((Dispatcher.start automations).answerAll (calls events)).automations
  isFired : Fires automations (calls events) fires
  created : session.dispatcher.created = fires.length
  runs : fires.Perm (session.unstarted ++ (session.going.map StartedRun.fired ++ finished))
  outstanding : session.dispatcher.tasks.Perm (session.unstarted.map FiredRun.number ++
    (session.going.map (fun run => run.fired.number) ++ session.callbacks))
  ends : session.ends.map Prod.fst = finished.map FiredRun.number
  due : ∀ number ∈ session.callbacks, number ∈ session.ends.map Prod.fst

/-- Fired runs are numbered in their order. -/
theorem Fires.numbers {automations : Repository Blueprint} {calls : List DispatchCall}
    {runs : List FiredRun} (fires : Fires automations calls runs) :
    runs.map FiredRun.number = List.range runs.length := by
  induction fires with
  | nothing => rfl
  | fired triggerData earlier registered inductionHypothesis =>
      rw [List.map_append, inductionHypothesis, List.length_append, List.length_singleton,
        List.range_succ]
      rfl
  | refused => assumption
  | other => assumption

namespace Session.HasTasks

variable {session : Session τ} {automations : Repository Blueprint} {events : List SessionEvent}
  {fires finished : List FiredRun}

theorem start (automations : Repository Blueprint) (store : τ) :
    (Session.start automations store).HasTasks automations [] [] [] where
  registry := rfl
  isFired := .nothing
  created := rfl
  runs := .nil
  outstanding := .nil
  ends := rfl
  due := nofun

theorem called (tasks : session.HasTasks automations events fires finished)
    (call : DispatchCall) :
    HasTasks { session with
        dispatcher := session.dispatcher.answer call
        unstarted := session.unstarted ++ (session.dispatcher.fired? call).toList }
      automations (events ++ [.called call])
      (fires ++ (session.dispatcher.fired? call).toList) finished := by
  have moreCalls : calls (events ++ [.called call]) = calls events ++ [call] := calls_append _ _
  obtain ⟨created, outstanding⟩ := session.dispatcher.tasks_answer call
  constructor
  · rw [moreCalls, Dispatcher.answerAll_concat]
    exact Dispatcher.automations_answer_congr tasks.registry
  · rw [moreCalls]
    exact Dispatcher.fires_concat tasks.isFired tasks.registry tasks.created call
  · rw [created, tasks.created, List.length_append]
  · refine (tasks.runs.append_right _).trans ?_
    rw [List.append_assoc, List.append_assoc session.unstarted]
    exact List.perm_append_comm.append_left _
  · dsimp only
    rw [outstanding, List.map_append]
    refine (tasks.outstanding.append_right _).trans ?_
    rw [List.append_assoc, List.append_assoc (session.unstarted.map FiredRun.number)]
    exact List.perm_append_comm.append_left _
  · exact tasks.ends
  · exact tasks.due

theorem started {earlier later : List FiredRun} {fired : FiredRun} {identity : RunIdentity}
    {tick : Nat} {store : τ} (unstarted : session.unstarted = earlier ++ fired :: later)
    (tasks : session.HasTasks automations events fires finished) :
    HasTasks { session with
        unstarted := earlier ++ later
        going := session.going ++ [⟨fired, identity, tick, session.store, []⟩]
        store := store }
      automations (events ++ [.started earlier.length identity tick]) fires finished := by
  have sameCalls := calls_concat_of_none (.started earlier.length identity tick) events rfl
  obtain ⟨registry, isFired, created, runs, outstanding, ends, due⟩ := tasks
  rw [← sameCalls] at registry isFired
  refine ⟨registry, isFired, created, runs.trans ?_, outstanding.trans ?_, ends, due⟩
  · rw [unstarted, List.map_append]
    simpa using (moved_perm earlier later (session.going.map StartedRun.fired) fired).append_right
      finished
  · rw [unstarted, List.map_append, List.map_append, List.map_append]
    simpa using (moved_perm (earlier.map FiredRun.number) (later.map FiredRun.number)
      (session.going.map fun run => run.fired.number) fired.number).append_right session.callbacks

theorem replied {earlier later : List (StartedRun τ)} {run : StartedRun τ} {reply : Reply}
    (going : session.going = earlier ++ run :: later)
    (tasks : session.HasTasks automations events fires finished) :
    HasTasks { session with going := earlier ++ run.replied [reply] :: later }
      automations (events ++ [.replied earlier.length reply]) fires finished := by
  have sameCalls := calls_concat_of_none (.replied earlier.length reply) events rfl
  obtain ⟨registry, isFired, created, runs, outstanding, ends, due⟩ := tasks
  rw [← sameCalls] at registry isFired
  rw [going] at runs outstanding
  refine ⟨registry, isFired, created, ?_, ?_, ends, due⟩
  · simpa [StartedRun.replied] using runs
  · simpa [StartedRun.replied] using outstanding

theorem ended {earlier later : List (StartedRun τ)} {run : StartedRun τ}
    {ending : Outcome ExecutionResult} {store : τ}
    (going : session.going = earlier ++ run :: later)
    (tasks : session.HasTasks automations events fires finished) :
    HasTasks { session with
        going := earlier ++ later
        ends := session.ends ++ [(run.fired.number, ending)]
        callbacks := session.callbacks ++ [run.fired.number]
        store := store }
      automations (events ++ [.ended earlier.length]) fires (finished ++ [run.fired]) := by
  have sameCalls := calls_concat_of_none (.ended earlier.length) events rfl
  obtain ⟨registry, isFired, created, runs, outstanding, ends, due⟩ := tasks
  rw [← sameCalls] at registry isFired
  rw [going] at runs outstanding
  refine ⟨registry, isFired, created, runs.trans (.append_left _ ?_),
    outstanding.trans (.append_left _ ?_), ?_, ?_⟩
  · simpa using moved_perm (earlier.map StartedRun.fired) (later.map StartedRun.fired) finished
      run.fired
  · simpa using moved_perm (earlier.map fun run => run.fired.number)
      (later.map fun run => run.fired.number) session.callbacks run.fired.number
  · rw [List.map_append, List.map_append, ends]
    rfl
  · dsimp only
    rw [List.map_append]
    intro number member
    rcases List.mem_append.mp member with before | last
    · exact List.mem_append_left _ (due number before)
    · exact List.mem_append_right _ last

theorem discarded {earlier later : List Nat} {number : Nat}
    (callbacks : session.callbacks = earlier ++ number :: later)
    (tasks : session.HasTasks automations events fires finished) :
    HasTasks { session with
        dispatcher := session.dispatcher.discard number
        callbacks := earlier ++ later }
      automations (events ++ [.discarded earlier.length]) fires finished := by
  have sameCalls := calls_concat_of_none (.discarded earlier.length) events rfl
  obtain ⟨registry, isFired, created, runs, outstanding, ends, due⟩ := tasks
  rw [← sameCalls] at registry isFired
  rw [callbacks] at outstanding due
  refine ⟨registry, isFired, created, runs, ?_, ends, ?_⟩
  · rw [← List.append_assoc, ← List.append_assoc] at outstanding
    have erased := (outstanding.trans List.perm_middle).erase number
    rw [List.erase_cons_head, List.append_assoc, List.append_assoc] at erased
    exact erased
  · intro other member
    exact due other (List.perm_middle.mem_iff.mpr (List.mem_cons_of_mem _ member))

/-- The number of outstanding tasks counts the runs that have not started, those that are going on,
and those whose done callback is still due. -/
theorem pending_eq (tasks : session.HasTasks automations events fires finished) :
    session.dispatcher.pending =
      session.unstarted.length + session.going.length + session.callbacks.length := by
  rw [Dispatcher.pending, tasks.outstanding.length_eq]
  simp [Nat.add_assoc]

theorem nodup_fires (tasks : session.HasTasks automations events fires finished) :
    (fires.map FiredRun.number).Nodup := by
  rw [tasks.isFired.numbers]
  exact List.nodup_range

/-- A run that was fired has an outstanding task, or its task has ended. -/
theorem outstanding_or_ended (tasks : session.HasTasks automations events fires finished)
    {fired : FiredRun} (member : fired ∈ fires) :
    fired.number ∈ session.dispatcher.tasks ∨ fired.number ∈ session.ends.map Prod.fst := by
  have places := tasks.runs.mem_iff.mp member
  rw [tasks.outstanding.mem_iff, tasks.ends]
  rcases List.mem_append.mp places with unstarted | begun
  · exact .inl (List.mem_append_left _ (List.mem_map_of_mem unstarted))
  · rcases List.mem_append.mp begun with going | ended
    · obtain ⟨run, isGoing, rfl⟩ := List.mem_map.mp going
      exact .inl (List.mem_append_right _ (List.mem_append_left _ (List.mem_map_of_mem
        (f := fun run : StartedRun τ => run.fired.number) isGoing)))
    · exact .inr (List.mem_map_of_mem ended)

/-- A task that has ended is that of a run that has finished. -/
theorem mem_finished_of_ended (tasks : session.HasTasks automations events fires finished)
    {fired : FiredRun} (member : fired ∈ fires)
    (ended : fired.number ∈ session.ends.map Prod.fst) : fired ∈ finished := by
  rw [tasks.ends] at ended
  obtain ⟨other, isFinished, same⟩ := List.mem_map.mp ended
  have alsoFired : other ∈ fires := tasks.runs.mem_iff.mpr
    (List.mem_append_right _ (List.mem_append_right _ isFinished))
  rwa [List.inj_on_of_nodup_map tasks.nodup_fires alsoFired member same] at isFinished

theorem exists_step {host : Host τ} {event : SessionEvent} {after : Session τ}
    (tasks : session.HasTasks automations events fires finished)
    (step : host.Step session event after) :
    ∃ fires finished, after.HasTasks automations (events ++ [event]) fires finished := by
  cases step with
  | called call => exact ⟨_, _, tasks.called call⟩
  | started identity tick unstarted taken => exact ⟨_, _, tasks.started unstarted⟩
  | replied reply going waiting => exact ⟨_, _, tasks.replied going⟩
  | ended going ready measured taken => exact ⟨_, _, tasks.ended going⟩
  | endedUnmeasured going ready unmeasured => exact ⟨_, _, tasks.ended going⟩
  | discarded callbacks => exact ⟨_, _, tasks.discarded callbacks⟩

end Session.HasTasks

/-- Each session that events lead to from the start has such tasks. -/
theorem Host.Leads.exists_tasks {host : Host τ} {automations : Repository Blueprint} {empty : τ}
    {events : List SessionEvent} {session : Session τ}
    (leads : host.Leads (.start automations empty) events session) :
    ∃ fires finished, session.HasTasks automations events fires finished := by
  induction leads with
  | nothing => exact ⟨_, _, .start automations empty⟩
  | more earlier step inductionHypothesis =>
      obtain ⟨_, _, tasks⟩ := inductionHypothesis
      exact tasks.exists_step step

end Automation
