import Automation.Proofs.Execution.Composition
import Automation.Proofs.Variables.Resolution

/-!
What a step runs into by itself, apart from the errors of steps.

`Slips` lists these faults for each kind of step. All of them lie in what a step computes from its
configuration and the variables, before it runs a step inside it or turns to a collaborator. The one
fault of a step that comes later is a response whose body has no text.
-/

namespace Automation

/-- An integer beyond the double precision numbers. -/
def Value.IsTooLarge (value : Value) : Prop :=
  ∃ number, value = .int number ∧ Binary64.ofInt? number = none

/-- What reading a value as a number runs into: the number is too large, or there is none, and the
value is not printed in the error that says so. -/
inductive Value.Misreads (value : Value) : Failure → Prop where
  | tooLarge (isTooLarge : value.IsTooLarge) : Misreads value .integerTooLarge
  | unprintable (noNumber : value.toDouble? = .ok none) (notPrinted : value.isPrintable = false) :
      Misreads value .unprintableInteger

theorem Value.toDouble?_eq_error_iff {value : Value} {failure : Failure} :
    value.toDouble? = .error failure ↔ value.IsTooLarge ∧ failure = .integerTooLarge := by
  cases value with
  | int number =>
      cases fits : Binary64.ofInt? number <;> simp [toDouble?, IsTooLarge, fits, eq_comm]
  | _ => simp [toDouble?, IsTooLarge]

theorem Value.toInteger?_eq_error_iff {value : Value} {failure : Failure} :
    value.toInteger? = .error failure ↔
      (∃ negative, value = .float (.infinite negative)) ∧ failure = .infiniteInteger := by
  cases value with
  | float number => cases number <;> simp [toInteger?, eq_comm]
  | _ => simp [toInteger?]

theorem Value.Misreads.isStepError_eq {value : Value} {failure : Failure}
    (misreads : value.Misreads failure) : failure.isStepError = false := by
  cases misreads <;> rfl

namespace Executor

variable {σ : Type} {executor : Executor σ} {step : Step} {kind : StepType} {scope : Variables}
  {settings : Settings} {failure : Failure} {config : Fields} {state : State σ}

def attemptsOf (executor : Executor σ) (step : Step) : Value :=
  (((step.retry.map RetryBlock.maxAttempts).getD .null).orElse
    (Fields.valueOf "max_attempts" step.config)).orElse
      (.int executor.settings.defaultRetryAttempts)

def backoffOf (step : Step) : Value :=
  (((step.retry.map RetryBlock.backoffSeconds).getD .null).orElse
    (Fields.valueOf "backoff_seconds" step.config)).orElse (.int 0)

/-- What describing a request runs into, in the order in which its parts are described: a method
that is not printed, headers that are no object, a time limit that is misread, a header whose name
is not printed, and headers that are not printed in the line of the log that announces them. -/
inductive Misdescribes (settings : Settings) (config : Fields) : Failure → Prop where
  | method (notPrinted : (Fields.valueOf "method" config).isPrintable = false) :
      Misdescribes settings config .unprintableInteger
  | headers (printed : (Fields.valueOf "method" config).isPrintable = true)
      (given : (Fields.valueOf "headers" config).truthy = true)
      (noObject : (Fields.valueOf "headers" config).isObject = false) :
      Misdescribes settings config (.notAnObject (Fields.valueOf "headers" config).kind)
  | timeout {configured : Bindings} {seconds : Value} {failure : Failure}
      (printed : (Fields.valueOf "method" config).isPrintable = true)
      (headed : headersOf config = .ok configured)
      (written : Entries.get? "timeout_seconds" config = some seconds)
      (misreads : seconds.Misreads failure) : Misdescribes settings config failure
  | names {configured : Bindings} {timeout : Http.Timeout}
      (printed : (Fields.valueOf "method" config).isPrintable = true)
      (headed : headersOf config = .ok configured)
      (timed : timeoutOf settings config = .ok timeout)
      (notPrinted : ∃ header ∈ configured, header.1.isPrintable = false) :
      Misdescribes settings config .unprintableInteger
  | announced {configured : Bindings} {timeout : Http.Timeout} {headers : Fields}
      (printed : (Fields.valueOf "method" config).isPrintable = true)
      (headed : headersOf config = .ok configured)
      (timed : timeoutOf settings config = .ok timeout)
      (named : nameHeaders configured = .ok headers)
      (notPrinted : (Value.object (Logging.redact headers)).isPrintable = false) :
      Misdescribes settings config .unprintableInteger

/-- What a step of a kind runs into by itself. -/
inductive Slips (executor : Executor σ) (step : Step) (scope : Variables) :
    StepType → Failure → Prop where
  | configuration {kind : StepType} {failure : Failure}
      (resolves : kind ∈ [.apiCall, .agentCall, .webhook, .delay])
      (unfillable : scope.resolveFields step.config = .error failure) :
      Slips executor step scope kind failure
  | request {kind : StepType} {config : Fields} {url : String} {failure : Failure}
      (requests : kind ∈ [.apiCall, .webhook])
      (resolved : scope.resolveFields step.config = .ok config)
      (addressed : requireUrl step.header config = .ok url)
      (misdescribes : Misdescribes executor.settings config failure) :
      Slips executor step scope kind failure
  | prompt {config : Fields} {failure : Failure}
      (resolved : scope.resolveFields step.config = .ok config)
      (invokes : executor.collaborators.agent.isSome = true)
      (unfillable : writtenPrompt scope config step.header.agentCall = .error failure) :
      Slips executor step scope .agentCall failure
  | unprintedPrompt {config : Fields} {prompt : Value}
      (resolved : scope.resolveFields step.config = .ok config)
      (invokes : executor.collaborators.agent.isSome = true)
      (written : writtenPrompt scope config step.header.agentCall = .ok prompt)
      (notPrinted : prompt.isPrintable = false) :
      Slips executor step scope .agentCall .unprintableInteger
  | seconds {config : Fields} {written seconds : Value}
      (resolved : scope.resolveFields step.config = .ok config)
      (noDuration : Entries.get? "duration" config = none)
      (held : Entries.get? "duration_seconds" (step.header.delay.getD []) = some written)
      (found : scope.resolve written = .ok seconds) (tooLarge : seconds.IsTooLarge) :
      Slips executor step scope .delay .integerTooLarge
  | unprintedSeconds {config : Fields} {written : Value}
      (resolved : scope.resolveFields step.config = .ok config)
      (noDuration : Entries.get? "duration" config = none)
      (held : Entries.get? "duration_seconds" (step.header.delay.getD []) = some written)
      (noNumber : ∀ seconds, scope.resolve written = .ok seconds → seconds.toDouble? = .ok none)
      (notPrinted : written.isPrintable = false) :
      Slips executor step scope .delay .unprintableInteger
  | duration {config : Fields} {duration : Value} {failure : Failure}
      (resolved : scope.resolveFields step.config = .ok config)
      (lasts : delayOf executor.settings scope step.header config = .ok duration)
      (misreads : duration.Misreads failure) : Slips executor step scope .delay failure
  | attempts {negative : Bool}
      (endless : executor.attemptsOf step = .float (.infinite negative)) :
      Slips executor step scope .retry .infiniteInteger
  | backoff {attempts : Int} (counted : (executor.attemptsOf step).toInteger? = .ok (some attempts))
      (tooLarge : (backoffOf step).IsTooLarge) :
      Slips executor step scope .retry .integerTooLarge
  | source {failure : Failure}
      (unfillable : resolveSource scope step.itemSource = .error failure) :
      Slips executor step scope .loop failure
  | unprintedSource {found : Value} (resolved : resolveSource scope step.itemSource = .ok found)
      (noList : ∀ items, found ≠ .list items) (notPrinted : step.itemSource.isPrintable = false) :
      Slips executor step scope .loop .unprintableInteger

theorem Misdescribes.isStepError_eq (misdescribes : Misdescribes settings config failure) :
    failure.isStepError = false := by
  cases misdescribes with
  | timeout _ _ _ misreads => exact misreads.isStepError_eq
  | method | headers | names | announced => rfl

theorem failsOnly_writtenPrompt (scope : Variables) (config : Fields) (call : Option AgentCall) :
    FailsOnly Failure.IsUnfillable (writtenPrompt scope config call) := by
  unfold writtenPrompt
  dsimp only
  split
  · exact scope.failsOnly_resolve _
  · exact .ok _

theorem Slips.isStepError_eq (slips : executor.Slips step scope kind failure) :
    failure.isStepError = false := by
  cases slips with
  | configuration _ unfillable =>
      exact (scope.failsOnly_resolveFields _ _ unfillable).isStepError_eq
  | request _ _ _ misdescribes => exact misdescribes.isStepError_eq
  | prompt _ _ unfillable => exact (failsOnly_writtenPrompt _ _ _ _ unfillable).isStepError_eq
  | duration _ _ misreads => exact misreads.isStepError_eq
  | source unfillable => exact (scope.failsOnly_resolveSource _ _ unfillable).isStepError_eq
  | unprintedPrompt | seconds | unprintedSeconds | attempts | backoff | unprintedSource => rfl

theorem methodOf_eq_error_iff {default : String} :
    methodOf config default = .error failure ↔
      (Fields.valueOf "method" config).isPrintable = false ∧ failure = .unprintableInteger := by
  unfold methodOf
  simp [bind_eq_error_iff, Value.print_eq_error_iff]

theorem exists_methodOf_iff {default : String} :
    (∃ method, methodOf config default = .ok method) ↔
      (Fields.valueOf "method" config).isPrintable = true := by
  cases printed : (Fields.valueOf "method" config).isPrintable <;>
    simp [methodOf, Value.print, printed]

theorem headersOf_eq_error_iff :
    headersOf config = .error failure ↔
      (Fields.valueOf "headers" config).truthy = true ∧
        (Fields.valueOf "headers" config).isObject = false ∧
          failure = .notAnObject (Fields.valueOf "headers" config).kind := by
  unfold headersOf Value.orElse
  cases given : (Fields.valueOf "headers" config).truthy with
  | false => simp
  | true => cases Fields.valueOf "headers" config <;> simp [Value.isObject, eq_comm]

theorem nameHeaders_eq_error_iff {bindings : Bindings} :
    nameHeaders bindings = .error failure ↔
      (∃ header ∈ bindings, header.1.isPrintable = false) ∧ failure = .unprintableInteger := by
  unfold nameHeaders
  simp only [bind_eq_error_iff, reduceCtorEq, and_false, exists_false, or_false]
  rw [mapM_eq_error_iff_of_failsOnly fun header => (Value.failsOnly_print _).bind fun _ => .ok _]
  simp [bind_eq_error_iff, Value.print_eq_error_iff]

theorem announcement_eq_error_iff {request : Http.Request} :
    announcement request = .error failure ↔
      (Value.object (Logging.redact request.headers)).isPrintable = false ∧
        failure = .unprintableInteger := by
  unfold announcement
  simp [bind_eq_error_iff, Value.print_eq_error_iff]

theorem failsOnly_requireUrl (header : StepHeader) :
    FailsOnly (·.isStepError = true) (requireUrl header config) := by
  unfold requireUrl
  split
  · split
    · exact .error rfl
    · exact .ok _
  · exact .error rfl

/-- A request with the line of the log that announces it. -/
def announced (request : Http.Request) : Except Failure (String × Http.Request) :=
  (·, request) <$> announcement request

theorem announced_eq_error_iff {request : Http.Request} :
    announced request = .error failure ↔
      (Value.object (Logging.redact request.headers)).isPrintable = false ∧
        failure = .unprintableInteger := by
  rw [← announcement_eq_error_iff, announced]
  cases announcement request <;> simp

section

variable (fault : failure.isStepError = false)

include fault

/-- What only raises errors of steps adds no fault to a chain. -/
theorem bind_eq_fault_iff {α β : Type} {first : Except Failure α} {next : α → Except Failure β}
    (further : ∀ value, FailsOnly (·.isStepError = true) (next value)) :
    first >>= next = .error failure ↔ first = .error failure := by
  refine bind_eq_error_iff.trans (or_iff_left ?_)
  rintro ⟨value, _, failed⟩
  simp [further value failure failed] at fault

/-- The error of a step that shows a value is no fault, but showing the value may be one. -/
theorem refusal_eq_fault_iff {α : Type} {value : Value} {refuse : String → EngineError}
    (raises : ∀ shown, (refuse shown).isStepError = true) :
    (value.printQuoted >>= fun shown => (.error (.engine (refuse shown)) : Except Failure α)) =
      .error failure ↔ value.isPrintable = false ∧ failure = .unprintableInteger := by
  rw [bind_eq_fault_iff fault, Value.printQuoted_eq_error_iff]
  intro shown
  apply FailsOnly.error
  exact raises shown

/-- A value that is read as a number, and refused where it is none. -/
theorem toDouble?_bind_eq_fault_iff {α : Type} {value : Value}
    {next : Option Binary64 → Except Failure α} {refuse : String → EngineError}
    (raises : ∀ shown, (refuse shown).isStepError = true)
    (goesOn : ∀ number, ∃ result, next (some number) = .ok result)
    (refused : next none = value.printQuoted >>= fun shown => .error (.engine (refuse shown))) :
    value.toDouble? >>= next = .error failure ↔ value.Misreads failure := by
  rw [bind_eq_error_iff, Value.toDouble?_eq_error_iff]
  constructor
  · rintro (⟨tooLarge, rfl⟩ | ⟨number, read, failed⟩)
    · exact .tooLarge tooLarge
    · cases number with
      | some number =>
          obtain ⟨result, isResult⟩ := goesOn number
          rw [isResult] at failed
          cases failed
      | none =>
          rw [refused, refusal_eq_fault_iff fault raises] at failed
          obtain ⟨notPrinted, rfl⟩ := failed
          exact .unprintable read notPrinted
  · intro misreads
    cases misreads with
    | tooLarge isTooLarge => exact .inl ⟨isTooLarge, rfl⟩
    | unprintable noNumber notPrinted =>
        refine .inr ⟨none, noNumber, ?_⟩
        rw [refused, refusal_eq_fault_iff fault raises]
        exact ⟨notPrinted, rfl⟩

theorem timeoutOf_eq_fault_iff (settings : Settings) :
    timeoutOf settings config = .error failure ↔
      ∃ seconds, Entries.get? "timeout_seconds" config = some seconds ∧
        seconds.Misreads failure := by
  unfold timeoutOf
  dsimp only
  refine (toDouble?_bind_eq_fault_iff fault ?_ ?_ rfl).trans ?_
  · intro shown
    rfl
  · intro number
    exact ⟨_, rfl⟩
  · cases Entries.get? "timeout_seconds" config with
    | some seconds => simp
    | none =>
        refine iff_of_false ?_ (by simp)
        rintro (⟨number, impossible, _⟩ | ⟨noNumber, _⟩)
        · cases impossible
        · cases noNumber

/-- The description of a request with a url fails with a fault exactly where it is misdescribed. -/
theorem described_eq_fault_iff {header : StepHeader} {method : String} {body : Value} :
    requestOf settings header config method body >>= announced = .error failure ↔
      ∃ url, requireUrl header config = .ok url ∧ Misdescribes settings config failure := by
  have addressed : requireUrl header config ≠ .error failure := by
    intro failed
    simp [failsOnly_requireUrl header failure failed] at fault
  simp only [requestOf, bind_assoc, ok_bind, bind_eq_error_iff, addressed, false_or,
    announced_eq_error_iff]
  refine exists_congr fun url => and_congr_right fun _ => ?_
  constructor
  · rintro (failed | ⟨method, isMethod, failed | ⟨configured, headed, failed | ⟨timeout, timed,
      failed | ⟨headers, named, notPrinted, rfl⟩⟩⟩⟩)
    · obtain ⟨notPrinted, rfl⟩ := methodOf_eq_error_iff.mp failed
      exact .method notPrinted
    · obtain ⟨given, noObject, rfl⟩ := headersOf_eq_error_iff.mp failed
      exact .headers (exists_methodOf_iff.mp ⟨method, isMethod⟩) given noObject
    · obtain ⟨seconds, written, misreads⟩ := (timeoutOf_eq_fault_iff fault _).mp failed
      exact .timeout (exists_methodOf_iff.mp ⟨method, isMethod⟩) headed written misreads
    · obtain ⟨notPrinted, rfl⟩ := nameHeaders_eq_error_iff.mp failed
      exact .names (exists_methodOf_iff.mp ⟨method, isMethod⟩) headed timed notPrinted
    · exact .announced (exists_methodOf_iff.mp ⟨method, isMethod⟩) headed timed named notPrinted
  · intro misdescribes
    cases misdescribes with
    | method notPrinted => exact .inl (methodOf_eq_error_iff.mpr ⟨notPrinted, rfl⟩)
    | headers printed given noObject =>
        obtain ⟨method, isMethod⟩ := exists_methodOf_iff.mpr printed
        refine .inr ⟨method, isMethod, .inl ?_⟩
        exact headersOf_eq_error_iff.mpr ⟨given, noObject, rfl⟩
    | timeout printed headed written misreads =>
        obtain ⟨method, isMethod⟩ := exists_methodOf_iff.mpr printed
        refine .inr ⟨method, isMethod, .inr ⟨_, headed, .inl ?_⟩⟩
        exact (timeoutOf_eq_fault_iff fault _).mpr ⟨_, written, misreads⟩
    | names printed headed timed notPrinted =>
        obtain ⟨method, isMethod⟩ := exists_methodOf_iff.mpr printed
        refine .inr ⟨method, isMethod, .inr ⟨_, headed, .inr ⟨_, timed, .inl ?_⟩⟩⟩
        exact nameHeaders_eq_error_iff.mpr ⟨notPrinted, rfl⟩
    | announced printed headed timed named notPrinted =>
        obtain ⟨method, isMethod⟩ := exists_methodOf_iff.mpr printed
        exact .inr ⟨method, isMethod, .inr ⟨_, headed, .inr ⟨_, timed, .inr ⟨_, named,
          notPrinted, rfl⟩⟩⟩⟩

/-- The preparation of a request fails with a fault exactly where a step that sends it slips. -/
theorem prepared_eq_fault_iff {method : String} {body : Fields → Value}
    (requests : kind ∈ [.apiCall, .webhook]) :
    (scope.resolveFields step.config >>= fun config =>
        requestOf executor.settings step.header config method (body config) >>= announced) =
        .error failure ↔
      executor.Slips step scope kind failure := by
  rw [bind_eq_error_iff]
  simp only [described_eq_fault_iff fault]
  constructor
  · rintro (unfillable | ⟨config, resolved, url, addressed, misdescribes⟩)
    · refine .configuration ?_ unfillable
      simp only [List.mem_cons] at requests ⊢
      grind
    · exact .request requests resolved addressed misdescribes
  · intro slips
    cases slips with
    | configuration _ unfillable => exact .inl unfillable
    | request _ resolved addressed misdescribes =>
        exact .inr ⟨_, resolved, _, addressed, misdescribes⟩
    | _ => simp at requests

theorem invalidSeconds_eq_fault_iff {written : Value} :
    invalidSeconds written = .error failure ↔
      written.isPrintable = false ∧ failure = .unprintableInteger := by
  apply refusal_eq_fault_iff fault
  intro shown
  rfl

theorem secondsAsMilliseconds_eq_fault_iff {written : Value} :
    secondsAsMilliseconds scope written = .error failure ↔
      (∃ seconds, scope.resolve written = .ok seconds ∧ seconds.IsTooLarge ∧
        failure = .integerTooLarge) ∨
      (∀ seconds, scope.resolve written = .ok seconds → seconds.toDouble? = .ok none) ∧
        written.isPrintable = false ∧ failure = .unprintableInteger := by
  unfold secondsAsMilliseconds
  cases scope.resolve written with
  | error unfillable => simp [invalidSeconds_eq_fault_iff fault]
  | ok seconds =>
      simp only [bind_eq_error_iff, Value.toDouble?_eq_error_iff, Except.ok.injEq,
        exists_eq_left', forall_eq']
      refine or_congr_right ⟨?_, ?_⟩
      · rintro ⟨number, read, failed⟩
        cases number with
        | some number => cases failed
        | none => exact ⟨read, (invalidSeconds_eq_fault_iff fault).mp failed⟩
      · rintro ⟨read, failed⟩
        exact ⟨none, read, (invalidSeconds_eq_fault_iff fault).mpr failed⟩

theorem milliseconds_eq_fault_iff {duration : Value} :
    milliseconds duration = .error failure ↔ duration.Misreads failure := by
  unfold milliseconds
  refine toDouble?_bind_eq_fault_iff fault ?_ ?_ rfl
  · intro shown
    rfl
  · intro number
    exact ⟨_, rfl⟩

/-- The length of a delay fails with a fault exactly where the step slips. -/
theorem delayed_eq_fault_iff :
    (scope.resolveFields step.config >>= fun config =>
        delayOf executor.settings scope step.header config >>= milliseconds) = .error failure ↔
      executor.Slips step scope .delay failure := by
  simp only [bind_eq_error_iff, milliseconds_eq_fault_iff fault]
  constructor
  · rintro (unfillable | ⟨config, resolved, noSeconds | ⟨duration, lasts, misreads⟩⟩)
    · exact .configuration (by simp) unfillable
    · unfold delayOf at noSeconds
      split at noSeconds
      · cases noSeconds
      · next noDuration =>
          split at noSeconds
          · next written held =>
              rcases (secondsAsMilliseconds_eq_fault_iff fault).mp noSeconds with
                ⟨seconds, found, tooLarge, rfl⟩ | ⟨noNumber, notPrinted, rfl⟩
              · exact .seconds resolved noDuration held found tooLarge
              · exact .unprintedSeconds resolved noDuration held noNumber notPrinted
          · cases noSeconds
    · exact .duration resolved lasts misreads
  · intro slips
    cases slips with
    | configuration _ unfillable => exact .inl unfillable
    | seconds resolved noDuration held found tooLarge =>
        refine .inr ⟨_, resolved, .inl ?_⟩
        simp only [delayOf, noDuration, held]
        exact (secondsAsMilliseconds_eq_fault_iff fault).mpr (.inl ⟨_, found, tooLarge, rfl⟩)
    | unprintedSeconds resolved noDuration held noNumber notPrinted =>
        refine .inr ⟨_, resolved, .inl ?_⟩
        simp only [delayOf, noDuration, held]
        exact (secondsAsMilliseconds_eq_fault_iff fault).mpr (.inr ⟨noNumber, notPrinted, rfl⟩)
    | duration resolved lasts misreads => exact .inr ⟨_, resolved, .inr ⟨_, lasts, misreads⟩⟩
    | request requests => simp at requests

/-- The plan of a retry fails with a fault exactly where the step slips. -/
theorem planOf_eq_fault_iff :
    executor.planOf step = .error failure ↔ executor.Slips step scope .retry failure := by
  change (executor.attemptsOf step).toInteger? >>= _ = .error failure ↔ _
  rw [bind_eq_error_iff, Value.toInteger?_eq_error_iff]
  constructor
  · rintro (⟨⟨negative, endless⟩, rfl⟩ | ⟨attempts, counted, failed⟩)
    · exact .attempts endless
    · cases attempts with
      | none =>
          cases failed
          cases fault
      | some attempts =>
          change (backoffOf step).toDouble? >>= _ = .error failure at failed
          rw [bind_eq_fault_iff fault, Value.toDouble?_eq_error_iff] at failed
          · obtain ⟨tooLarge, rfl⟩ := failed
            exact .backoff counted tooLarge
          · intro backoff
            cases backoff with
            | none => exact .error rfl
            | some backoff =>
                dsimp only
                split
                · exact .error rfl
                · exact .ok _
  · intro slips
    cases slips with
    | attempts endless => exact .inl ⟨⟨_, endless⟩, rfl⟩
    | backoff counted tooLarge =>
        refine .inr ⟨_, counted, bind_eq_error_iff.mpr (.inl ?_)⟩
        exact Value.toDouble?_eq_error_iff.mpr ⟨tooLarge, rfl⟩
    | configuration resolves => simp at resolves
    | request requests => simp at requests

end

theorem promptOf_eq_error_iff {call : Option AgentCall} :
    promptOf scope config call = .error failure ↔
      writtenPrompt scope config call = .error failure ∨
        ∃ prompt, writtenPrompt scope config call = .ok prompt ∧ prompt.isPrintable = false ∧
          failure = .unprintableInteger := by
  unfold promptOf
  simp only [bind_eq_error_iff, Value.print_eq_error_iff, Value.isPrintable_orElse_text]

/-- Collaborators that keep to what they are documented to do: the client answers, times out or
breaks off, a wait fails only where it is for no number of seconds, and the clock is finite. -/
structure IsReliable (executor : Executor σ) : Prop where
  answers : ∀ request world failure,
    (executor.collaborators.request request world).1 ≠ .failed failure
  sleeps : ∀ seconds world failure,
    (executor.collaborators.sleep seconds world).1 = .failed failure →
      ∃ payload, seconds = .notANumber payload
  clock : executor.ClockIsFinite

/-- Send a request, with the line of the log that announces it. -/
def transmit (executor : Executor σ) (told : String × Http.Request) : Action σ Http.Response := do
  Action.log .debug told.1
  match ← Action.outside (executor.collaborators.request told.2) with
  | .answered response => pure response
  | .timedOut _ _ =>
      Action.raise (.stepNetwork s!"Request to {told.2.url} timed out" (.text told.2.url))
  | .broken _ message =>
      Action.raise (.stepNetwork s!"Request to {told.2.url} failed: {message}" (.text told.2.url))

theorem send_eq (request : Http.Request) :
    executor.send request = Action.ofExcept (announced request) >>= executor.transmit := by
  unfold send announced
  cases announcement request <;> rfl

theorem transmit_eq_done_iff {told : String × Http.Request} {response : Http.Response}
    {after : State σ} :
    executor.transmit told state = (.done response, after) ↔
      ∃ world, executor.collaborators.request told.2 state.world =
          (.done (.answered response), world) ∧
        after = { state with log := ⟨.debug, told.1⟩ :: state.log, world := world } := by
  unfold transmit
  rw [Action.log_bind_apply, Action.bind_done_iff]
  constructor
  · rintro ⟨exchange, between, ended, answered⟩
    cases exchange with
    | answered other =>
        obtain ⟨world, answers, rfl⟩ := Action.outside_eq_done_iff.mp ended
        cases answered
        exact ⟨world, answers, rfl⟩
    | timedOut _ _ | broken _ _ => cases answered
  · rintro ⟨world, answers, rfl⟩
    exact ⟨.answered response, _, Action.outside_eq answers, rfl⟩

theorem IsReliable.transmit_raisesStepErrors (reliable : executor.IsReliable)
    (told : String × Http.Request) : Action.RaisesStepErrors (executor.transmit told) := by
  refine .bind (.log _ _) fun _ => .bind ?_ fun exchange => ?_
  · intro state failure fails
    exact (reliable.answers told.2 state.world failure fails).elim
  · cases exchange with
    | answered response => exact .pure response
    | timedOut _ _ | broken _ _ => exact .fail rfl

theorem raisesStepErrors_classifyCall (response : Http.Response) :
    Action.RaisesStepErrors (σ := σ) (Action.ofExcept (classifyCall response)) := by
  intro state failure fails
  rw [Action.fails_ofExcept_iff] at fails
  unfold classifyCall at fails
  grind [Failure.isStepError, EngineError.isStepError]

theorem agentFailure_isStepError (agentId : Value) (raised : Failure) :
    (agentFailure agentId raised).isStepError = true := by
  unfold agentFailure
  split
  · assumption
  · rfl

theorem callApi_eq (header : StepHeader) (state : State σ) :
    executor.callApi header state =
      (Action.ofExcept (state.variables.resolveFields header.config >>= fun config =>
        requestOf executor.settings header config "GET" (Fields.valueOf "body" config) >>=
          announced) >>=
      fun told => do
        let response ← executor.transmit told
        Action.log .debug s!"api_call {header.id} returned {response.status}"
        Action.ofExcept (classifyCall response)) state := by
  simp only [callApi, Action.variables_bind_apply, send_eq, Action.ofExcept_bind, Action.bind_bind]

/-- What a webhook makes of the response to it. -/
def reportHook (header : StepHeader) (response : Http.Response) : Action σ Value := do
  let output ← Action.ofExcept (classifyHook response)
  if !response.isSuccess then
    Action.log .info s!"Webhook {header.id} answered {response.status}"
  pure output

theorem callWebhook_eq (header : StepHeader) (state : State σ) :
    executor.callWebhook header state =
      (Action.ofExcept (state.variables.resolveFields header.config >>= fun config =>
        requestOf executor.settings header config "POST"
          ((Entries.get? "payload" config).getD state.variables.snapshot) >>= announced) >>=
      fun told => executor.transmit told >>= reportHook header) state := by
  simp only [callWebhook, Action.variables_bind_apply, send_eq, Action.ofExcept_bind,
    Action.bind_bind]
  rfl

theorem wait_eq (header : StepHeader) (state : State σ) :
    executor.wait header state =
      (Action.ofExcept (state.variables.resolveFields header.config >>= fun config =>
        delayOf executor.settings state.variables header config >>= milliseconds) >>=
      fun duration => do
        if duration.isNegative && !duration.isZero then
          Action.raise (.stepConfig
            s!"Delay duration must not be negative: {(Value.float duration).display}" [])
        executor.sleep (duration.div (Binary64.ofNat 1000))
        pure (.object [("delayed", reported duration)])) state := by
  unfold wait
  rw [Action.variables_bind_apply]
  cases resolved : state.variables.resolveFields header.config with
  | error failure => rfl
  | ok config =>
      rw [Action.ofExcept_ok_bind_apply, ok_bind]
      cases delayOf executor.settings state.variables header config <;> rfl

section

variable (fault : failure.isStepError = false)

include fault

theorem fails_handle_apiCall_iff (reliable : executor.IsReliable) :
    Action.Fails (executor.handle step .apiCall) state failure ↔
      executor.Slips step state.variables .apiCall failure := by
  rw [handle, Action.Fails, callApi_eq, ← Action.Fails,
    Action.fails_bind_iff_of_raisesStepErrors ?_ fault, Action.fails_ofExcept_iff]
  · exact prepared_eq_fault_iff fault (by simp)
  · intro told
    exact .bind (reliable.transmit_raisesStepErrors told) fun response =>
      .bind (.log _ _) fun _ => raisesStepErrors_classifyCall response

/-- A webhook that sends its request, and has a response whose body has no text. -/
def Garbles (executor : Executor σ) (step : Step) (state : State σ) (failure : Failure) : Prop :=
  ∃ config request line response world, state.variables.resolveFields step.config = .ok config ∧
    requestOf executor.settings step.header config "POST"
      ((Entries.get? "payload" config).getD state.variables.snapshot) = .ok request ∧
    announcement request = .ok line ∧
    executor.collaborators.request request state.world = (.done (.answered response), world) ∧
    response.text = .error failure

omit fault in
theorem fails_reportHook_iff {header : StepHeader} {response : Http.Response} :
    Action.Fails (reportHook header response) state failure ↔ response.text = .error failure := by
  unfold reportHook classifyHook
  cases response.text with
  | error other => simp [Action.fails_bind_iff, Action.ofExcept_eq_done_iff]
  | ok text => cases response.isSuccess <;> simp [Action.fails_bind_iff]

theorem fails_handle_webhook_iff (reliable : executor.IsReliable) :
    Action.Fails (executor.handle step .webhook) state failure ↔
      executor.Slips step state.variables .webhook failure ∨
        executor.Garbles step state failure := by
  rw [handle, Action.Fails, callWebhook_eq, ← Action.Fails, Action.fails_bind_iff,
    Action.fails_ofExcept_iff]
  refine or_congr (prepared_eq_fault_iff fault (by simp)) ⟨?_, ?_⟩
  · rintro ⟨told, _, prepared, fails⟩
    obtain ⟨prepared, rfl⟩ := Action.ofExcept_eq_done_iff.mp prepared
    rcases Action.fails_bind_iff.mp fails with unsent | ⟨response, after, sent, fails⟩
    · have raised := reliable.transmit_raisesStepErrors told _ _ unsent
      simp [raised] at fault
    · obtain ⟨config, resolved, prepared⟩ := bind_eq_ok_iff.mp prepared
      obtain ⟨request, described, prepared⟩ := bind_eq_ok_iff.mp prepared
      obtain ⟨line, announces, rfl⟩ := map_eq_ok_iff.mp prepared
      obtain ⟨world, answers, rfl⟩ := transmit_eq_done_iff.mp sent
      exact ⟨config, request, line, response, world, resolved, described, announces, answers,
        fails_reportHook_iff.mp fails⟩
  · rintro ⟨config, request, line, response, world, resolved, described, announces, answers,
      garbled⟩
    refine ⟨(line, request), state, Action.ofExcept_eq_done_iff.mpr ⟨?_, rfl⟩, ?_⟩
    · rw [Step.config] at resolved
      rw [resolved, ok_bind, described, ok_bind, announced, announces, map_ok]
    · rw [Action.fails_bind_of_done (transmit_eq_done_iff.mpr ⟨world, answers, rfl⟩)]
      exact fails_reportHook_iff.mpr garbled

/-- A delay that waits, for a time that is no number of seconds, and whose wait fails. -/
def Stalls (executor : Executor σ) (step : Step) (state : State σ) (failure : Failure) : Prop :=
  ∃ config written duration, state.variables.resolveFields step.config = .ok config ∧
    delayOf executor.settings state.variables step.header config = .ok written ∧
    milliseconds written = .ok duration ∧ (duration.isNegative && !duration.isZero) = false ∧
    (executor.collaborators.sleep (duration.div (Binary64.ofNat 1000)) state.world).1 =
      .failed failure

theorem fails_handle_delay_iff :
    Action.Fails (executor.handle step .delay) state failure ↔
      executor.Slips step state.variables .delay failure ∨ executor.Stalls step state failure := by
  rw [handle, Action.Fails, wait_eq, ← Action.Fails, Action.fails_bind_iff,
    Action.fails_ofExcept_iff, ← delayed_eq_fault_iff fault]
  refine or_congr_right ?_
  simp only [Action.ofExcept_eq_done_iff, bind_eq_ok_iff]
  constructor
  · rintro ⟨duration, _, ⟨⟨config, resolved, written, lasts, isDuration⟩, rfl⟩, fails⟩
    split at fails
    · rcases Action.fails_bind_iff.mp fails with raised | ⟨_, _, impossible, _⟩
      · cases raised
        cases fault
      · cases impossible
    · next notNegative =>
        rw [Action.fails_bind_pure_iff] at fails
        exact ⟨config, written, duration, resolved, lasts, isDuration,
          Bool.eq_false_iff.mpr notNegative, fails⟩
  · rintro ⟨config, written, duration, resolved, lasts, isDuration, notNegative, fails⟩
    refine ⟨duration, state, ⟨⟨config, resolved, written, lasts, isDuration⟩, rfl⟩, ?_⟩
    rw [notNegative]
    exact Action.fails_bind_pure_iff.mpr fails

theorem fails_handle_agentCall_iff :
    Action.Fails (executor.handle step .agentCall) state failure ↔
      executor.Slips step state.variables .agentCall failure := by
  rw [handle, callAgent, Action.Fails, Action.variables_bind_apply, ← Action.Fails,
    Action.fails_bind_iff, Action.fails_ofExcept_iff]
  have recovered (agentId : Value) (run : Action σ Value) :
      Action.RaisesStepErrors
        (run.recover fun raised => Action.fail (agentFailure agentId raised)) := by
    intro state raised fails
    obtain ⟨first, _, _, ended⟩ := Action.fails_recover_iff.mp fails
    cases ended
    exact agentFailure_isStepError _ _
  constructor
  · rintro (unfillable | ⟨config, _, resolved, fails⟩)
    · exact .configuration (by simp) unfillable
    · obtain ⟨resolved, rfl⟩ := Action.ofExcept_eq_done_iff.mp resolved
      cases invokes : executor.collaborators.agent with
      | none =>
          rw [invokes] at fails
          cases fails
          cases fault
      | some invoke =>
          have isSome : executor.collaborators.agent.isSome = true := by simp [invokes]
          rw [invokes] at fails
          dsimp only at fails
          rw [Action.fails_bind_iff_of_raisesStepErrors (fun _ => recovered _ _) fault,
            Action.fails_ofExcept_iff, promptOf_eq_error_iff] at fails
          rcases fails with unfillable | ⟨prompt, written, notPrinted, rfl⟩
          · exact .prompt resolved isSome unfillable
          · exact .unprintedPrompt resolved isSome written notPrinted
  · intro slips
    by_cases unfilled : state.variables.resolveFields step.config = .error failure
    · exact .inl unfilled
    · obtain ⟨config, resolved, invokes, unprompted⟩ :
          ∃ config, state.variables.resolveFields step.config = .ok config ∧
            executor.collaborators.agent.isSome = true ∧
            promptOf state.variables config step.header.agentCall = .error failure := by
        cases slips with
        | configuration _ unfillable => exact absurd unfillable unfilled
        | prompt resolved invokes unfillable =>
            exact ⟨_, resolved, invokes, promptOf_eq_error_iff.mpr (.inl unfillable)⟩
        | unprintedPrompt resolved invokes written notPrinted =>
            exact ⟨_, resolved, invokes,
              promptOf_eq_error_iff.mpr (.inr ⟨_, written, notPrinted, rfl⟩)⟩
        | request requests => simp at requests
      obtain ⟨invoke, invokes⟩ := Option.isSome_iff_exists.mp invokes
      refine .inr ⟨config, state, Action.ofExcept_eq_done_iff.mpr ⟨resolved, rfl⟩, ?_⟩
      rw [invokes]
      exact Action.fails_bind_iff.mpr (.inl (Action.fails_ofExcept_iff.mpr unprompted))

end

end Executor
end Automation
