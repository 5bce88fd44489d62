import Automation.Proofs.Execution.Blindness
import Automation.Proofs.Execution.Frame
import Automation.Proofs.Execution.Slips
import Automation.Proofs.Rehearsal.Script

/-!
What the same response means to an `api_call` and to a `webhook`.

Both describe their request in the same way, and both fail over an integer in it that is not
printed. An `api_call` fails on a response that is no success and on a body that is not JSON. A
`webhook` fails on a body without a text; else it reports the response, whatever its status and its
body, and where an `api_call` succeeds on a body, its output is what a `webhook` reports.
-/

namespace Automation

namespace Executor

variable {σ : Type} {executor : Executor σ} {step : Step} {state : State σ} {config : Fields}
  {response : Http.Response}

/-- A configuration that describes a request: with a url, with headers that are an object if there
are any, and with a time limit that is a number if there is one. -/
structure DescribesRequest (config : Fields) : Prop where
  addressed : ∃ url, Fields.valueOf "url" config = .text url ∧ url ≠ ""
  headed : (Fields.valueOf "headers" config).truthy = true →
    (Fields.valueOf "headers" config).isObject = true
  timed : ∀ limit, Entries.get? "timeout_seconds" config = some limit →
    ∃ seconds, limit.toDouble? = .ok (some seconds)

namespace DescribesRequest

variable (describes : DescribesRequest config)

include describes

theorem exists_requireUrl (header : StepHeader) : ∃ url, requireUrl header config = .ok url := by
  obtain ⟨url, written, nonempty⟩ := describes.addressed
  refine ⟨url, ?_⟩
  rw [requireUrl, written]
  exact if_neg nonempty

theorem exists_timeoutOf (settings : Settings) :
    ∃ timeout, timeoutOf settings config = .ok timeout := by
  obtain ⟨seconds, isSeconds⟩ : ∃ seconds,
      ((Entries.get? "timeout_seconds" config).getD
        (.float settings.httpTimeoutSeconds)).toDouble? = .ok (some seconds) := by
    cases limit : Entries.get? "timeout_seconds" config with
    | none => exact ⟨_, rfl⟩
    | some limit' => exact describes.timed limit' limit
  exact ⟨_, by rw [timeoutOf, isSeconds]; rfl⟩

/-- The description fails over one thing, an integer that is not printed. -/
theorem described_eq_error_iff {settings : Settings} {header : StepHeader} {method : String}
    {body : Value} {failure : Failure} :
    requestOf settings header config method body >>= announced = .error failure ↔
      Misdescribes settings config .unprintableInteger ∧ failure = .unprintableInteger := by
  obtain ⟨url, addressed⟩ := describes.exists_requireUrl header
  constructor
  · intro failed
    obtain ⟨timeout, timed⟩ := describes.exists_timeoutOf settings
    suffices isUnprintable : failure = .unprintableInteger by
      subst isUnprintable
      obtain ⟨_, _, misdescribes⟩ := (described_eq_fault_iff rfl).mp failed
      exact ⟨misdescribes, rfl⟩
    simp only [requestOf, bind_assoc, addressed, timed, ok_bind, bind_eq_error_iff,
      methodOf_eq_error_iff, nameHeaders_eq_error_iff, announced_eq_error_iff] at failed
    rcases failed with ⟨_, isFailure⟩ | ⟨_, _, unheaded | ⟨_, _, ⟨_, isFailure⟩ |
      ⟨_, _, _, isFailure⟩⟩⟩
    · exact isFailure
    · obtain ⟨given, noObject, _⟩ := headersOf_eq_error_iff.mp unheaded
      simp [describes.headed given] at noObject
    · exact isFailure
    · exact isFailure
  · rintro ⟨misdescribes, rfl⟩
    exact (described_eq_fault_iff rfl).mpr ⟨url, addressed, misdescribes⟩

end DescribesRequest

/-- A client that answers every request in a world with the same response. -/
def Answers (executor : Executor σ) (response : Http.Response) (world : σ) : Prop :=
  ∀ request, ∃ after,
    executor.collaborators.request request world = (.done (.answered response), after)

theorem Answers.exists_transmit_eq (answers : executor.Answers response state.world)
    (told : String × Http.Request) :
    ∃ after, executor.transmit told state = (.done response, after) := by
  obtain ⟨world, answered⟩ := answers told.2
  exact ⟨_, transmit_eq_done_iff.mpr ⟨world, answered, rfl⟩⟩

/-- What a step makes of the response to its request: nothing where the request is not printed. -/
structure Hears (settings : Settings) (config : Fields) (classified heard : Except Failure Value) :
    Prop where
  unprinted : Misdescribes settings config .unprintableInteger → heard = .error .unprintableInteger
  printed : ¬Misdescribes settings config .unprintableInteger → heard = classified

section

variable (describes : DescribesRequest config)
  (resolved : state.variables.resolveFields step.config = .ok config)
  (answers : executor.Answers response state.world)

include describes resolved

/-- A step that sends what its configuration describes, and makes something of the response. -/
theorem exists_hears {method : String} {body : Fields → Value}
    {use : Http.Response → Action σ Value} {classified : Except Failure Value}
    (uses : ∀ told, ∃ after,
      (executor.transmit told >>= use) state = (.ofExcept classified, after)) :
    ∃ heard after, Hears executor.settings config classified heard ∧
      (Action.ofExcept (state.variables.resolveFields step.config >>= fun config =>
          requestOf executor.settings step.header config method (body config) >>= announced) >>=
        fun told => executor.transmit told >>= use) state = (.ofExcept heard, after) := by
  rw [resolved, ok_bind]
  cases prepared : requestOf executor.settings step.header config method (body config) >>=
      announced with
  | error failure =>
      obtain ⟨misdescribes, rfl⟩ := describes.described_eq_error_iff.mp prepared
      exact ⟨.error .unprintableInteger, state, ⟨fun _ => rfl, (absurd misdescribes ·)⟩, rfl⟩
  | ok told =>
      have printed : ¬Misdescribes executor.settings config .unprintableInteger := by
        intro misdescribes
        have failed : requestOf executor.settings step.header config method (body config) >>=
            announced = .error _ :=
          describes.described_eq_error_iff.mpr ⟨misdescribes, rfl⟩
        cases prepared.symm.trans failed
      obtain ⟨after, used⟩ := uses told
      exact ⟨classified, after, ⟨(absurd · printed), fun _ => rfl⟩, used⟩

include answers

theorem exists_callApi_eq :
    ∃ heard after, Hears executor.settings config (classifyCall response) heard ∧
      executor.callApi step.header state = (.ofExcept heard, after) := by
  rw [callApi_eq]
  apply exists_hears describes resolved
  intro told
  obtain ⟨sent, isSent⟩ := answers.exists_transmit_eq told
  rw [Action.bind_of_done isSent, Action.log_bind_apply]
  cases classifyCall response <;> exact ⟨_, rfl⟩

theorem exists_callWebhook_eq :
    ∃ heard after, Hears executor.settings config (classifyHook response) heard ∧
      executor.callWebhook step.header state = (.ofExcept heard, after) := by
  rw [callWebhook_eq]
  apply exists_hears describes resolved
  intro told
  obtain ⟨sent, isSent⟩ := answers.exists_transmit_eq told
  rw [Action.bind_of_done isSent, reportHook]
  cases classifyHook response with
  | error failure => exact ⟨_, rfl⟩
  | ok output => cases response.isSuccess <;> exact ⟨_, rfl⟩

end

/-- What a response means to an `api_call`, beside what it means to a `webhook`. -/
structure AreAlike (response : Http.Response) (answer report : Except Failure Value) : Prop where
  fails_iff : (∃ failure, answer = .error failure) ↔
    ¬(200 ≤ response.status ∧ response.status ≤ 299) ∨
      response.content ≠ [] ∧ response.json? = none
  failure : ∀ failure, answer = .error failure →
    ∃ reason, failure = .engine (.apiCallFailed (.int response.status) (.text reason))
  empty : ∀ output, answer = .ok output → response.content = [] → output = .object []
  garbled : ∀ failure, report = .error failure ↔ response.text = .error failure
  reported : ∀ text, response.text = .ok text →
    ∃ body, report = .ok (.object [("status", .int response.status),
        ("success", .bool (decide (200 ≤ response.status ∧ response.status ≤ 299))),
        ("response", body)]) ∧
      ∀ output, answer = .ok output → response.content ≠ [] → output = body

/-- An `api_call` succeeds on an empty body and on JSON, and fails on everything else. -/
theorem classifyCall_eq_ok_iff {output : Value} :
    classifyCall response = .ok output ↔ response.isSuccess = true ∧
      (response.content = [] ∧ output = .object [] ∨
        response.content ≠ [] ∧ response.json? = some output) := by
  unfold classifyCall
  cases success : response.isSuccess with
  | false => simp
  | true =>
      by_cases empty : response.content = []
      · simp [empty, eq_comm]
      · cases decoded : response.json? <;> simp [empty]

theorem classifyCall_eq_error {failure : Failure}
    (failed : classifyCall response = .error failure) :
    ∃ reason, failure = .engine (.apiCallFailed (.int response.status) (.text reason)) := by
  unfold classifyCall at failed
  grind

theorem areAlike (regular : response.IsRegular) :
    AreAlike response (classifyCall response) (classifyHook response) where
  fails_iff := by
    have fails_iff : (∃ failure, classifyCall response = .error failure) ↔
        ¬∃ output, classifyCall response = .ok output := by
      cases classifyCall response <;> simp
    simp only [fails_iff, classifyCall_eq_ok_iff, regular.success, decide_eq_true_eq]
    by_cases empty : response.content = [] <;> cases response.json? <;> simp [empty]
  failure _ failed := classifyCall_eq_error failed
  empty output answered empty := by
    obtain ⟨_, ⟨_, rfl⟩ | ⟨nonempty, _⟩⟩ := classifyCall_eq_ok_iff.mp answered
    · rfl
    · exact (nonempty empty).elim
  garbled failure := by
    unfold classifyHook
    cases response.text <;> simp
  reported text isText := by
    refine ⟨if response.isSuccess && !response.content.isEmpty then
      response.json?.getD (.text text) else .text text, ?_, ?_⟩
    · rw [classifyHook, isText, ok_bind, regular.success]
    · intro output answered nonempty
      obtain ⟨success, ⟨empty, _⟩ | ⟨_, decoded⟩⟩ := classifyCall_eq_ok_iff.mp answered
      · exact (nonempty empty).elim
      · simp [success, nonempty, decoded]

/-- The same response, given to an `api_call` and to a `webhook` with the same configuration. -/
theorem response_classified_alike (clock : executor.ClockIsFinite) {call hook : Step}
    (callRuns : executor.RunsAs call .apiCall) (hookRuns : executor.RunsAs hook .webhook)
    (callConfig : state.variables.resolveFields call.config = .ok config)
    (hookConfig : state.variables.resolveFields hook.config = .ok config)
    (describes : DescribesRequest config) (answers : executor.Answers response state.world)
    (regular : response.IsRegular) :
    ∃ answer report callAfter hookAfter,
      executor.EndsAs call state (.ofExcept answer) callAfter ∧
      executor.EndsAs hook state (.ofExcept report) hookAfter ∧
      (Misdescribes executor.settings config .unprintableInteger →
        answer = .error .unprintableInteger ∧ report = .error .unprintableInteger) ∧
      (¬Misdescribes executor.settings config .unprintableInteger →
        AreAlike response answer report) := by
  obtain ⟨answer, callAfter, hears, called⟩ : ∃ heard after,
      Hears executor.settings config (classifyCall response) heard ∧
        executor.handle call .apiCall (opened call.header state) = (.ofExcept heard, after) :=
    exists_callApi_eq describes callConfig answers
  obtain ⟨report, hookAfter, hearsToo, hooked⟩ : ∃ heard after,
      Hears executor.settings config (classifyHook response) heard ∧
        executor.handle hook .webhook (opened hook.header state) = (.ofExcept heard, after) :=
    exists_callWebhook_eq describes hookConfig answers
  refine ⟨answer, report, callAfter, hookAfter, callRuns.endsAs clock called,
    hookRuns.endsAs clock hooked, ?_, ?_⟩
  · intro misdescribes
    exact ⟨hears.unprinted misdescribes, hearsToo.unprinted misdescribes⟩
  · intro printed
    rw [hears.printed printed, hearsToo.printed printed]
    exact areAlike regular

section

/-- An executor in a world where every request has the same response. -/
def answeringExecutor (response : Http.Response) : Executor Unit :=
  { cancellingExecutor with
    collaborators :=
      { cancellingExecutor.collaborators with
        request := fun _ world => (.done (.answered response), world) } }

/-- A request without headers, and with a time limit that is written as a text. -/
def pingConfig : Fields := [("url", .text "http://x"), ("timeout_seconds", .text " 2.5 ")]

/-- A step of a type that sends the request. -/
def pingStep (type : String) : Step :=
  .mk (namedHeader "ping" type .null pingConfig) none none none none none none

theorem describesRequest_pingConfig : DescribesRequest pingConfig := by
  refine ⟨⟨"http://x", rfl, by decide⟩, nofun, ?_⟩
  rintro _ ⟨⟩
  exact ⟨_, rfl⟩

theorem printed_pingConfig (settings : Settings) :
    ¬Misdescribes settings pingConfig .unprintableInteger := by
  intro misdescribes
  cases misdescribes with
  | method notPrinted => cases notPrinted
  | timeout _ _ written misreads =>
      cases written
      cases misreads with
      | unprintable _ notPrinted => cases notPrinted
  | names _ headed _ notPrinted =>
      cases headed
      obtain ⟨_, member, _⟩ := notPrinted
      cases member
  | announced _ headed _ named notPrinted =>
      cases headed
      cases named
      cases notPrinted

/-- A success whose body is no JSON. -/
def brokenResponse : Http.Response := Rehearsal.response 200 [0x31, 0x7d]

theorem response_classified_alike_of_brokenResponse :
    let executor := answeringExecutor brokenResponse
    let state : State Unit := ⟨⟨[]⟩, [], ()⟩
    executor.ClockIsFinite ∧ executor.RunsAs (pingStep "api_call") .apiCall ∧
      executor.RunsAs (pingStep "webhook") .webhook ∧
      state.variables.resolveFields pingConfig = .ok pingConfig ∧ DescribesRequest pingConfig ∧
      executor.Answers brokenResponse state.world ∧ brokenResponse.IsRegular ∧
      (∃ reason, (executor.execute (pingStep "api_call") state).1 =
        .failed (.engine (.apiCallFailed (.int 200) (.text reason)))) ∧
      ∃ body, (executor.execute (pingStep "webhook") state).1 =
        .done (.object [("status", .int 200), ("success", .bool true), ("response", body)]) := by
  intro executor state
  have clock : executor.ClockIsFinite := fun _ _ => ⟨0, elapsedMs_zero⟩
  have callRuns : executor.RunsAs (pingStep "api_call") .apiCall := ⟨rfl, rfl⟩
  have hookRuns : executor.RunsAs (pingStep "webhook") .webhook := ⟨rfl, rfl⟩
  have resolved : state.variables.resolveFields pingConfig = .ok pingConfig := rfl
  have answers : executor.Answers brokenResponse state.world := fun _ => ⟨(), rfl⟩
  have regular := Rehearsal.isRegular_response 200 [0x31, 0x7d]
  obtain ⟨answer, report, callAfter, hookAfter, called, hooked, _, alike⟩ :=
    response_classified_alike clock callRuns hookRuns resolved resolved
      describesRequest_pingConfig answers regular
  have alike := alike (printed_pingConfig _)
  have noJson : brokenResponse.content ≠ [] ∧ brokenResponse.json? = none :=
    ⟨nofun, by decide +kernel⟩
  obtain ⟨failure, rfl⟩ := alike.fails_iff.mpr (.inr noJson)
  obtain ⟨reason, rfl⟩ := alike.failure failure rfl
  obtain ⟨body, rfl, _⟩ := alike.reported _ rfl
  exact ⟨clock, callRuns, hookRuns, resolved, describesRequest_pingConfig, answers, regular,
    ⟨reason, called.outcome_eq rfl⟩, body, hooked.outcome_eq rfl⟩

/-- A success whose headers name an encoding that its body is not in. -/
def garbledResponse : Http.Response :=
  { Rehearsal.response 200 "accepted".toUTF8.toList with
    text := .error (.raised "UnicodeError" "UTF-16 stream does not start with BOM") }

/-- A webhook whose output has no name. -/
def unnamedHook : Step :=
  .mk (namedHeader "ping" "webhook" (.list [.text "v"]) pingConfig) none none none none none none

/-- A webhook that is answered with a success fails over a text that is not decoded, and over a list
for the name of its output. -/
theorem webhook_fails_of_success :
    let state : State Unit := ⟨⟨[]⟩, [], ()⟩
    ((answeringExecutor garbledResponse).RunsAs (pingStep "webhook") .webhook ∧
      state.variables.resolveFields pingConfig = .ok pingConfig ∧ DescribesRequest pingConfig ∧
      (answeringExecutor garbledResponse).Answers garbledResponse state.world ∧
      garbledResponse.IsRegular ∧
      ((answeringExecutor garbledResponse).execute (pingStep "webhook") state).1 =
        .failed (.raised "UnicodeError" "UTF-16 stream does not start with BOM")) ∧
    (answeringExecutor (Rehearsal.response 200 [])).RunsAs unnamedHook .webhook ∧
      (answeringExecutor (Rehearsal.response 200 [])).Answers (Rehearsal.response 200 [])
        state.world ∧
      ((answeringExecutor (Rehearsal.response 200 [])).execute unnamedHook state).1 =
        .failed (.notAName "list") := by
  intro state
  have clock (response : Http.Response) : (answeringExecutor response).ClockIsFinite :=
    fun _ _ => ⟨0, elapsedMs_zero⟩
  have resolved : state.variables.resolveFields pingConfig = .ok pingConfig := rfl
  have answers (response : Http.Response) :
      (answeringExecutor response).Answers response state.world := fun _ => ⟨(), rfl⟩
  have hears (step : Step) (sends : step.config = pingConfig) (response : Http.Response) :
      ∃ after, (answeringExecutor response).handle step .webhook (opened step.header state) =
        (.ofExcept (classifyHook response), after) := by
    obtain ⟨heard, after, hears, hooked⟩ : ∃ heard after,
        Hears (answeringExecutor response).settings pingConfig (classifyHook response) heard ∧
          (answeringExecutor response).handle step .webhook (opened step.header state) =
            (.ofExcept heard, after) :=
      exists_callWebhook_eq describesRequest_pingConfig (sends ▸ resolved) (answers response)
    obtain rfl := hears.printed (printed_pingConfig _)
    exact ⟨after, hooked⟩
  refine ⟨?_, ?_⟩
  · have hookRuns : (answeringExecutor garbledResponse).RunsAs (pingStep "webhook") .webhook :=
      ⟨rfl, rfl⟩
    have regular : garbledResponse.IsRegular := by
      refine ⟨rfl, rfl, ?_⟩
      rintro _ ⟨⟩
      rfl
    obtain ⟨after, hooked⟩ := hears (pingStep "webhook") rfl garbledResponse
    exact ⟨hookRuns, resolved, describesRequest_pingConfig, answers _, regular,
      (hookRuns.endsAs (clock _) hooked).outcome_eq rfl⟩
  · have hookRuns : (answeringExecutor (Rehearsal.response 200 [])).RunsAs unnamedHook .webhook :=
      ⟨rfl, rfl⟩
    obtain ⟨after, hooked⟩ := hears unnamedHook rfl (Rehearsal.response 200 [])
    obtain ⟨reported, _, executed⟩ := hookRuns.endsAs (clock _) hooked
    refine ⟨hookRuns, answers _, ?_⟩
    rw [executed]
    rfl

end

end Executor
end Automation
