import Automation.Blueprint.Reader
import Automation.Blueprint.Writer
import Automation.Condition.Safety

/-!
Validation of stored blueprints.

`flaws` walks a value the way a blueprint is read and lists everything that is wrong with it, at
every depth. `load` reads a blueprint that has no flaws. A message may show a value of the data, and
data that was read from JSON holds no integer with more digits than are printed.
-/

namespace Automation

/-- What is wrong with a stored blueprint, and where. -/
inductive Flaw where
  | blueprintNotAnObject
  | missingSteps
  | variablesNotAnObject
  | stepsNotAList (path : String)
  | stepNotAnObject (place : String)
  | emptyId (place : String)
  | duplicateId (id : String)
  | missingType (place : String)
  | unknownType (place : String) (type : Value)
  | notABoolean (place : String) (name : String)
  | configNotAnObject (place : String)
  | missingUrl (place : String) (type : StepType)
  | badDuration (place : String)
  | missingExpression (place : String)
  | hazard (place : String) (hazard : Condition.Hazard)
  | missingBlock (place : String) (type : StepType)
  | badAttempts (place : String)
  deriving BEq, Repr, Inhabited

namespace Flaw

/-- A flaw in words. -/
def message : Flaw → String
  | .blueprintNotAnObject => "Blueprint must be an object"
  | .missingSteps => "Missing required field: steps"
  | .variablesNotAnObject => "Field 'variables' must be an object"
  | .stepsNotAList path => s!"{path} must be a list"
  | .stepNotAnObject place => s!"{place}: must be an object"
  | .emptyId place => s!"{place}: 'id' must be a non-empty string"
  | .duplicateId id => s!"Duplicate step ID: {id}"
  | .missingType place => s!"{place}: missing required field 'type'"
  | .unknownType place type => s!"{place}: invalid type '{type.display}'"
  | .notABoolean place name => s!"{place}: {name} must be a boolean"
  | .configNotAnObject place => s!"{place}: config must be an object"
  | .missingUrl place type => s!"{place}: {type.name} step requires 'url' in config"
  | .badDuration place => s!"{place}: delay duration must be a non-negative number"
  | .missingExpression place => s!"{place}: condition step requires an expression"
  | .hazard place kind => s!"{place}: {kind.message}"
  | .missingBlock place type => s!"{place}: {type.name} step requires a '{type.name}' object"
  | .badAttempts place => s!"{place}: max_attempts must be a positive integer"

end Flaw

namespace Validation

/-- The flaw of an expression that is there but unsafe. -/
def expressionFlaws (place : String) (expression : Value) : List Flaw :=
  if expression.isNull then []
  else match Condition.check Condition.forbiddenKeywords expression with
    | .ok _ => []
    | .error found => [.hazard place found]

/-- Whether a duration is a number that is not negative. -/
def isDuration : Value → Bool
  | .int number => 0 ≤ number
  | .float number => number.isZero || !number.isNegative
  | _ => false

/-- Whether a number of attempts is a positive integer. -/
def isAttempts : Value → Bool
  | .int number => 1 ≤ number
  | _ => false

/-- The expression of a condition step: from its configuration, else from its block. -/
def conditionExpression (fields config : Fields) : Value :=
  let configured := Fields.valueOf "condition" config
  if configured.isNull then
    Fields.valueOf "expression" (Fields.valueOf "condition" fields).fields
  else configured

/-- What is wrong with the configuration and the block that a type of step asks for. -/
def typeFlaws (place : String) (fields config : Fields) : StepType → List Flaw
  | .apiCall =>
      if (Fields.valueOf "url" config).truthy then [] else [.missingUrl place .apiCall]
  | .webhook =>
      if (Fields.valueOf "url" config).truthy then [] else [.missingUrl place .webhook]
  | .agentCall => []
  | .delay =>
      match Entries.get? "duration" config with
      | some duration => if isDuration duration then [] else [.badDuration place]
      | none => []
  | .condition =>
      let expression := conditionExpression fields config
      (if expression.isNull then [.missingExpression place] else [])
        ++ expressionFlaws place expression
  | .loop => if (Fields.valueOf "loop" fields).isObject then [] else [.missingBlock place .loop]
  | .retry =>
      match Fields.valueOf "retry" fields with
      | .object retry =>
          match Entries.get? "max_attempts" retry with
          | some attempts => if isAttempts attempts then [] else [.badAttempts place]
          | none => []
      | _ => [.missingBlock place .retry]
  | .fallback =>
      if (Fields.valueOf "fallback" fields).isObject then [] else [.missingBlock place .fallback]

/-- What is wrong with the configuration of a step. A configuration that is no object is the only
flaw reported. -/
def configFlaws (place : String) (fields : Fields) (type : Option StepType) : List Flaw :=
  match Entries.get? "config" fields with
  | some (.object config) => (type.map (typeFlaws place fields config)).getD []
  | some _ => [.configNotAnObject place]
  | none => (type.map (typeFlaws place fields [])).getD []

/-- The flaw of a switch that is there but is no truth value. -/
def switchFlaws (place : String) (fields : Fields) (name : String) : List Flaw :=
  match Entries.get? name fields with
  | none | some (.bool _) => []
  | some _ => [.notABoolean place name]

/-- What is wrong with the id of a step, and how the step is called from here on. -/
def nameStep (place : String) (fields : Fields) : List Flaw × String :=
  match Entries.get? "id" fields with
  | none => ([], place)
  | some (.text id) =>
      if Text.trim id.toList = [] then ([.emptyId place], place) else ([], s!"Step '{id}'")
  | some _ => ([.emptyId place], place)

/-- The type of a step. A list or an object is no name at all, which is a failure. -/
def stepType (place : String) : Value → Except Failure (List Flaw × Option StepType)
  | .list _ => .error (.notAName "list")
  | .object _ => .error (.notAName "dict")
  | .text name =>
      match StepType.ofName? name with
      | some type => .ok ([], some type)
      | none => .ok ([.unknownType place (.text name)], none)
  | other => .ok ([.unknownType place other], none)

/-- The flaws of a step that lie in the step itself, the place it is called by, and whether the
steps inside it are looked at. -/
def headFlaws (place : String) (fields : Fields) :
    Except Failure (List Flaw × String × Bool) := do
  let (idFlaws, place) := nameStep place fields
  match Entries.get? "type" fields with
  | none => .ok (idFlaws ++ [.missingType place], place, false)
  | some written => do
      let (nameFlaws, type) ← stepType place written
      .ok (idFlaws ++ nameFlaws ++ switchFlaws place fields "stopOnError"
        ++ switchFlaws place fields "stop_on_error" ++ configFlaws place fields type, place, true)

/-- The flaw of an id that was seen before in the same list, and the ids seen with it. -/
def duplicateFlaws (seen : List String) (step : Value) : List Flaw × List String :=
  match Fields.valueOf "id" step.fields with
  | .text id =>
      if id = "" then ([], seen)
      else if seen.contains id then ([.duplicateId id], seen)
      else ([], id :: seen)
  | _ => ([], seen)

mutual

/-- What is wrong with a step and the steps inside it. -/
def stepFlaws (place : String) : Value → Except Failure (List Flaw)
  | .object fields => do
      let (own, name, complete) ← headFlaws place fields
      if complete then do
        let ifTrue ← blockFlaws name fields "condition" "if_true"
        let ifFalse ← blockFlaws name fields "condition" "if_false"
        let loop ← blockFlaws name fields "loop" "steps"
        let retry ← blockFlaws name fields "retry" "steps"
        let recovery ← blockFlaws name fields "retry" "on_retry_fail_steps"
        let primary ← blockFlaws name fields "fallback" "primary_steps"
        let alternative ← blockFlaws name fields "fallback" "fallback_steps"
        let trueStep ← verdictFlaws name fields "trueStep"
        let falseStep ← verdictFlaws name fields "falseStep"
        .ok (own ++ ifTrue ++ ifFalse ++ loop ++ retry ++ recovery ++ primary ++ alternative
          ++ trueStep ++ falseStep)
      else .ok own
  | _ => .ok [.stepNotAnObject place]
  termination_by value => (sizeOf value, 0)
  decreasing_by
    all_goals
      apply Prod.Lex.left
      simp only [Value.object.sizeOf_spec]
      omega

/-- What is wrong with the steps of one list of a block. -/
def blockFlaws (place : String) (fields : Fields) (blockName listName : String) :
    Except Failure (List Flaw) :=
  match _found : Fields.valueOf blockName fields with
  | .object block =>
      match _listed : Fields.valueOf listName block with
      | .null => .ok []
      | steps => listFlaws s!"{place}.{blockName}.{listName}" steps
  | _ => .ok []
  termination_by (sizeOf fields, 0)
  decreasing_by
    have smaller := Fields.sizeOf_lt_of_valueOf _found
    have bound := Fields.sizeOf_valueOf_le listName block
    rw [_listed] at bound
    apply Prod.Lex.left
    omega

/-- What is wrong with a step in the configuration. -/
def verdictFlaws (place : String) (fields : Fields) (name : String) :
    Except Failure (List Flaw) :=
  match _found : Entries.get? name (Fields.valueOf "config" fields).fields with
  | some step => stepFlaws s!"{place}.config.{name}" step
  | none => .ok []
  termination_by (sizeOf fields, 0)
  decreasing_by
    have smaller := Fields.sizeOf_lt_of_get? _found
    have inner := Value.sizeOf_fields_le (Fields.valueOf "config" fields)
    have outer := Fields.sizeOf_valueOf_le "config" fields
    apply Prod.Lex.left
    omega

/-- What is wrong with a list of steps. -/
def listFlaws (path : String) : Value → Except Failure (List Flaw)
  | .list items => itemFlaws path 0 [] items
  | _ => .ok [.stepsNotAList path]
  termination_by value => (sizeOf value, 0)

/-- What is wrong with the steps of a list from a position on, after the ids seen before. -/
def itemFlaws (path : String) (position : Nat) (seen : List String) :
    List Value → Except Failure (List Flaw)
  | [] => .ok []
  | item :: rest => do
      let own ← stepFlaws s!"{path}[{position}]" item
      let (duplicates, seen) := duplicateFlaws seen item
      let others ← itemFlaws path (position + 1) seen rest
      .ok (own ++ duplicates ++ others)
  termination_by items => (sizeOf items, 0)

end

/-- What is wrong with a stored blueprint. -/
def flaws : Value → Except Failure (List Flaw)
  | .object fields =>
      match Entries.get? "steps" fields with
      | none => .ok [.missingSteps]
      | some steps => do
          let found ← listFlaws "steps" steps
          match Entries.get? "variables" fields with
          | none | some (.object _) => .ok found
          | some _ => .ok (found ++ [.variablesNotAnObject])
  | _ => .ok [.blueprintNotAnObject]

end Validation

namespace Blueprint

/-- The messages of the flaws of a stored blueprint. -/
def validate (data : Value) : Except Failure (List String) :=
  (List.map Flaw.message) <$> Validation.flaws data

/-- The messages of the flaws of a blueprint, in the form that it is stored in. -/
def validateStored (blueprint : Blueprint) : Except Failure (List String) :=
  validate blueprint.stored

/-- The error of a blueprint with flaws. -/
def invalid (messages : List String) : EngineError :=
  .blueprintInvalid ("Blueprint validation failed: " ++ "; ".intercalate messages)
    (messages.map .text)

/-- The blueprint of a value without flaws. -/
def load (data : Value) : Except Failure Blueprint := do
  let messages ← validate data
  if messages.isEmpty then
    match read data with
    | .ok blueprint => .ok blueprint
    | .error malformed => .error (.engine malformed.error)
  else .error (.engine (invalid messages))

end Blueprint
end Automation
