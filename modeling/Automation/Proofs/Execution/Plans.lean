import Automation.Proofs.Blueprint.Soundness
import Automation.Proofs.Execution.Slips
import Automation.Proofs.Number.Bounds

/-!
The plans of retries that were read.

A retry names the number of its attempts in the lines that report them. Where everything in a step
that is read is printed, that number is printed too, at every depth, whether it comes from the block
of the retry, from its configuration or from the settings.
-/

namespace Automation

namespace Value

theorem isPrintable_orElse {first second : Value} (printable : first.isPrintable = true)
    (printableToo : second.isPrintable = true) : (first.orElse second).isPrintable = true := by
  unfold orElse
  split
  · exact printable
  · exact printableToo

theorem isPrintable_of_mem_items {value item : Value} (printable : value.isPrintable = true)
    (listed : item ∈ value.items) : item.isPrintable = true := by
  cases value with
  | list items => exact arePrintable_iff.mp printable item listed
  | _ => cases listed

end Value

namespace Validation

open Value

variable {fields : Fields}

theorem isPrintable_of_mem_stepsInside (printable : arePrintableFields fields = true)
    {step : Value} (inside : step ∈ stepsInside fields) : step.isPrintable = true := by
  simp only [stepsInside, listsInside, verdictSteps, List.mem_append, List.mem_flatten,
    List.mem_map, List.mem_filterMap] at inside
  rcases inside with ⟨_, ⟨names, _, rfl⟩, listed⟩ | ⟨verdict, _, found⟩
  · apply isPrintable_of_mem_items _ listed
    exact isPrintable_valueOf (arePrintableFields_fields (isPrintable_valueOf printable names.1)) _
  · have held := isPrintable_valueOf
      (arePrintableFields_fields (isPrintable_valueOf printable "config")) verdict
    rwa [Fields.valueOf, found] at held

end Validation

namespace Step

open Value Validation

variable {fields : Fields} {path : String} {step : Step}

/-- Whether the values that a step takes the number of its attempts from are printed. -/
def PrintsAttempts (step : Step) : Prop :=
  ((step.retry.map RetryBlock.maxAttempts).getD .null).isPrintable = true ∧
    (Fields.valueOf "max_attempts" step.header.config).isPrintable = true

theorem printsAttempts_of_readFields (printable : arePrintableFields fields = true)
    (success : readFields path fields = .ok step) : step.PrintsAttempts := by
  obtain ⟨_, _, _, _, _, isRetry, _⟩ := readFields_eq_ok_iff.mp success
  constructor
  · rw [readRetry_eq] at isRetry
    split at isRetry
    · next block held =>
        simp only [bind_eq_ok_iff, Except.ok.injEq] at isRetry
        obtain ⟨_, _, _, _, isBlock⟩ := isRetry
        have inBlock := isPrintable_valueOf printable "retry"
        rw [held] at inBlock
        rw [← isBlock]
        exact isPrintable_valueOf inBlock "max_attempts"
    · rw [← Except.ok.inj isRetry]
      rfl
  · rw [← Step.config, config_of_readFields success]
    apply isPrintable_valueOf
    exact arePrintableFields_fields (isPrintable_valueOf printable "config")

theorem throughout_printsAttempts {value : Value} (printable : value.isPrintable = true)
    (success : read path value = .ok step) : step.Throughout PrintsAttempts := by
  induction step using inductionOnChildren generalizing path value with
  | inherit step inside =>
      obtain ⟨fields, rfl, isRead⟩ := exists_fields_of_read success
      refine .mk (printsAttempts_of_readFields printable isRead) fun child member => ?_
      obtain ⟨inner, stands, place, isInner⟩ := exists_read_of_mem_children isRead member
      exact inside child member (isPrintable_of_mem_stepsInside printable stands) isInner

end Step

namespace Executor

variable {σ : Type} {executor : Executor σ} {step : Step} {plan : RetryPlan}

/-- A plan has the number that its value stands for, which is at least one. -/
theorem attempts_of_planOf (planned : executor.planOf step = .ok plan) :
    (executor.attemptsOf step).toInteger? = .ok (some plan.attempts) ∧ 1 ≤ plan.attempts := by
  rw [planOf, retryPlan] at planned
  simp only [bind_eq_ok_iff] at planned
  obtain ⟨attempts?, stands, planned⟩ := planned
  split at planned
  · cases planned
  · obtain ⟨backoff?, _, planned⟩ := bind_eq_ok_iff.mp planned
    split at planned
    · cases planned
    · split at planned
      · cases planned
      · next allowed =>
          cases planned
          exact ⟨stands, Int.not_lt.mp allowed⟩

theorem isPrintable_attempts (prints : step.PrintsAttempts)
    (default : Value.isPrintableInteger executor.settings.defaultRetryAttempts = true)
    (planned : executor.planOf step = .ok plan) :
    Value.isPrintableInteger plan.attempts = true := by
  apply Value.isPrintableInteger_of_toInteger? _ (attempts_of_planOf planned).1
  exact Value.isPrintable_orElse (Value.isPrintable_orElse prints.1 prints.2) default

/-- The lines that name the number of attempts are written, at whatever depth the retry stands. -/
theorem throughout_isPrintable_attempts {path : String} {value : Value}
    (printable : value.isPrintable = true)
    (default : Value.isPrintableInteger executor.settings.defaultRetryAttempts = true)
    (success : Step.read path value = .ok step) :
    step.Throughout fun inner => ∀ plan, executor.planOf inner = .ok plan →
      Value.isPrintableInteger plan.attempts = true := by
  apply (Step.throughout_printsAttempts printable success).imp
  intro inner prints plan planned
  exact isPrintable_attempts prints default planned

end Executor
end Automation
