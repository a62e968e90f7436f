import Emptiness.Proofs.Validator.Run

/-!
# Configuration and record do not interfere

Checks leave no trace in the configuration: a run configures exactly as its configuring operations do alone. And the
record owes nothing to earlier checks or to later changes of the configuration: it is what the latest check would leave
behind on a new validator with the configuration in force at that moment.
-/

namespace Emptiness.Validator

/-- How a run configures does not depend on the record at its start. -/
theorem run_config_congr {first second : Validator} (h : first.config = second.config)
    (operations : List Operation) : (first.run operations).config = (second.run operations).config := by
  induction operations generalizing first second with
  | nil => exact h
  | cons operation rest ih => exact ih (step_config_congr h operation)

/-- A run configures exactly as its configuring operations do alone. -/
theorem run_config_filter (validator : Validator) (operations : List Operation) :
    (validator.run operations).config = (validator.run (operations.filter Operation.configures)).config := by
  induction operations generalizing validator with
  | nil => rfl
  | cons operation rest ih =>
    rw [run_cons, ih]
    cases hkind : operation.configures with
    | true => rw [List.filter_cons_of_pos hkind, run_cons]
    | false =>
      rw [List.filter_cons_of_neg (by rw [hkind]; exact Bool.false_ne_true)]
      exact run_config_congr (step_config_of_not_configures validator hkind) _

/-- The record that the latest check of a run leaves behind on a new validator with the configuration in force at that
moment; the fresh record if the run checks nothing. -/
def IsLatestRecord (validator : Validator) (operations : List Operation) (record : Record) : Prop :=
  (∀ operation ∈ operations, operation.checked? = none) ∧ record = .fresh ∨
    ∃ earlier v later, operations = earlier ++ .check v :: later ∧
      (∀ operation ∈ later, operation.checked? = none) ∧
      record = ((ofConfiguration (validator.run earlier).config).step (.check v)).1.record

/-- The configuration after a run is that of its configuring operations alone, and the record is that of its latest
check alone, made by a new validator with the configuration of that moment. -/
theorem run_independent {validator : Validator} (constructed : Constructed validator) (operations : List Operation) :
    (validator.run operations).config = (validator.run (operations.filter Operation.configures)).config ∧
      validator.IsLatestRecord operations (validator.run operations).record := by
  refine ⟨run_config_filter validator operations, ?_⟩
  rcases exists_latest_check operations with hnone | ⟨earlier, v, later, rfl, hlater⟩
  · exact .inl ⟨hnone, (run_record_of_unchecked validator hnone).trans constructed.record_eq⟩
  · refine .inr ⟨earlier, v, later, rfl, hlater, ?_⟩
    rw [run_record_of_latest validator earlier v hlater, step_check_record]

/-- A check that fails for want of a template, between changes of the rules, is the latest of its run. -/
theorem run_independent_of_failed_check :
    let validator := ofConfiguration .initial
    let operations : List Operation := [.check (.text "0"), .setMessage (.int 5) .null, .setType (.text "zero"),
      .check (.text "0"), .setType (.bool true), .setType (.text "string"), .messages]
    Constructed validator ∧
      (validator.run operations).config = (validator.run (operations.filter Operation.configures)).config ∧
      validator.IsLatestRecord operations (validator.run operations).record := by
  intro validator operations
  have hbuild : Validator.ofArguments none [] = .ok validator := rfl
  have hconstructed : Constructed validator := .arguments hbuild
  exact ⟨hconstructed, run_independent hconstructed operations⟩

end Emptiness.Validator
