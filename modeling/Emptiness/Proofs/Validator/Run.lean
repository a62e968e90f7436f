import Emptiness.OptionsFile
import Emptiness.Proofs.Verdict.Finding
import Emptiness.Validator.Basic

/-!
# Runs of a validator

A run is any sequence of operations, those that end with a fault included. Its operations are of three kinds: some
change the configuration, checks replace the record, and the rest only read. One lemma for each part of a validator says
what a step of each kind does to it. A check never fails to judge, so the record that it leaves behind owes nothing to
the record that was there before. Every run either checks nothing or has a latest check.
-/

namespace Emptiness

/-- The operation changes the configuration. -/
def Operation.configures : Operation → Bool
  | .setType _ | .setOption .. | .setOptions _ | .setMessage .. => true
  | _ => false

/-- The value that an operation checks. -/
def Operation.checked? : Operation → Option Value
  | .check v => some v
  | _ => none

/-- A check always judges the value. If the value is empty, the message is made last, and only that can fail. -/
theorem Configuration.check_cases (config : Configuration) (record : Record) (v : Value) :
    judge v config.mask = .ok .notEmpty ∧ config.check record v = (⟨v, .notEmpty, []⟩, .ok true) ∨
      ∃ rule reason, judge v config.mask = .ok (.empty rule reason) ∧
        ((∃ message, Template.render (config.template reason) config.obscured v = .ok message ∧
            config.check record v = (⟨v, .empty rule reason, [(reason, message)]⟩, .ok false)) ∨
          ∃ fault, Template.render (config.template reason) config.obscured v = .error fault ∧
            config.check record v = (⟨v, .empty rule reason, []⟩, .error fault)) := by
  have hjudge := judge_eq_firstVerdict v config.mask
  rw [Configuration.check, hjudge]
  cases firstVerdict Rule.inOrder v config.mask with
  | notEmpty => exact .inl ⟨rfl, rfl⟩
  | empty rule reason =>
    refine .inr ⟨rule, reason, rfl, ?_⟩
    cases hrender : Template.render (config.template reason) config.obscured v with
    | ok message => exact .inl ⟨message, rfl, by simp only [hrender]⟩
    | error fault => exact .inr ⟨fault, rfl, by simp only [hrender]⟩

/-- What a check leaves behind does not depend on the record before it. -/
theorem Configuration.check_eq (config : Configuration) (record other : Record) (v : Value) :
    config.check record v = config.check other v := by
  rw [Configuration.check, Configuration.check, judge_eq_firstVerdict]
  cases firstVerdict Rule.inOrder v config.mask <;> rfl

namespace Validator

/-- A validator as it is made: from arguments, or from the options in a file. -/
inductive Constructed : Validator → Prop
  | arguments {positional : Option Value} {named : Options} {validator : Validator}
      (hbuild : Validator.ofArguments positional named = .ok validator) : Constructed validator
  | optionsFile {path : String} {entry : FileEntry} {options : Entries} {validator : Validator}
      (hload : loadOptions path entry = .ok options) (hbuild : Validator.build (.dict options) [] = .ok validator) :
      Constructed validator

/-- Every validator is made by building a configuration, and has checked nothing yet. -/
theorem Constructed.exists_build {validator : Validator} (h : Constructed validator) :
    ∃ given further config, Configuration.build given further = .ok config ∧ validator = .ofConfiguration config := by
  have hmap {given : Value} {further : Options} (hbuild : Validator.build given further = .ok validator) :
      ∃ config, Configuration.build given further = .ok config ∧ validator = .ofConfiguration config := by
    obtain ⟨config, hconfig, rfl⟩ := map_eq_ok hbuild
    exact ⟨config, hconfig, rfl⟩
  cases h with
  | arguments hbuild =>
    rw [Validator.ofArguments] at hbuild
    split at hbuild
    · cases hbuild
    · exact ⟨_, _, hmap hbuild⟩
  | optionsFile _ hbuild => exact ⟨_, _, hmap hbuild⟩

/-- A validator that is just made has the fresh record. -/
theorem Constructed.record_eq {validator : Validator} (h : Constructed validator) : validator.record = .fresh := by
  obtain ⟨_, _, config, -, rfl⟩ := h.exists_build
  rfl

/-- Choosing rules replaces the mask, or is refused and changes nothing. -/
theorem step_setType (validator : Validator) (selector : Value) :
    validator.step (.setType selector) =
      match Selector.mask selector with
      | .ok mask => ({ validator with config := { validator.config with mask := mask } }, .ok .itself)
      | .error fault => (validator, .error fault) := by
  rw [step, afterChange, Configuration.setType]
  cases Selector.mask selector <;> rfl

/-- Only operations that change the configuration change it. -/
theorem step_config_of_not_configures (validator : Validator) {operation : Operation}
    (h : operation.configures = false) : (validator.step operation).1.config = validator.config := by
  cases operation with
  | setType | setOption | setOptions | setMessage => cases h
  | check | type | defaultType | option | options | messages | value | verdict | literal => rfl

/-- How an operation changes the configuration does not depend on the record. -/
theorem step_config_congr {first second : Validator} (h : first.config = second.config) (operation : Operation) :
    (first.step operation).1.config = (second.step operation).1.config := by
  cases operation with
  | setType | setOption | setOptions | setMessage => simp only [step, afterChange, h]
  | check | type | defaultType | option | options | messages | value | verdict | literal => exact h

/-- Only checks touch the record. -/
theorem step_record_of_unchecked (validator : Validator) {operation : Operation}
    (h : operation.checked? = none) : (validator.step operation).1.record = validator.record := by
  cases operation with
  | check => cases h
  | setType | setOption | setOptions | setMessage => rfl
  | type | defaultType | option | options | messages | value | verdict | literal => rfl

/-- A check leaves the record behind that it leaves on a validator that has checked nothing yet. -/
theorem step_check_record (validator : Validator) (v : Value) :
    (validator.step (.check v)).1.record = ((ofConfiguration validator.config).step (.check v)).1.record :=
  congrArg Prod.fst (Configuration.check_eq validator.config validator.record .fresh v)

/-- A run starts with the step of its first operation. -/
theorem run_cons (validator : Validator) (operation : Operation) (rest : List Operation) :
    validator.run (operation :: rest) = (validator.step operation).1.run rest :=
  rfl

/-- One run after another is a run. -/
theorem run_append (validator : Validator) (first second : List Operation) :
    validator.run (first ++ second) = (validator.run first).run second :=
  List.foldl_append

/-- A run that checks nothing leaves the record as it is. -/
theorem run_record_of_unchecked (validator : Validator) {operations : List Operation}
    (h : ∀ operation ∈ operations, operation.checked? = none) :
    (validator.run operations).record = validator.record := by
  induction operations generalizing validator with
  | nil => rfl
  | cons operation rest ih =>
    rw [List.forall_mem_cons] at h
    rw [run_cons, ih _ h.2, step_record_of_unchecked validator h.1]

/-- The record is the one that the latest check leaves behind. -/
theorem run_record_of_latest (validator : Validator) (earlier : List Operation) (v : Value) {later : List Operation}
    (h : ∀ operation ∈ later, operation.checked? = none) :
    (validator.run (earlier ++ .check v :: later)).record = ((validator.run earlier).step (.check v)).1.record := by
  rw [run_append, run_cons, run_record_of_unchecked _ h]

end Validator

/-- A run checks nothing, or it has a latest check. -/
theorem exists_latest_check (operations : List Operation) :
    (∀ operation ∈ operations, operation.checked? = none) ∨
      ∃ earlier v later, operations = earlier ++ .check v :: later ∧
        ∀ operation ∈ later, operation.checked? = none := by
  induction operations with
  | nil => exact .inl (fun _ h => (List.not_mem_nil h).elim)
  | cons operation rest ih =>
    rcases ih with hnone | ⟨earlier, v, later, rfl, hlater⟩
    · cases operation with
      | check v => exact .inr ⟨[], v, rest, rfl, hnone⟩
      | setType | setOption | setOptions | setMessage => exact .inl (List.forall_mem_cons.mpr ⟨rfl, hnone⟩)
      | type | defaultType | option | options | messages | value | verdict | literal =>
        exact .inl (List.forall_mem_cons.mpr ⟨rfl, hnone⟩)
    · exact .inr ⟨operation :: earlier, v, later, rfl, hlater⟩

end Emptiness
