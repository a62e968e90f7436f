import Emptiness.Validator.Configuration

/-!
# Validators

A validator is a configuration and the record of its latest check. Configuring never touches the record, and a
check replaces it as a whole and depends on nothing but the configuration and the value. `Validator.step` is one
operation on a validator, and `Validator.run` a sequence of them in which a fault does not stop what follows.
-/

namespace Emptiness

/-- What the latest check left behind. -/
structure Record where
  value : Value
  verdict : Verdict
  messages : Messages

/-- The record before any check. -/
def Record.fresh : Record :=
  ⟨.null, .notEmpty, []⟩

/-- A configuration and the record of the latest check. -/
structure Validator where
  config : Configuration
  record : Record

/-- What can be asked of a validator. -/
inductive Operation where
  | setType (selector : Value)
  | setOption (name value : Value)
  | setOptions (options : Value)
  | setMessage (message key : Value)
  | check (value : Value)
  | type
  | defaultType
  | option (name : Value)
  | options
  | messages
  | value
  | verdict
  | literal

/-- What an operation answers. -/
inductive Answer where
  | itself
  | verdict (v : Verdict)
  | value (v : Value)

/-- Check a value: the record that this leaves behind in the place of another, and whether the value is not empty. The
messages go first; the verdict stays as it was unless the value can be judged. -/
def Configuration.check (config : Configuration) (record : Record) (v : Value) : Record × Except Fault Bool :=
  match judge v config.mask with
  | .error fault => (⟨v, record.verdict, []⟩, .error fault)
  | .ok .notEmpty => (⟨v, .notEmpty, []⟩, .ok true)
  | .ok (.empty rule reason) =>
    match Template.render (config.template reason) config.obscured v with
    | .ok message => (⟨v, .empty rule reason, [(reason, message)]⟩, .ok false)
    | .error fault => (⟨v, .empty rule reason, []⟩, .error fault)

namespace Validator

/-- A validator that has checked nothing yet. -/
def ofConfiguration (config : Configuration) : Validator :=
  ⟨config, .fresh⟩

/-- Build a validator from a selector or an option record and further options. -/
def build (given : Value) (further : Options) : Except Fault Validator :=
  (Configuration.build given further).map ofConfiguration

/-- The name of the argument that can be given by position. -/
def positionalName : String := "options"

/-- An argument that is given twice: by its name and by position, as the validator itself always is. -/
def repeatedName? (hasPositional : Bool) (named : Options) : Option String :=
  let given := "self" :: if hasPositional then [positionalName] else []
  named.findSome? fun argument => given.find? fun name => argument.1 == (name : Text)

/-- Build a validator from an argument given by position, if any, and arguments given by name, which are further
options apart from the one that could also be given by position. -/
def ofArguments (positional : Option Value) (named : Options) : Except Fault Validator :=
  match repeatedName? positional.isSome named with
  | some name => .error (.misused (.repeatedArgument name))
  | none => build (positional.getD ((named.get? positionalName).getD .null)) (named.remove positionalName)

/-- The validator after a change of its configuration. -/
def afterChange (validator : Validator) (change : Change) : Validator × Except Fault Answer :=
  ({ validator with config := change.config },
    match change.fault? with
    | none => .ok .itself
    | some fault => .error fault)

/-- Check a value and keep the record. -/
def check (validator : Validator) (v : Value) : Validator × Except Fault Bool :=
  let (record, answer) := validator.config.check validator.record v
  ({ validator with record := record }, answer)

/-- One operation: the validator that it leaves behind, and its answer. -/
def step (validator : Validator) : Operation → Validator × Except Fault Answer
  | .setType selector => validator.afterChange (validator.config.setType selector)
  | .setOption name value => validator.afterChange (validator.config.setOption name value)
  | .setOptions options => validator.afterChange (validator.config.setOptions options)
  | .setMessage message key => validator.afterChange (validator.config.setMessage message key)
  | .check v =>
    let (after, answer) := validator.check v
    (after, answer.map fun isValid => .value (.bool isValid))
  | .type => (validator, .ok (.value (.flags validator.config.mask)))
  | .defaultType => (validator, .ok (.value (.flags defaultMask)))
  | .option name => (validator, (validator.config.option name).map .value)
  | .options => (validator, .ok (.value (.dict validator.config.options)))
  | .messages => (validator, .ok (.value validator.record.messages.toValue))
  | .value => (validator, .ok (.value validator.record.value))
  | .verdict => (validator, .ok (.verdict validator.record.verdict))
  | .literal => (validator, .ok (.value (.text (validatorLiteral validator.config.mask))))

/-- Operations one after the other. -/
def run (validator : Validator) (operations : List Operation) : Validator :=
  operations.foldl (fun current operation => (current.step operation).1) validator

end Validator

end Emptiness
