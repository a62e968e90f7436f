import Emptiness.Proofs.Validator.Change

/-!
# What an operation asks for

An operation can be read without knowing the validator: it asks for writes, each of them into one part of a
configuration, and may end with a fault. Neither depends on what the configuration holds, so a run leaves behind what
its writes make of the configuration at its start, one after the other. To make a validator is such a request too: its
writes go into the initial configuration.
-/

namespace Emptiness

/-- One thing that is written into a configuration: the rules, templates for some reasons, whether values are obscured,
or an option of others. -/
inductive Write where
  | rules (mask : Nat)
  | templates (messages : Messages)
  | obscured (obscured : Bool)
  | foreign (name value : Value)

/-- What is asked of a configuration, whatever it holds: the writes in order, and the fault that ends them, if any. -/
structure Request where
  writes : List Write
  fault? : Option Fault

/-- The reasons whose templates a key addresses: one by its own key, and all of them if there is no key. -/
def Reason.addressed : Value → Except Fault (List Reason)
  | .null => .ok inOrder
  | key =>
    match key.keyMisuse? with
    | some cause => .error (.misused cause)
    | none =>
      match ofKey? key with
      | some reason => .ok [reason]
      | none => .error (Value.faultWith (fun shown => .misconfigured (.unknownTemplate shown)) key)

/-- A key that is there addresses one reason, or it is refused. -/
theorem Reason.addressed_of_key {key : Value} (h : key ≠ .null) :
    addressed key =
      match key.keyMisuse? with
      | some cause => .error (.misused cause)
      | none =>
        match ofKey? key with
        | some reason => .ok [reason]
        | none => .error (Value.faultWith (fun shown => .misconfigured (.unknownTemplate shown)) key) := by
  unfold addressed
  split
  · exact absurd rfl h
  · rfl

namespace Messages

/-- Put messages, one after the other. -/
def putAll (messages more : Messages) : Messages :=
  more.foldl (fun all message => put all message.1 message.2) messages

/-- A message for each reason that a key addresses. -/
def under (reasons : List Reason) (message : Value) : Messages :=
  reasons.map fun reason => (reason, message)

/-- The templates that entries stand for, up to the first key that is refused. -/
def ofEntries : Entries → Messages × Option Fault
  | [] => ([], none)
  | (key, message) :: rest =>
    match Reason.addressed key with
    | .ok reasons => (under reasons message ++ (ofEntries rest).1, (ofEntries rest).2)
    | .error fault => ([], some fault)

end Messages

namespace Configuration

/-- A configuration into which something is written. -/
def write (config : Configuration) : Write → Configuration
  | .rules mask => { config with mask := mask }
  | .templates messages => { config with overrides := config.overrides.putAll messages }
  | .obscured obscured => { config with obscured := obscured }
  | .foreign name value => { config with foreign := config.foreign.put name value }

/-- A configuration after some writes. -/
def writeAll (config : Configuration) (writes : List Write) : Configuration :=
  writes.foldl write config

/-- One row of writes after another is a row of writes. -/
theorem writeAll_append (config : Configuration) (first second : List Write) :
    config.writeAll (first ++ second) = (config.writeAll first).writeAll second :=
  List.foldl_append

end Configuration

namespace Request

/-- One write is asked for. -/
def one (write : Write) : Request :=
  ⟨[write], none⟩

/-- Nothing is written. -/
def refused (fault : Fault) : Request :=
  ⟨[], some fault⟩

/-- One request after another, unless a fault ends the first. -/
def andThen (first second : Request) : Request :=
  match first.fault? with
  | none => ⟨first.writes ++ second.writes, second.fault?⟩
  | some _ => first

/-- The requests for the items of a list, up to the first fault. -/
def each {α : Type} (request : α → Request) : List α → Request
  | [] => ⟨[], none⟩
  | item :: rest => (request item).andThen (each request rest)

/-- The rules that a selector stands for. -/
def ofSelector (selector : Value) : Request :=
  match Selector.mask selector with
  | .ok mask => one (.rules mask)
  | .error fault => refused fault

/-- A template for the reasons that a key addresses. -/
def ofMessage (message key : Value) : Request :=
  match Reason.addressed key with
  | .ok reasons => one (.templates (.under reasons message))
  | .error fault => refused fault

/-- An option under its name. Of templates that are given together, those before the first that is refused are
written. -/
def ofOption (name value : Value) : Request :=
  match name.keyMisuse? with
  | some cause => refused (.misused cause)
  | none =>
    match OptionKey.ofName name with
    | .selector => ofSelector value
    | .templates => refused (.misconfigured .readOnlyTemplates)
    | .messages =>
      match value with
      | .mapping _ entries => ⟨[.templates (Messages.ofEntries entries).1], (Messages.ofEntries entries).2⟩
      | other => refused (.misconfigured (.messagesNotMapping other.typeName))
    | .obscured =>
      match value.truth with
      | .ok obscured => one (.obscured obscured)
      | .error fault => refused fault
    | .foreign name => one (.foreign name value)

/-- Options under their names. -/
def ofEntries (entries : Entries) : Request :=
  each (fun entry => ofOption entry.1 entry.2) entries

/-- The options of a mapping. -/
def ofOptions (options : Value) : Request :=
  match options with
  | .mapping _ entries => ofEntries entries
  | other => refused (.missingMember other.qualifiedTypeName "items")

/-- Nothing, if the selector leaves the default rules in place, and its rules otherwise. -/
def ofChosen (selector : Value) : Request :=
  if Selector.isBlank selector then ⟨[], none⟩ else ofSelector selector

end Request

/-- The selector and the other options that a validator is made from: those of a record, and further options, which
win. -/
def Options.merge (given : Value) (further : Options) : Except Fault (Value × Options) := do
  let (selector, rest) ← split given
  return (((rest.putAll further).get? selectorKey).getD selector, (rest.putAll further).remove selectorKey)

/-- What making a validator asks for: first the options in their order, and then the rules. -/
def Request.ofArguments (given : Value) (further : Options) : Request :=
  match Options.merge given further with
  | .ok (selector, others) => (ofEntries others.toEntries).andThen (ofChosen selector)
  | .error fault => refused fault

/-- What an operation asks for. Those that only check or read ask for nothing. -/
def Operation.request : Operation → Request
  | .setType selector => .ofSelector selector
  | .setOption name v => .ofOption name v
  | .setOptions given => .ofOptions given
  | .setMessage message key => .ofMessage message key
  | _ => ⟨[], none⟩

/-- The change that a request makes of a configuration. -/
def Request.make (request : Request) (config : Configuration) : Change :=
  ⟨config.writeAll request.writes, request.fault?⟩

/-- The configuration that a change leaves behind, unless a fault ends it. -/
def Change.outcome (change : Change) : Except Fault Configuration :=
  match change.fault? with
  | none => .ok change.config
  | some fault => .error fault

namespace Request

/-- A request that comes after another is made of what that leaves behind. -/
theorem make_andThen {first : Request} (h : first.fault? = none) (second : Request) (config : Configuration) :
    (first.andThen second).make config = second.make (config.writeAll first.writes) := by
  rw [andThen, h, make, Configuration.writeAll_append]
  rfl

/-- A fault ends a request before another that would come after it. -/
theorem andThen_of_fault {first : Request} {fault : Fault} (h : first.fault? = some fault) (second : Request) :
    first.andThen second = first := by
  rw [andThen, h]

end Request

namespace Configuration

/-- Changes that are made of requests, one after the other, are made of the requests together. -/
theorem changeEach_eq_make {α : Type} {change : Configuration → α → Change} {request : α → Request}
    (h : ∀ config item, change config item = (request item).make config) (config : Configuration) (items : List α) :
    config.changeEach change items = (Request.each request items).make config := by
  induction items generalizing config with
  | nil => rfl
  | cons item rest ih =>
    rw [changeEach, Request.each, h]
    cases hfault : (request item).fault? with
    | none =>
      have hmade : ((request item).make config).fault? = none := hfault
      rw [Request.make_andThen hfault, ← ih]
      simp only [hmade]
      rfl
    | some fault =>
      have hmade : ((request item).make config).fault? = some fault := hfault
      rw [Request.andThen_of_fault hfault]
      simp only [hmade]

/-- Choosing the rules is a request. -/
theorem setType_eq_make (config : Configuration) (selector : Value) :
    config.setType selector = (Request.ofSelector selector).make config := by
  rw [setType, Request.ofSelector]
  cases Selector.mask selector <;> rfl

/-- Replacing a template is a request. -/
theorem setMessage_eq_make (config : Configuration) (message key : Value) :
    config.setMessage message key = (Request.ofMessage message key).make config := by
  unfold setMessage Request.ofMessage
  split
  case h_1 => rfl
  case h_2 hkey =>
    rw [Reason.addressed_of_key hkey]
    cases key.keyMisuse? with
    | some cause => rfl
    | none => cases Reason.ofKey? key <;> rfl

/-- Replacing templates that are given together writes those before the first that is refused. -/
theorem setMessages_eq (config : Configuration) (entries : Entries) :
    config.setMessages entries =
      ⟨config.write (.templates (Messages.ofEntries entries).1), (Messages.ofEntries entries).2⟩ := by
  induction entries generalizing config with
  | nil => rfl
  | cons entry rest ih =>
    obtain ⟨key, message⟩ := entry
    rw [setMessages, changeEach, setMessage_eq_make, Request.ofMessage, Messages.ofEntries]
    cases Reason.addressed key with
    | error fault => rfl
    | ok reasons =>
      have hrest := ih (config.write (.templates (.under reasons message)))
      have hput : Messages.putAll (config.overrides.putAll (.under reasons message)) (Messages.ofEntries rest).1 =
          config.overrides.putAll (.under reasons message ++ (Messages.ofEntries rest).1) :=
        List.foldl_append.symm
      rw [write, write, hput] at hrest
      exact hrest

/-- Setting an option is a request. -/
theorem setOption_eq_make (config : Configuration) (name value : Value) :
    config.setOption name value = (Request.ofOption name value).make config := by
  unfold setOption Request.ofOption
  cases name.keyMisuse? with
  | some cause => rfl
  | none =>
    cases OptionKey.ofName name with
    | selector => exact config.setType_eq_make value
    | templates => rfl
    | messages =>
      cases value with
      | mapping kind entries => exact config.setMessages_eq entries
      | null | bool | int | float | text | sequence | octets | range | decimal => rfl
      | moment | flags | exception | validator | object => rfl
    | obscured =>
      dsimp only
      cases value.truth <;> rfl
    | foreign other => rfl

/-- Setting options is a request. -/
theorem setEntries_eq_make (config : Configuration) (entries : Entries) :
    config.setEntries entries = (Request.ofEntries entries).make config :=
  changeEach_eq_make (fun config entry => config.setOption_eq_make entry.1 entry.2) config entries

/-- Setting the options of a mapping is a request. -/
theorem setOptions_eq_make (config : Configuration) (options : Value) :
    config.setOptions options = (Request.ofOptions options).make config := by
  cases options with
  | mapping kind entries => exact config.setEntries_eq_make entries
  | null | bool | int | float | text | sequence | octets | range | decimal => rfl
  | moment | flags | exception | validator | object => rfl

/-- What choosing the rules of a selector makes of a configuration, unless the selector leaves the default ones. -/
theorem make_ofChosen (config : Configuration) (selector : Value) :
    ((Request.ofChosen selector).make config).outcome =
      if Selector.isBlank selector then .ok config
      else (Selector.mask selector).map fun mask => { config with mask := mask } := by
  rw [Request.ofChosen]
  split
  · rfl
  · rw [Request.ofSelector]
    cases Selector.mask selector <;> rfl

/-- A configuration is built by what making a validator asks of the initial one. -/
theorem build_eq_outcome (given : Value) (further : Options) :
    build given further = ((Request.ofArguments given further).make initial).outcome := by
  rw [build, Request.ofArguments, Options.merge]
  cases Options.split given with
  | error fault => rfl
  | ok parts =>
    obtain ⟨selector, rest⟩ := parts
    simp only [bind, Except.bind, pure, Except.pure, setEntries_eq_make, Options.toEntries]
    generalize ((rest.putAll further).get? selectorKey).getD selector = chosen
    generalize Request.ofEntries (List.map _ ((rest.putAll further).remove selectorKey)) = options
    cases hfault : options.fault? with
    | some fault =>
      have hmade : (options.make initial).fault? = some fault := hfault
      rw [Request.andThen_of_fault hfault, Change.outcome, hmade]
      rfl
    | none =>
      have hmade : (options.make initial).fault? = none := hfault
      rw [Request.make_andThen hfault, make_ofChosen, hmade]
      cases Selector.mask chosen <;> rfl

end Configuration

namespace Validator

/-- An operation that changes the configuration makes what it asks for. -/
theorem step_eq_afterChange (validator : Validator) {operation : Operation} (h : operation.configures = true) :
    validator.step operation = validator.afterChange (operation.request.make validator.config) := by
  cases operation with
  | setType selector => exact congrArg validator.afterChange (validator.config.setType_eq_make selector)
  | setOption name v => exact congrArg validator.afterChange (validator.config.setOption_eq_make name v)
  | setOptions given => exact congrArg validator.afterChange (validator.config.setOptions_eq_make given)
  | setMessage message key => exact congrArg validator.afterChange (validator.config.setMessage_eq_make message key)
  | check | type | defaultType | option | options | messages | value | verdict | literal => cases h

/-- An operation that changes the configuration succeeds exactly if no fault ends what it asks for. -/
theorem step_succeeds_iff (validator : Validator) {operation : Operation} (h : operation.configures = true) :
    (validator.step operation).2 = .ok .itself ↔ operation.request.fault? = none := by
  have hanswer : (validator.step operation).2 =
      (match operation.request.fault? with
        | none => .ok .itself
        | some fault => .error fault) := by
    rw [validator.step_eq_afterChange h]
    rfl
  rw [hanswer]
  cases operation.request.fault? with
  | none => exact iff_of_true rfl rfl
  | some fault => exact iff_of_false nofun nofun

/-- An operation leaves a configuration behind with what it asks for written into it. -/
theorem step_config (validator : Validator) (operation : Operation) :
    (validator.step operation).1.config = validator.config.writeAll operation.request.writes := by
  cases hkind : operation.configures with
  | true =>
    rw [validator.step_eq_afterChange hkind]
    rfl
  | false =>
    rw [step_config_of_not_configures validator hkind]
    cases operation with
    | setType | setOption | setOptions | setMessage => cases hkind
    | check | type | defaultType | option | options | messages | value | verdict | literal => rfl

/-- A run leaves behind what its writes make of the configuration at its start. -/
theorem run_config_eq (validator : Validator) (operations : List Operation) :
    (validator.run operations).config =
      validator.config.writeAll (operations.flatMap fun operation => operation.request.writes) := by
  induction operations generalizing validator with
  | nil => rfl
  | cons operation rest ih =>
    rw [run_cons, ih, step_config, List.flatMap_cons, Configuration.writeAll_append]

end Validator

end Emptiness
