import Emptiness.Selector
import Emptiness.Validator.Template

/-!
# Configuration

What a validator is set up with: its rules, the templates that replace the default ones, whether values are
obscured in messages, and options of others that are kept as they are. Each change answers the configuration
that it leaves behind together with the fault that ended it, if any: a change of many parts keeps the parts that
came before the fault.
-/

namespace Emptiness

/-- The configuration of a validator. -/
structure Configuration where
  mask : Nat
  overrides : Messages
  obscured : Bool
  foreign : Entries

/-- The configuration that a change leaves behind, and the fault that ended it. -/
structure Change where
  config : Configuration
  fault? : Option Fault

/-- An option, whatever the spelling of its name. -/
inductive OptionKey where
  | selector
  | templates
  | messages
  | obscured
  | foreign (name : Value)

/-- The option that a name stands for. -/
def OptionKey.ofName (name : Value) : OptionKey :=
  match name with
  | .text s =>
    match s.string? with
    | some "type" => .selector
    | some "message_templates" => .templates
    | some "messageTemplates" => .templates
    | some "messages" => .messages
    | some "value_obscured" => .obscured
    | some "valueObscured" => .obscured
    | _ => .foreign name
  | _ => .foreign name

namespace Configuration

/-- The configuration before any option is set. -/
def initial : Configuration :=
  ⟨defaultMask, [], false, []⟩

/-- The change succeeds with this configuration. -/
def done (config : Configuration) : Change :=
  ⟨config, none⟩

/-- The change ends with a fault. -/
def refuse (config : Configuration) (fault : Fault) : Change :=
  ⟨config, some fault⟩

/-- Apply a change for each item in turn, up to the first fault. -/
def changeEach {α : Type} (change : Configuration → α → Change) (config : Configuration) : List α → Change
  | [] => config.done
  | item :: rest =>
    let first := change config item
    match first.fault? with
    | none => changeEach change first.config rest
    | some _ => first

/-- Choose the rules. -/
def setType (config : Configuration) (selector : Value) : Change :=
  match Selector.mask selector with
  | .ok mask => done { config with mask := mask }
  | .error fault => config.refuse fault

/-- Replace the template of one reason, or of all of them if there is no key. -/
def setMessage (config : Configuration) (message key : Value) : Change :=
  match key with
  | .null =>
    done { config with overrides := Reason.inOrder.foldl (fun all reason => all.put reason message) config.overrides }
  | key =>
    match key.keyMisuse? with
    | some cause => config.refuse (.misused cause)
    | none =>
      match Reason.ofKey? key with
      | some reason => done { config with overrides := config.overrides.put reason message }
      | none => config.refuse (Value.faultWith (fun shown => .misconfigured (.unknownTemplate shown)) key)

/-- Replace templates, given under their keys. -/
def setMessages (config : Configuration) (entries : Entries) : Change :=
  config.changeEach (fun config entry => config.setMessage entry.2 entry.1) entries

/-- Set an option. -/
def setOption (config : Configuration) (name value : Value) : Change :=
  match name.keyMisuse? with
  | some cause => config.refuse (.misused cause)
  | none =>
    match OptionKey.ofName name with
    | .selector => config.setType value
    | .templates => config.refuse (.misconfigured .readOnlyTemplates)
    | .messages =>
      match value with
      | .mapping _ entries => config.setMessages entries
      | other => config.refuse (.misconfigured (.messagesNotMapping other.typeName))
    | .obscured =>
      match value.truth with
      | .ok obscured => done { config with obscured := obscured }
      | .error fault => config.refuse fault
    | .foreign name => done { config with foreign := config.foreign.put name value }

/-- Set options, given under their names. -/
def setEntries (config : Configuration) (entries : Entries) : Change :=
  config.changeEach (fun config entry => config.setOption entry.1 entry.2) entries

/-- Set the options of a mapping. -/
def setOptions (config : Configuration) (options : Value) : Change :=
  match options with
  | .mapping _ entries => config.setEntries entries
  | other => config.refuse (.missingMember other.qualifiedTypeName "items")

/-- The value of an option. -/
def option (config : Configuration) (name : Value) : Except Fault Value := do
  name.requireKey
  match OptionKey.ofName name with
  | .selector => return .flags config.mask
  | .templates => return defaultTemplates
  | .messages => return config.overrides.toValue
  | .obscured => return .bool config.obscured
  | .foreign name =>
    match Entries.find? config.foreign name with
    | some value => return value
    | none => throw (Value.faultWith (fun shown => .misconfigured (.unknownOption shown)) name)

/-- All options: those of others first, then the validator's own. -/
def options (config : Configuration) : Entries :=
  Entries.putAll config.foreign
    [(.text "type", .flags config.mask),
      (.text "message_templates", defaultTemplates),
      (.text "messages", config.overrides.toValue),
      (.text "value_obscured", .bool config.obscured)]

/-- The template in force for a reason. -/
def template (config : Configuration) (reason : Reason) : Value :=
  (config.overrides.get? reason).getD (.text reason.template)

/-- Build a configuration from a selector or an option record and further options; the further options win. -/
def build (given : Value) (further : Options) : Except Fault Configuration := do
  let (selector, rest) ← Options.split given
  let all := rest.putAll further
  let selector := (all.get? selectorKey).getD selector
  let others := all.remove selectorKey
  let change := initial.setEntries (others.map fun option => (.text option.1, option.2))
  match change.fault? with
  | some fault => throw fault
  | none =>
    if Selector.isBlank selector then return change.config
    else
      let mask ← Selector.mask selector
      return { change.config with mask := mask }

end Configuration

end Emptiness
