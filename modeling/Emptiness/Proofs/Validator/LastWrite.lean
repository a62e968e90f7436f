import Emptiness.Proofs.Validator.Request

/-!
# The last template written wins

Templates can be replaced for one reason or for all, one by one or together, when a validator is made or later. However
these ways are mixed, and whatever is refused or checked in between, a message is made of the template that was
written last for its reason. Where none was written it is made of the reason's own.
-/

namespace Emptiness

/-- The templates that a write holds. -/
def Write.messages : Write → Messages
  | .templates messages => messages
  | _ => []

/-- The template for a reason after templates were written one after the other: the last one that was written for it or,
if there is none, its own. -/
inductive Reason.LastWritten (reason : Reason) : Messages → Value → Prop
  | own {written : Messages} (hnone : ∀ other ∈ written, other.1 ≠ reason) :
      LastWritten reason written (.text reason.template)
  | last {before after : Messages} {template : Value} (hlater : ∀ later ∈ after, later.1 ≠ reason) :
      LastWritten reason (before ++ (reason, template) :: after) template

/-- The last template under a reason, seen from the end. -/
theorem Reason.lastWritten_lookup (reason : Reason) (written : Messages) :
    reason.LastWritten written ((written.reverse.lookup reason).getD (.text reason.template)) := by
  cases hfound : written.reverse.lookup reason with
  | none =>
    refine .own fun other hother => ?_
    have hne := List.lookup_eq_none_iff.mp hfound other (List.mem_reverse.mpr hother)
    exact (bne_iff_ne.mp hne).symm
  | some template =>
    obtain ⟨after, before, hsplit, hafter⟩ := List.lookup_eq_some_iff.mp hfound
    have hwritten : written = before.reverse ++ (reason, template) :: after.reverse := by
      rw [← List.reverse_reverse written, hsplit]
      simp
    rw [hwritten]
    refine .last fun later hlater => ?_
    exact (bne_iff_ne.mp (hafter later (List.mem_reverse.mp hlater))).symm

namespace Configuration

/-- Of all that is written, the templates go one after the other over those that were there. -/
theorem writeAll_overrides (config : Configuration) (writes : List Write) :
    (config.writeAll writes).overrides = config.overrides.putAll (writes.flatMap Write.messages) := by
  induction writes generalizing config with
  | nil => rfl
  | cons first rest ih =>
    rw [writeAll, List.foldl_cons, ← writeAll, ih, List.flatMap_cons, Messages.putAll, Messages.putAll, List.foldl_append]
    cases first <;> rfl

/-- After some writes into the initial configuration, the template for a reason is the last one written for it. -/
theorem lastWritten_template (writes : List Write) (reason : Reason) :
    reason.LastWritten (writes.flatMap Write.messages) ((initial.writeAll writes).template reason) := by
  have hfound : (initial.writeAll writes).overrides.get? reason =
      (writes.flatMap Write.messages).reverse.lookup reason := by
    rw [writeAll_overrides, Messages.get?, Messages.putAll]
    simp only [Messages.put_eq]
    rw [lookup_foldl_putUnderKey]
    exact Option.or_none
  rw [template, hfound]
  exact reason.lastWritten_lookup _

/-- The message of a check that finds a value empty is what the template for the reason gives. -/
theorem check_messages_eq_iff {config : Configuration} {v : Value} {rule : Rule} {reason : Reason}
    (hempty : judge v config.mask = .ok (.empty rule reason)) (record : Record) (message : Value) :
    (config.check record v).1.messages = [(reason, message)] ↔
      Template.render (config.template reason) config.obscured v = .ok message := by
  rw [check, hempty]
  cases hrender : Template.render (config.template reason) config.obscured v with
  | error fault => simp [hrender]
  | ok rendered => simp [hrender]

end Configuration

namespace Validator

/-- A validator and what it is made from: what is given by position or by name, with further options, or the options of
a file. -/
inductive MadeFrom : Value → Options → Validator → Prop
  | arguments {positional : Option Value} {named : Options} {validator : Validator}
      (hbuild : Validator.ofArguments positional named = .ok validator) :
      MadeFrom (positional.getD ((named.get? positionalName).getD .null)) (named.remove positionalName) validator
  | optionsFile {path : String} {entry : FileEntry} {options : Entries} {validator : Validator}
      (hload : loadOptions path entry = .ok options) (hbuild : Validator.build (.dict options) [] = .ok validator) :
      MadeFrom (.dict options) [] validator

/-- The templates that are written when a validator is made and then by operations, in their order. -/
def writtenTemplates (given : Value) (further : Options) (operations : List Operation) : Messages :=
  ((Request.ofArguments given further).writes ++ operations.flatMap fun operation => operation.request.writes).flatMap
    Write.messages

/-- A validator is made by writing what its arguments ask for into the initial configuration. -/
theorem MadeFrom.config_eq {given : Value} {further : Options} {validator : Validator}
    (made : MadeFrom given further validator) :
    validator.config = Configuration.initial.writeAll (Request.ofArguments given further).writes := by
  have hbuild : Validator.build given further = .ok validator := by
    cases made with
    | optionsFile _ hbuild => exact hbuild
    | arguments hbuild =>
      rw [Validator.ofArguments] at hbuild
      split at hbuild
      · cases hbuild
      · exact hbuild
  obtain ⟨config, hconfig, rfl⟩ := map_eq_ok hbuild
  rw [Configuration.build_eq_outcome, Change.outcome] at hconfig
  split at hconfig
  · cases hconfig
    rfl
  · cases hconfig

/-- After any run of a validator, a check that finds a value empty makes its message of the template that was written
last for the reason, or of the reason's own if none was written. -/
theorem run_renders_last_written {given : Value} {further : Options} {validator : Validator}
    (made : MadeFrom given further validator) (operations : List Operation) (reason : Reason) :
    ∃ template, reason.LastWritten (writtenTemplates given further operations) template ∧
      (validator.run operations).config.template reason = template ∧
      ∀ v rule, judge v (validator.run operations).config.mask = .ok (.empty rule reason) → ∀ message,
        (((validator.run operations).step (.check v)).1.record.messages = [(reason, message)] ↔
          Template.render template (validator.run operations).config.obscured v = .ok message) := by
  have hconfig : (validator.run operations).config = Configuration.initial.writeAll
      ((Request.ofArguments given further).writes ++ operations.flatMap fun operation => operation.request.writes) := by
    rw [run_config_eq, made.config_eq, ← Configuration.writeAll_append]
  refine ⟨_, ?_, rfl, fun v rule hempty message => ?_⟩
  · rw [hconfig]
    exact Configuration.lastWritten_template _ reason
  · exact Configuration.check_messages_eq_iff hempty (validator.run operations).record message

/-- Templates that are given together and refused at the third key: the first two are written, and of these the second
is the last one for the values that are empty. A template under an unknown key is not written. -/
theorem run_renders_last_written_of_refused :
    let given : Value := .dict [(.text "messages", .dict [(.null, .text "a")]), (.text "owner", .int 7)]
    let further : Options := [("messages", .dict [(.text "isEmpty", .text "b")])]
    let templates : Value := .dict [(.null, .text "<%value%>"), (.text "isEmpty", .text "[%value%]"), (.int 3, .text "c"),
      (.text "isEmpty", .text "d")]
    let operations : List Operation := [.setMessage (.text "e") (.text "unknown"), .check (.text " "),
      .setOptions (.dict [(.text "valueObscured", .int 1), (.text "messages", templates), (.text "type", .text "zero")]),
      .setMessage (.text "f") (.text "notEmptyInvalid")]
    ∃ validator, MadeFrom given further validator ∧
      (validator.run operations).config.template .isEmpty = .text "[%value%]" ∧
      judge (.text "  ") (validator.run operations).config.mask = .ok (.empty .space .isEmpty) ∧
      ∃ template, Reason.isEmpty.LastWritten (writtenTemplates given further operations) template ∧
        (validator.run operations).config.template .isEmpty = template ∧
        ∀ message,
          (((validator.run operations).step (.check (.text "  "))).1.record.messages = [(.isEmpty, message)] ↔
            Template.render template (validator.run operations).config.obscured (.text "  ") = .ok message) := by
  intro given further templates operations
  let validator := ofConfiguration { Configuration.initial with
    overrides := [(.isEmpty, .text "b")], foreign := [(.text "owner", .int 7)] }
  have hbuild : Validator.ofArguments (some given) further = .ok validator := rfl
  have made : MadeFrom given further validator := .arguments hbuild
  have htemplate : (validator.run operations).config.template .isEmpty = .text "[%value%]" := rfl
  have hempty : judge (.text "  ") (validator.run operations).config.mask = .ok (.empty .space .isEmpty) := by
    have hmask : (validator.run operations).config.mask = 489 := rfl
    rw [hmask]
    rfl
  obtain ⟨template, hlast, hforce, hrenders⟩ := run_renders_last_written made operations .isEmpty
  exact ⟨validator, made, htemplate, hempty, template, hlast, hforce, hrenders _ _ hempty⟩

end Validator

end Emptiness
