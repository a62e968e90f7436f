import Emptiness.Proofs.Validator.Change

/-!
# Changes that are refused

A change of the configuration is refused before anything of it is made, so it leaves the validator as it was. Templates
that are given together are the exception: they are replaced one after the other, and those before the first that is
refused stay replaced. What is left behind then is what they alone would have left behind.
-/

namespace Emptiness

/-- The operation is a single change, and not a row of options. -/
def Operation.changesOnce : Operation → Bool
  | .setType _ | .setOption .. | .setMessage .. => true
  | _ => false

/-- A change that ends with a fault leaves this configuration behind. -/
def Change.RefusedAt (change : Change) (config : Configuration) : Prop :=
  ∀ fault, change.fault? = some fault → change.config = config

/-- Only the name of the templates stands for the templates. -/
theorem OptionKey.eq_of_ofName_messages {name : Value} (h : OptionKey.ofName name = .messages) :
    name = .text "messages" := by
  unfold OptionKey.ofName at h
  split at h
  case h_1 s =>
    split at h
    case h_4 hname => rw [Text.string?_eq_some_iff.mp hname]
    all_goals cases h
  case h_2 => cases h

namespace Configuration

/-- A change that succeeds is not refused. -/
theorem done_refusedAt (changed config : Configuration) : (done changed).RefusedAt config :=
  nofun

/-- A change that is refused at once leaves everything as it is. -/
theorem refuse_refusedAt (config : Configuration) (fault : Fault) : (config.refuse fault).RefusedAt config :=
  fun _ _ => rfl

/-- Rules that cannot be chosen leave the configuration as it is. -/
theorem setType_refusedAt (config : Configuration) (selector : Value) :
    (config.setType selector).RefusedAt config := by
  unfold setType
  split
  · exact done_refusedAt _ config
  · exact config.refuse_refusedAt _

/-- A template that cannot be replaced leaves the configuration as it is. -/
theorem setMessage_refusedAt (config : Configuration) (message key : Value) :
    (config.setMessage message key).RefusedAt config := by
  unfold setMessage
  split
  · exact done_refusedAt _ config
  · split
    · exact config.refuse_refusedAt _
    · split
      · exact done_refusedAt _ config
      · exact config.refuse_refusedAt _

/-- A row of changes ends at the first item that is refused, and leaves behind what the items before it leave. -/
theorem changeEach_of_fault {α : Type} {change : Configuration → α → Change}
    (hrefused : ∀ config item, (change config item).RefusedAt config) {config : Configuration} {items : List α}
    {fault : Fault} (h : (config.changeEach change items).fault? = some fault) :
    ∃ before refused after, items = before ++ refused :: after ∧
      config.changeEach change before = done (config.changeEach change items).config ∧
      (change (config.changeEach change items).config refused).fault? = some fault := by
  induction items generalizing config with
  | nil => cases h
  | cons item rest ih =>
    have hstep (others : List α) (hfirst : (change config item).fault? = none) :
        config.changeEach change (item :: others) = (change config item).config.changeEach change others := by
      rw [changeEach, hfirst]
    cases hfirst : (change config item).fault? with
    | none =>
      rw [hstep rest hfirst] at h ⊢
      obtain ⟨before, refused, after, rfl, hbefore, hfault⟩ := ih h
      exact ⟨item :: before, refused, after, rfl, (hstep before hfirst).trans hbefore, hfault⟩
    | some cause =>
      have hend : config.changeEach change (item :: rest) = change config item := by rw [changeEach, hfirst]
      rw [hend] at h ⊢
      rw [hrefused config item fault h]
      exact ⟨[], item, rest, rfl, rfl, h⟩

/-- An option that cannot be set leaves the configuration as it is, apart from templates that are given together. -/
theorem setOption_refusedAt (config : Configuration) {name value : Value}
    (hsingle : ∀ kind entries, name = .text "messages" → value ≠ .mapping kind entries) :
    (config.setOption name value).RefusedAt config := by
  unfold setOption
  split
  · exact config.refuse_refusedAt _
  · split
    case h_1 => exact config.setType_refusedAt value
    case h_2 => exact config.refuse_refusedAt _
    case h_3 hmessages =>
      split
      · exact absurd rfl (hsingle _ _ (OptionKey.eq_of_ofName_messages hmessages))
      · exact config.refuse_refusedAt _
    case h_4 =>
      split
      · exact done_refusedAt _ config
      · exact config.refuse_refusedAt _
    case h_5 => exact done_refusedAt _ config

/-- Templates are given together as one option. -/
theorem setOption_messages (config : Configuration) (kind : MappingKind) (entries : Entries) :
    config.setOption (.text "messages") (.mapping kind entries) = config.setMessages entries :=
  rfl

/-- Templates that cannot all be replaced leave behind what those before the first that is refused leave. -/
theorem setMessages_of_fault {config : Configuration} {entries : Entries} {fault : Fault}
    (h : (config.setMessages entries).fault? = some fault) :
    ∃ before refused after, entries = before ++ refused :: after ∧
      config.setMessages before = done (config.setMessages entries).config ∧
      ((config.setMessages entries).config.setMessage refused.2 refused.1).fault? = some fault := by
  have hrefused (config : Configuration) (entry : Value × Value) :
      (config.setMessage entry.2 entry.1).RefusedAt config :=
    config.setMessage_refusedAt entry.2 entry.1
  exact changeEach_of_fault hrefused h

end Configuration

namespace Validator

/-- An operation that changes the configuration ends with a fault if the change does. -/
theorem afterChange_eq_error_iff {validator : Validator} {change : Change} {fault : Fault} :
    (validator.afterChange change).2 = .error fault ↔ change.fault? = some fault := by
  rw [afterChange]
  cases change.fault? with
  | none => simp
  | some cause => simp

/-- A change that is refused leaves the validator as it was. -/
theorem afterChange_of_refusedAt {validator : Validator} {change : Change} {fault : Fault}
    (hrefused : change.RefusedAt validator.config) (h : (validator.afterChange change).2 = .error fault) :
    (validator.afterChange change).1 = validator := by
  rw [afterChange, hrefused fault (afterChange_eq_error_iff.mp h)]

/-- A single change that ends with a fault leaves the whole validator as it was. Only where templates are given
together, and some of them come before the first that is refused, it leaves these replaced, as they would be had they
been given alone, and touches nothing else. -/
theorem step_of_refused_change {validator : Validator} {operation : Operation} {fault : Fault}
    (honce : operation.changesOnce = true) (h : (validator.step operation).2 = .error fault) :
    (validator.step operation).1 = validator ∨
      ∃ kind before refused after, before ≠ [] ∧
        operation = .setOption (.text "messages") (.mapping kind (before ++ refused :: after)) ∧
        validator.step (.setOption (.text "messages") (.mapping kind before)) =
          ((validator.step operation).1, .ok .itself) ∧
        ((validator.step operation).1.step (.setMessage refused.2 refused.1)).2 = .error fault ∧
        ∃ overrides, (validator.step operation).1 =
          { validator with config := { validator.config with overrides := overrides } } := by
  cases operation with
  | setType selector => exact .inl (afterChange_of_refusedAt (validator.config.setType_refusedAt selector) h)
  | setMessage message key =>
    exact .inl (afterChange_of_refusedAt (validator.config.setMessage_refusedAt message key) h)
  | setOption name value =>
    by_cases htogether : name = .text "messages" ∧ ∃ kind entries, value = .mapping kind entries
    · obtain ⟨rfl, kind, entries, rfl⟩ := htogether
      have hmessages := validator.config.setOption_messages kind
      rw [step, hmessages] at h ⊢
      obtain ⟨before, refused, after, rfl, hbefore, hrefused⟩ :=
        Configuration.setMessages_of_fault (afterChange_eq_error_iff.mp h)
      obtain ⟨overrides, hoverrides⟩ := validator.config.setMessages_config (before ++ refused :: after)
      cases before with
      | nil =>
        have hconfig : validator.config = (validator.config.setMessages ([] ++ refused :: after)).config :=
          congrArg Change.config hbefore
        left
        rw [afterChange, ← hconfig]
      | cons first more =>
        refine .inr ⟨kind, first :: more, refused, after, List.cons_ne_nil _ _, rfl, ?_, ?_, overrides, ?_⟩
        · rw [step, hmessages, hbefore]
          rfl
        · exact afterChange_eq_error_iff.mpr hrefused
        · rw [afterChange, hoverrides]
    · refine .inl (afterChange_of_refusedAt (validator.config.setOption_refusedAt ?_) h)
      rintro kind entries hname rfl
      exact htogether ⟨hname, kind, entries, rfl⟩
  | setOptions | check | type | defaultType | option | options | messages | value | verdict | literal => cases honce

/-- A list with a name that is not known, given as the rules of a validator that has found a value empty. -/
theorem step_of_refused_rules :
    let validator := (ofConfiguration .initial).run [.setType (.text "zero"), .check (.text "0")]
    let operation : Operation := .setOption (.text "type") (.list [.text "string", .text "nope"])
    let fault := Selector.unknown (.text "nope")
    operation.changesOnce = true ∧ (validator.step operation).2 = .error fault ∧
      ((validator.step operation).1 = validator ∨
        ∃ kind before refused after, before ≠ [] ∧
          operation = .setOption (.text "messages") (.mapping kind (before ++ refused :: after)) ∧
          validator.step (.setOption (.text "messages") (.mapping kind before)) =
            ((validator.step operation).1, .ok .itself) ∧
          ((validator.step operation).1.step (.setMessage refused.2 refused.1)).2 = .error fault ∧
          ∃ overrides, (validator.step operation).1 =
            { validator with config := { validator.config with overrides := overrides } }) := by
  intro validator operation fault
  have hfault : (validator.step operation).2 = .error fault := rfl
  exact ⟨rfl, hfault, step_of_refused_change rfl hfault⟩

/-- Two templates of which the second has a key that is not known: the option is refused, but the first template stays
replaced. -/
theorem refused_templates_leave_first :
    let validator := ofConfiguration .initial
    let templates : Value := .dict [(.text "isEmpty", .text "x"), (.text "bad", .text "y")]
    let operation : Operation := .setOption (.text "messages") templates
    Constructed validator ∧
      (validator.step operation).2 = .error (.misconfigured (.unknownTemplate "'bad'")) ∧
      (validator.step operation).1 ≠ validator ∧
      (validator.step operation).1.config.overrides = [(.isEmpty, .text "x")] := by
  intro validator templates operation
  have hbuild : Validator.ofArguments none [] = .ok validator := rfl
  have hshown : Text.quoted "bad" = "'bad'" := by decide +kernel
  have hfault : (validator.step operation).2 = .error (.misconfigured (.unknownTemplate (Text.quoted "bad"))) := rfl
  rw [hshown] at hfault
  have hoverrides : (validator.step operation).1.config.overrides = [(.isEmpty, .text "x")] := rfl
  refine ⟨.arguments hbuild, hfault, fun hsame => ?_, hoverrides⟩
  rw [hsame] at hoverrides
  cases hoverrides

end Validator

end Emptiness
