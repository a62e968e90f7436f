import Emptiness.Proofs.Selector
import Emptiness.Proofs.Text.Strings
import Emptiness.Proofs.Validator.Run
import Emptiness.Proofs.Value.Entries

/-!
# What every reachable validator satisfies

A configuration is sound if its mask holds nothing but rules, each reason has at most one template of its own, and no
option of the validator's own is kept among those of others. A record is sound if it holds at most one message, under
the reason of its verdict. Every operation keeps both, whether it succeeds or ends with a fault half way, and a check
that gives an answer leaves a message exactly if its verdict is that the value is empty.
-/

namespace Emptiness

/-- The names of the validator's own options, in either spelling. -/
def reservedNames : List Text :=
  ["type", "message_templates", "messages", "value_obscured", "messageTemplates", "valueObscured"]

/-- A configuration that holds only what it may hold. -/
structure Configuration.Sound (config : Configuration) : Prop where
  mask_le : config.mask ≤ 2047
  overrides_keys : ∀ override ∈ config.overrides, override.1.key ∈ ["isEmpty", "notEmptyInvalid"]
  overrides_nodup : (config.overrides.map (·.1)).Nodup
  foreign_keys : ∀ option ∈ config.foreign, ∀ name ∈ reservedNames, option.1.sameKey (.text name) = false

/-- A verdict that is either that the value is not empty, or names a single rule and one of two reasons. -/
def Verdict.Sound (verdict : Verdict) : Prop :=
  verdict.isEmpty = false ∧ verdict.rule? = none ∧ verdict.reason? = none ∨
    verdict.isEmpty = true ∧ (∃ rule, verdict.rule? = some rule ∧ ∃ place, rule.bit = 1 <<< place) ∧
      ∃ reason, verdict.reason? = some reason ∧ reason.key ∈ ["isEmpty", "notEmptyInvalid"]

/-- A record that holds at most one message, under the reason of its verdict. -/
structure Record.Sound (record : Record) : Prop where
  verdict_sound : record.verdict.Sound
  messages_length : record.messages.length ≤ 1
  messages_reason : ∀ message ∈ record.messages, record.verdict.reason? = some message.1

/-- Nothing is checked in a run, or its latest check gives an answer and does not end with a fault. -/
def Validator.LatestCheckAnswers (validator : Validator) (operations : List Operation) : Prop :=
  (∀ operation ∈ operations, operation.checked? = none) ∨
    ∃ earlier v later isValid, operations = earlier ++ .check v :: later ∧
      (∀ operation ∈ later, operation.checked? = none) ∧ ((validator.run earlier).check v).2 = .ok isValid

/-- A reason has one of two keys. -/
theorem Reason.key_mem (reason : Reason) : reason.key ∈ ["isEmpty", "notEmptyInvalid"] := by
  cases reason <;> decide

/-- Every verdict is sound. -/
theorem Verdict.sound (verdict : Verdict) : verdict.Sound := by
  cases verdict with
  | notEmpty => exact .inl ⟨rfl, rfl, rfl⟩
  | empty rule reason => exact .inr ⟨rfl, ⟨rule, rfl, rule.place, rfl⟩, reason, rfl, reason.key_mem⟩

/-- Messages are put under their reasons. -/
theorem Messages.put_eq (messages : Messages) (reason : Reason) (message : Value) :
    messages.put reason message = putUnderKey messages reason message := by
  induction messages with
  | nil => rfl
  | cons first rest ih => rw [Messages.put, putUnderKey_cons, ih]

/-- Putting a message leaves one message for each reason. -/
theorem Messages.nodup_put {messages : Messages} (h : (messages.map (·.1)).Nodup) (reason : Reason) (message : Value) :
    ((messages.put reason message).map (·.1)).Nodup := by
  rw [Messages.put_eq]
  exact nodup_putUnderKey h reason message

/-- A name that stands for none of the validator's own options is not one of theirs. -/
theorem OptionKey.foreign_of_ofName {name other : Value} (h : OptionKey.ofName name = .foreign other) :
    other = name ∧ ∀ reserved ∈ reservedNames, name.sameKey (.text reserved) = false := by
  have hnever {reserved : Text} (hne : name ≠ .text reserved) : name.sameKey (.text reserved) = false :=
    Bool.eq_false_iff.mpr (mt Value.sameKey_text.mp hne)
  cases name with
  | text s =>
    have hother {reserved : String} (hne : s.string? = some reserved → False) :
        Value.sameKey (.text s) (.text reserved) = false := by
      refine hnever fun hsame => hne ?_
      rw [Value.text.inj hsame, Text.string?_ofString]
    unfold OptionKey.ofName at h
    dsimp only at h
    split at h
    case h_7 htype htemplates htemplates' hmessages hobscured hobscured' =>
      cases h
      refine ⟨rfl, ?_⟩
      simp only [reservedNames, List.forall_mem_cons, List.not_mem_nil, false_imp_iff, implies_true, and_true]
      exact ⟨hother htype, hother htemplates, hother hmessages, hother hobscured, hother htemplates', hother hobscured'⟩
    all_goals cases h
  | null | bool | int | float | sequence | mapping | octets | range | decimal | moment | flags | exception | validator
  | object =>
    cases h
    exact ⟨rfl, fun reserved _ => hnever nofun⟩

namespace Configuration

/-- The configuration at the start is sound. -/
theorem initial_sound : initial.Sound where
  mask_le := by decide
  overrides_keys := fun _ h => (List.not_mem_nil h).elim
  overrides_nodup := List.nodup_nil
  foreign_keys := fun _ h => (List.not_mem_nil h).elim

/-- Templates of reasons, one for each, keep a configuration sound. -/
theorem Sound.with_overrides {config : Configuration} (h : config.Sound) {overrides : Messages}
    (hnodup : (overrides.map (·.1)).Nodup) : Sound { config with overrides := overrides } where
  mask_le := h.mask_le
  overrides_keys := fun override _ => override.1.key_mem
  overrides_nodup := hnodup
  foreign_keys := h.foreign_keys

/-- What the changes for the items of a list keep, the whole row of them keeps, also if a fault ends it. -/
theorem changeEach_keeps_of_mem {α : Type} (P : Configuration → Prop) {change : Configuration → α → Change}
    {items : List α} (hchange : ∀ config, ∀ item ∈ items, P config → P (change config item).config)
    {config : Configuration} (h : P config) : P (config.changeEach change items).config := by
  induction items generalizing config with
  | nil => exact h
  | cons item rest ih =>
    have hfirst := hchange config item List.mem_cons_self h
    rw [changeEach]
    split
    · exact ih (fun config other hother => hchange config other (List.mem_cons_of_mem item hother)) hfirst
    · exact hfirst

/-- What each change in a row of changes keeps, the whole row keeps, also if a fault ends it. -/
theorem changeEach_keeps {α : Type} (P : Configuration → Prop) {change : Configuration → α → Change}
    (hchange : ∀ config item, P config → P (change config item).config) {config : Configuration} (h : P config)
    (items : List α) : P (config.changeEach change items).config :=
  changeEach_keeps_of_mem P (fun config item _ => hchange config item) h

/-- Choosing the rules keeps a configuration sound. -/
theorem setType_sound {config : Configuration} (h : config.Sound) (selector : Value) :
    (config.setType selector).config.Sound := by
  rw [setType]
  split
  case h_1 mask hmask => exact ⟨Selector.mask_le hmask, h.overrides_keys, h.overrides_nodup, h.foreign_keys⟩
  case h_2 => exact h

/-- Replacing templates keeps a configuration sound. -/
theorem setMessage_sound {config : Configuration} (h : config.Sound) (message key : Value) :
    (config.setMessage message key).config.Sound := by
  unfold setMessage
  split
  · exact h.with_overrides (Messages.nodup_put (Messages.nodup_put h.overrides_nodup _ _) _ _)
  · split
    · exact h
    · split
      · exact h.with_overrides (Messages.nodup_put h.overrides_nodup _ _)
      · exact h

/-- Setting an option keeps a configuration sound. -/
theorem setOption_sound {config : Configuration} (h : config.Sound) (name value : Value) :
    (config.setOption name value).config.Sound := by
  unfold setOption
  split
  · exact h
  · split
    case h_1 => exact setType_sound h value
    case h_2 => exact h
    case h_3 =>
      split
      · exact changeEach_keeps Sound (fun _ entry hconfig => setMessage_sound hconfig entry.2 entry.1) h _
      · exact h
    case h_4 =>
      split
      · exact ⟨h.mask_le, h.overrides_keys, h.overrides_nodup, h.foreign_keys⟩
      · exact h
    case h_5 other hforeign =>
      obtain ⟨rfl, hname⟩ := OptionKey.foreign_of_ofName hforeign
      refine ⟨h.mask_le, h.overrides_keys, h.overrides_nodup, ?_⟩
      exact Entries.forall_put (fun key => ∀ reserved ∈ reservedNames, key.sameKey (.text reserved) = false) value
        h.foreign_keys hname

/-- Setting many options keeps a configuration sound. -/
theorem setEntries_sound {config : Configuration} (h : config.Sound) (entries : Entries) :
    (config.setEntries entries).config.Sound :=
  changeEach_keeps Sound (fun _ entry hconfig => setOption_sound hconfig entry.1 entry.2) h entries

/-- A configuration that is built is sound. -/
theorem build_sound {given : Value} {further : Options} {config : Configuration}
    (h : build given further = .ok config) : config.Sound := by
  obtain ⟨⟨selector, rest⟩, -, h⟩ := bind_eq_ok h
  dsimp only at h
  split at h
  · cases h
  · split at h
    · cases h
      exact setEntries_sound initial_sound _
    · obtain ⟨mask, hmask, h⟩ := bind_eq_ok h
      cases h
      have hset := setEntries_sound initial_sound
        (((rest.putAll further).remove selectorKey).map fun option => (Value.text option.1, option.2))
      exact ⟨Selector.mask_le hmask, hset.overrides_keys, hset.overrides_nodup, hset.foreign_keys⟩

/-- Setting the options of a mapping keeps a configuration sound. -/
theorem setOptions_sound {config : Configuration} (h : config.Sound) (options : Value) :
    (config.setOptions options).config.Sound := by
  unfold setOptions
  split
  · exact setEntries_sound h _
  · exact h

end Configuration

/-- A record without messages is sound. -/
theorem Record.sound_of_no_messages (v : Value) (verdict : Verdict) : Record.Sound ⟨v, verdict, []⟩ where
  verdict_sound := verdict.sound
  messages_length := Nat.zero_le _
  messages_reason := fun _ h => (List.not_mem_nil h).elim

/-- A check leaves a sound record behind, also if its message cannot be made. -/
theorem Configuration.check_sound (config : Configuration) (record : Record) (v : Value) :
    (config.check record v).1.Sound := by
  rcases config.check_cases record v with ⟨-, hcheck⟩ | ⟨rule, reason, -, ⟨message, -, hcheck⟩ | ⟨fault, -, hcheck⟩⟩
  · rw [hcheck]
    exact Record.sound_of_no_messages v _
  · rw [hcheck]
    refine ⟨Verdict.sound _, Nat.le_refl 1, fun entry hentry => ?_⟩
    rw [List.mem_singleton.mp hentry]
    rfl
  · rw [hcheck]
    exact Record.sound_of_no_messages v _

/-- A check that gives an answer leaves a message exactly if the value is empty. -/
theorem Configuration.check_messages_iff {config : Configuration} {record : Record} {v : Value} {isValid : Bool}
    (h : (config.check record v).2 = .ok isValid) :
    (config.check record v).1.messages = [] ↔ (config.check record v).1.verdict.isEmpty = false := by
  rcases config.check_cases record v with ⟨-, hcheck⟩ | ⟨rule, reason, -, ⟨message, -, hcheck⟩ | ⟨fault, -, hcheck⟩⟩
  · rw [hcheck]
    exact iff_of_true rfl rfl
  · rw [hcheck]
    exact iff_of_false (List.cons_ne_nil _ _) Bool.true_eq_false.mp
  · rw [hcheck] at h
    cases h

namespace Validator

/-- Every operation keeps the configuration sound. -/
theorem step_config_sound {validator : Validator} (h : validator.config.Sound) (operation : Operation) :
    (validator.step operation).1.config.Sound := by
  cases operation with
  | setType selector => exact Configuration.setType_sound h selector
  | setOption name value => exact Configuration.setOption_sound h name value
  | setOptions options => exact Configuration.setOptions_sound h options
  | setMessage message key => exact Configuration.setMessage_sound h message key
  | check | type | defaultType | option | options | messages | value | verdict | literal => exact h

/-- Every operation keeps the record sound. -/
theorem step_record_sound {validator : Validator} (h : validator.record.Sound) (operation : Operation) :
    (validator.step operation).1.record.Sound := by
  cases hkind : operation.checked? with
  | none =>
    rw [step_record_of_unchecked validator hkind]
    exact h
  | some v =>
    cases operation with
    | check v => exact validator.config.check_sound validator.record v
    | setType | setOption | setOptions | setMessage => cases hkind
    | type | defaultType | option | options | messages | value | verdict | literal => cases hkind

/-- A run keeps the configuration and the record sound. -/
theorem run_sound {validator : Validator} (hconfig : validator.config.Sound) (hrecord : validator.record.Sound)
    (operations : List Operation) :
    (validator.run operations).config.Sound ∧ (validator.run operations).record.Sound := by
  induction operations generalizing validator with
  | nil => exact ⟨hconfig, hrecord⟩
  | cons operation rest ih => exact ih (step_config_sound hconfig operation) (step_record_sound hrecord operation)

/-- If nothing was checked on a new validator, or the latest check gave an answer, then there is a message exactly if the
value counts as empty. -/
theorem run_messages_iff {validator : Validator} (hfresh : validator.record = .fresh) {operations : List Operation}
    (hlatest : validator.LatestCheckAnswers operations) :
    (validator.run operations).record.messages = [] ↔ (validator.run operations).record.verdict.isEmpty = false := by
  rcases hlatest with hnone | ⟨earlier, v, later, isValid, rfl, hlater, hanswer⟩
  · rw [run_record_of_unchecked validator hnone, hfresh]
    exact iff_of_true rfl rfl
  · rw [run_record_of_latest validator earlier v hlater]
    exact Configuration.check_messages_iff hanswer

/-- Every reachable validator has a sound configuration and a sound record, and unless its latest check ended with a
fault there is a message exactly if the value counts as empty. -/
theorem run_consistent {validator : Validator} (constructed : Constructed validator) (operations : List Operation) :
    (validator.run operations).config.Sound ∧ (validator.run operations).record.Sound ∧
      (validator.LatestCheckAnswers operations →
        ((validator.run operations).record.messages = [] ↔
          (validator.run operations).record.verdict.isEmpty = false)) := by
  have hfresh := constructed.record_eq
  obtain ⟨given, further, config, hbuild, rfl⟩ := constructed.exists_build
  have hstart : (ofConfiguration config).config.Sound := Configuration.build_sound hbuild
  obtain ⟨hconfig, hrecord⟩ := run_sound hstart (Record.sound_of_no_messages .null .notEmpty) operations
  exact ⟨hconfig, hrecord, run_messages_iff hfresh⟩

/-- A validator for blank text whose template is first no text, so that a check fails, and then a text again. -/
theorem run_consistent_after_failed_check :
    let validator := ofConfiguration { Configuration.initial with mask := 128 }
    let earlier : List Operation := [.setMessage (.int 5) .null, .check (.text " "),
      .setMessage (.text "%value% is blank") .null, .setOption (.text "messageTemplates") .null]
    let operations := earlier ++ .check (.text " ") :: [.verdict]
    Constructed validator ∧ validator.LatestCheckAnswers operations ∧
      (validator.run operations).config.Sound ∧ (validator.run operations).record.Sound ∧
      ((validator.run operations).record.messages = [] ↔ (validator.run operations).record.verdict.isEmpty = false) := by
  intro validator earlier operations
  have hbuild : Validator.ofArguments (some (.text "space")) [] = .ok validator := rfl
  have hconstructed : Constructed validator := .arguments hbuild
  have hanswer : ((validator.run earlier).check (.text " ")).2 = .ok false := by
    dsimp only [validator, earlier]
    rfl
  have hlatest : validator.LatestCheckAnswers operations :=
    .inr ⟨earlier, .text " ", [.verdict], false, rfl, List.forall_mem_singleton.mpr rfl, hanswer⟩
  obtain ⟨hconfig, hrecord, hmessages⟩ := run_consistent hconstructed operations
  exact ⟨hconstructed, hlatest, hconfig, hrecord, hmessages hlatest⟩

end Validator

end Emptiness
