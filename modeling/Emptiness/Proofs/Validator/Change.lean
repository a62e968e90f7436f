import Emptiness.Proofs.Options
import Emptiness.Proofs.Validator.Consistency

/-!
# What a change does to a configuration

Setting an option touches one part of a configuration: the rules, what messages are made of, or the options of others.
What holds of a row of changes is read off this. Options that are all accepted are set in their order, so templates and
options of others come out as they were given, as long as they have different names.
-/

namespace Emptiness

/-- Messages for different reasons are put in their order. -/
theorem Messages.foldl_put_nil {messages : Messages} (h : (messages.map (·.1)).Nodup) :
    messages.foldl (fun all message => Messages.put all message.1 message.2) [] = messages := by
  simp only [Messages.put_eq]
  exact foldl_putUnderKey h

/-- A reason is found under its key. -/
theorem Reason.ofKey?_key (reason : Reason) : Reason.ofKey? (.text reason.key) = some reason := by
  cases reason <;> rfl

/-- Only the name of the selector stands for the selector. -/
theorem OptionKey.eq_of_ofName_selector {name : Value} (h : OptionKey.ofName name = .selector) :
    name = .text selectorKey := by
  unfold OptionKey.ofName at h
  split at h
  case h_1 s =>
    split at h
    case h_1 hname => rw [Text.string?_eq_some_iff.mp hname, selectorKey]
    all_goals cases h
  case h_2 => cases h

/-- A name that is not reserved stands for an option of others. -/
theorem OptionKey.ofName_of_not_reserved {name : Text} (h : name ∉ reservedNames) :
    OptionKey.ofName (.text name) = .foreign (.text name) := by
  unfold OptionKey.ofName
  dsimp only
  split
  case h_7 => rfl
  all_goals
    rename_i hname
    rw [Text.string?_eq_some_iff.mp hname] at h
    exact absurd (by decide) h

namespace Configuration

/-- Choosing the rules touches nothing but the rules. -/
theorem setType_config (config : Configuration) (selector : Value) :
    ∃ mask, (config.setType selector).config = { config with mask := mask } := by
  rw [setType]
  split <;> exact ⟨_, rfl⟩

/-- Replacing a template touches nothing but the templates. -/
theorem setMessage_config (config : Configuration) (message key : Value) :
    ∃ overrides, (config.setMessage message key).config = { config with overrides := overrides } := by
  unfold setMessage
  split
  · exact ⟨_, rfl⟩
  · split
    · exact ⟨_, rfl⟩
    · split <;> exact ⟨_, rfl⟩

/-- Replacing templates touches nothing but the templates. -/
theorem setMessages_config (config : Configuration) (entries : Entries) :
    ∃ overrides, (config.setMessages entries).config = { config with overrides := overrides } := by
  apply changeEach_keeps (fun changed => ∃ overrides, changed = { config with overrides := overrides })
  · rintro changed entry ⟨overrides, rfl⟩
    exact setMessage_config _ entry.2 entry.1
  · exact ⟨config.overrides, rfl⟩

/-- Setting an option touches the rules, or what messages are made of, or the option of others under its name. -/
theorem setOption_config (config : Configuration) (name value : Value) :
    (name = .text selectorKey ∧ ∃ mask, (config.setOption name value).config = { config with mask := mask }) ∨
      (∃ overrides obscured,
        (config.setOption name value).config = { config with overrides := overrides, obscured := obscured }) ∨
      (config.setOption name value).config = { config with foreign := config.foreign.put name value } := by
  -- a change that is refused half way or at once counts as one of what messages are made of
  have hrefused : ∃ overrides obscured, config = { config with overrides := overrides, obscured := obscured } :=
    ⟨config.overrides, config.obscured, rfl⟩
  unfold setOption
  split
  · exact .inr (.inl hrefused)
  · split
    case h_1 hselector => exact .inl ⟨OptionKey.eq_of_ofName_selector hselector, setType_config config value⟩
    case h_2 => exact .inr (.inl hrefused)
    case h_3 =>
      split
      · obtain ⟨overrides, hset⟩ := setMessages_config config _
        exact .inr (.inl ⟨overrides, config.obscured, hset⟩)
      · exact .inr (.inl hrefused)
    case h_4 =>
      split
      · exact .inr (.inl ⟨config.overrides, _, rfl⟩)
      · exact .inr (.inl hrefused)
    case h_5 other hforeign =>
      obtain ⟨rfl, -⟩ := OptionKey.foreign_of_ofName hforeign
      exact .inr (.inr rfl)

/-- Setting options of which none is named as the selector keeps the rules. -/
theorem setEntries_mask {options : Options} (h : options.get? selectorKey = none) (config : Configuration) :
    (config.setEntries options.toEntries).config.mask = config.mask := by
  apply changeEach_keeps_of_mem (fun changed => changed.mask = config.mask)
  · intro changed entry hentry hmask
    obtain ⟨option, hoption, rfl⟩ := List.mem_map.mp hentry
    have hname : option.1 ≠ selectorKey := (bne_iff_ne.mp (List.lookup_eq_none_iff.mp h option hoption)).symm
    rcases setOption_config changed (.text option.1) option.2 with
      ⟨hselector, -⟩ | ⟨overrides, obscured, hset⟩ | hset
    · exact absurd (Value.text.inj hselector) hname
    · rw [hset]
      exact hmask
    · rw [hset]
      exact hmask
  · rfl

/-- Setting an option keeps the names of others' options different. -/
theorem setOption_distinct {config : Configuration} (h : config.foreign.Distinct) (name value : Value) :
    (config.setOption name value).config.foreign.Distinct := by
  rcases setOption_config config name value with ⟨-, mask, hset⟩ | ⟨overrides, obscured, hset⟩ | hset
  · rw [hset]
    exact h
  · rw [hset]
    exact h
  · rw [hset]
    exact Entries.distinct_put h name value

/-- Setting many options keeps the names of others' options different. -/
theorem setEntries_distinct {config : Configuration} (h : config.foreign.Distinct) (entries : Entries) :
    (config.setEntries entries).config.foreign.Distinct :=
  changeEach_keeps (fun changed => changed.foreign.Distinct)
    (fun _ entry hchanged => setOption_distinct hchanged entry.1 entry.2) h entries

/-- In a configuration that is built, the names of others' options differ. -/
theorem build_distinct {given : Value} {further : Options} {config : Configuration}
    (h : build given further = .ok config) : config.foreign.Distinct := by
  have hinitial : initial.foreign.Distinct := List.Pairwise.nil
  obtain ⟨⟨selector, rest⟩, -, h⟩ := bind_eq_ok h
  have hset := setEntries_distinct hinitial ((rest.putAll further).remove selectorKey).toEntries
  dsimp only at h
  split at h
  · cases h
  · split at h
    · cases h
      exact hset
    · obtain ⟨mask, -, h⟩ := bind_eq_ok h
      cases h
      exact hset

/-- Changes that all succeed may be made in two parts. -/
theorem setEntries_append {config changed : Configuration} {first : Entries}
    (h : config.setEntries first = done changed) (second : Entries) :
    config.setEntries (first ++ second) = changed.setEntries second := by
  induction first generalizing config with
  | nil =>
    cases h
    rfl
  | cons entry rest ih =>
    rw [List.cons_append]
    rw [setEntries, changeEach] at h ⊢
    cases hfault : (config.setOption entry.1 entry.2).fault? with
    | none =>
      simp only [hfault] at h ⊢
      exact ih h
    | some fault =>
      -- a fault would end the first part, which succeeds
      simp only [hfault] at h
      rw [h] at hfault
      cases hfault

/-- Options of others are put in their order. -/
theorem setEntries_foreign {options : Options} (h : ∀ option ∈ options, option.1 ∉ reservedNames)
    (config : Configuration) :
    config.setEntries options.toEntries =
      done { config with foreign := Entries.putAll config.foreign options.toEntries } := by
  induction options generalizing config with
  | nil => rfl
  | cons option rest ih =>
    rw [List.forall_mem_cons] at h
    have hset : config.setOption (.text option.1) option.2 =
        done { config with foreign := config.foreign.put (.text option.1) option.2 } := by
      unfold setOption
      rw [OptionKey.ofName_of_not_reserved h.1]
      rfl
    rw [Options.toEntries, List.map_cons, setEntries, changeEach, hset]
    exact ih h.2 _

/-- Templates are put in their order. -/
theorem setMessages_put (config : Configuration) (messages : Messages) :
    config.setMessages (messages.map fun message => (.text message.1.key, message.2)) =
      done { config with
        overrides := messages.foldl (fun all message => Messages.put all message.1 message.2) config.overrides } := by
  induction messages generalizing config with
  | nil => rfl
  | cons message rest ih =>
    have hset : config.setMessage message.2 (.text message.1.key) =
        done { config with overrides := config.overrides.put message.1 message.2 } := by
      simp only [setMessage, Value.keyMisuse?, Reason.ofKey?_key]
    rw [List.map_cons, setMessages, changeEach, hset]
    exact ih _

end Configuration

end Emptiness
