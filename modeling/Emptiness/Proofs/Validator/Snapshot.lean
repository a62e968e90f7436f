import Emptiness.Proofs.Validator.Construction
import Emptiness.Proofs.Validator.Independence

/-!
# Snapshots of a configuration

All options of a validator, apart from the templates that cannot be set, are a record that builds a validator with the
same configuration, as long as the options of others are kept under texts. This rests on what every reachable
configuration satisfies: the names of others' options differ from each other and from the validator's own, and there is
at most one template for each reason. From then on the two validators differ only in what was last checked, and only
until the copy checks something.
-/

namespace Emptiness

/-- The operation answers what the record of the latest check holds. -/
def Operation.readsRecord : Operation → Bool
  | .messages | .value | .verdict => true
  | _ => false

/-- The options of a configuration without the templates that cannot be set. -/
def Configuration.snapshot (config : Configuration) : Entries :=
  config.options.filter fun option => !option.1.sameKey (.text "message_templates")

/-- The options of others, if they are kept under texts: under different names, and none of them is reserved. -/
structure Configuration.Others (config : Configuration) (others : Options) : Prop where
  entries : others.toEntries = config.foreign
  names_nodup : (others.map (·.1)).Nodup
  not_reserved : ∀ option ∈ others, option.1 ∉ reservedNames

/-- One validator answers as another does, except that its record is the fresh one until it checks something. -/
structure Validator.Copies (copy original : Validator) : Prop where
  config_eq : ∀ earlier, (copy.run earlier).config = (original.run earlier).config
  record_eq : ∀ earlier, (∀ operation ∈ earlier, operation.checked? = none) → (copy.run earlier).record = .fresh
  run_eq : ∀ earlier v, Operation.check v ∈ earlier → copy.run earlier = original.run earlier
  answer_eq : ∀ earlier operation, (∃ v, Operation.check v ∈ earlier) ∨ operation.readsRecord = false →
    ((copy.run earlier).step operation).2 = ((original.run earlier).step operation).2

namespace Configuration

/-- The validator's own options, as they are listed after the options of others. -/
def ownOptions (config : Configuration) : Options :=
  [("type", .flags config.mask), ("message_templates", defaultTemplates), ("messages", config.overrides.toValue),
    ("value_obscured", .bool config.obscured)]

/-- The names under which the validator's own options are listed. -/
def ownNames : List Text :=
  ["type", "message_templates", "messages", "value_obscured"]

/-- The validator's own options are listed under their names. -/
theorem ownOptions_names (config : Configuration) : config.ownOptions.map (·.1) = ownNames :=
  rfl

/-- Names of the validator's own options are reserved. -/
theorem ownNames_subset : ownNames ⊆ reservedNames := by
  decide

/-- The options of a sound configuration are those of others, followed by the validator's own. -/
theorem options_eq_append {config : Configuration} (hsound : config.Sound) (hdistinct : config.foreign.Distinct) :
    config.options = config.foreign ++ config.ownOptions.toEntries := by
  have hoptions : config.options = Entries.putAll config.foreign config.ownOptions.toEntries := rfl
  have hown : config.ownOptions.toEntries.Distinct := by
    rw [Options.distinct_toEntries_iff, ownOptions_names]
    decide
  have hbetween : ∀ option ∈ config.foreign, ∀ own ∈ config.ownOptions.toEntries,
      option.1.sameKey own.1 = false := by
    intro option hoption own hmem
    obtain ⟨named, hnamed, rfl⟩ := List.mem_map.mp hmem
    have hname : named.1 ∈ config.ownOptions.map (·.1) := List.mem_map_of_mem hnamed
    rw [ownOptions_names] at hname
    exact hsound.foreign_keys option hoption named.1 (ownNames_subset hname)
  rw [hoptions, Entries.putAll_of_distinct]
  exact List.pairwise_append.mpr ⟨hdistinct, hown, hbetween⟩

/-- What a snapshot holds besides the options of others. -/
def ownSnapshot (config : Configuration) : Options :=
  [("type", .flags config.mask), ("messages", config.overrides.toValue), ("value_obscured", .bool config.obscured)]

/-- A snapshot holds the options of others, followed by the validator's own that can be set. -/
theorem snapshot_eq_append {config : Configuration} (hsound : config.Sound) (hdistinct : config.foreign.Distinct) :
    config.snapshot = config.foreign ++ config.ownSnapshot.toEntries := by
  have hforeign : config.foreign.filter (fun option => !option.1.sameKey (.text "message_templates")) =
      config.foreign := by
    refine List.filter_eq_self.mpr fun option hoption => ?_
    rw [hsound.foreign_keys option hoption "message_templates" (by decide), Bool.not_false]
  rw [snapshot, options_eq_append hsound hdistinct, List.filter_append, hforeign]
  rfl

/-- Options of others that are kept under texts can be told apart by their names. -/
theorem exists_others {config : Configuration} (hsound : config.Sound) (hdistinct : config.foreign.Distinct)
    (htexts : ∀ option ∈ config.foreign, ∃ name, option.1 = .text name) : ∃ others, config.Others others := by
  obtain ⟨others, hothers⟩ := Options.exists_toEntries htexts
  refine ⟨others, hothers, ?_, ?_⟩
  · rw [← hothers] at hdistinct
    exact Options.distinct_toEntries_iff.mp hdistinct
  · intro option hoption hreserved
    have hmem : (Value.text option.1, option.2) ∈ config.foreign := by
      rw [← hothers]
      exact List.mem_map_of_mem hoption
    have hother := hsound.foreign_keys _ hmem option.1 hreserved
    exact Bool.eq_false_iff.mp hother (Value.sameKey_text.mpr rfl)

/-- No option of others is named as the rules are. -/
theorem Others.ne_selector {config : Configuration} {others : Options} (hothers : config.Others others)
    (option : Text × Value) (hoption : option ∈ others) : option.1 ≠ selectorKey := by
  intro hname
  have hreserved : (selectorKey : Text) ∈ reservedNames := by decide
  rw [← hname] at hreserved
  exact hothers.not_reserved option hoption hreserved

/-- What a snapshot holds apart from the rules: options of others, templates, and whether values are obscured. -/
def besidesRules (config : Configuration) (others : Options) : Options :=
  others ++ ([("messages", config.overrides.toValue), ("value_obscured", .bool config.obscured)] : Options)

/-- No two options of a snapshot have the same name. -/
theorem besidesRules_names_nodup {config : Configuration} {others : Options} (hothers : config.Others others) :
    ((config.besidesRules others).map (·.1)).Nodup := by
  have hreserved : (["messages", "value_obscured"] : List Text) ⊆ reservedNames := by decide
  rw [besidesRules, List.map_append, List.nodup_append]
  refine ⟨hothers.names_nodup, (by decide : (["messages", "value_obscured"] : List Text).Nodup), ?_⟩
  rintro name hname own hown rfl
  obtain ⟨option, hoption, rfl⟩ := List.mem_map.mp hname
  exact hothers.not_reserved option hoption (hreserved hown)

/-- None of the options of a snapshot apart from the rules is named as they are. -/
theorem besidesRules_selectorless {config : Configuration} {others : Options} (hothers : config.Others others) :
    (config.besidesRules others).get? selectorKey = none := by
  refine List.lookup_eq_none_iff.mpr fun option hoption => bne_iff_ne.mpr ?_
  rcases List.mem_append.mp hoption with hother | hown
  · exact (hothers.ne_selector option hother).symm
  · have hnames : ∀ name ∈ (["messages", "value_obscured"] : List Text), (selectorKey : Text) ≠ name := by decide
    exact hnames option.1 (List.mem_map_of_mem hown)

/-- The options of a snapshot are read back, apart from the rules. -/
theorem ofEntries_snapshot {config : Configuration} (hsound : config.Sound) (hdistinct : config.foreign.Distinct)
    {others : Options} (hothers : config.Others others) :
    Options.ofEntries [] config.snapshot = .ok (config.besidesRules others) := by
  have hsnapshot : config.snapshot = Options.toEntries (others ++ config.ownSnapshot) := by
    rw [snapshot_eq_append hsound hdistinct, ← hothers.entries]
    exact List.map_append.symm
  have hrest : Options.remove (others ++ config.ownSnapshot) selectorKey = config.besidesRules others := by
    have hkept : List.filter (fun option => option.1 != (selectorKey : Text)) others = others :=
      List.filter_eq_self.mpr fun option hoption => bne_iff_ne.mpr (hothers.ne_selector option hoption)
    rw [Options.remove, List.filter_append, hkept]
    rfl
  rw [hsnapshot, Options.ofEntries_toEntries, hrest, Options.putAll_nil (besidesRules_names_nodup hothers)]

/-- The selector of a snapshot is the mask of the rules in force. -/
theorem find?_snapshot {config : Configuration} (hsound : config.Sound) (hdistinct : config.foreign.Distinct) :
    Entries.find? config.snapshot (.text selectorKey) = some (.flags config.mask) := by
  have hothers : List.find? (fun entry => entry.1.sameKey (.text selectorKey)) config.foreign = none := by
    refine List.find?_eq_none.mpr fun option hoption => Bool.eq_false_iff.mp ?_
    exact hsound.foreign_keys option hoption selectorKey (by decide)
  rw [Entries.find?, snapshot_eq_append hsound hdistinct, List.find?_append, hothers]
  rfl

/-- Setting what a snapshot holds apart from the rules restores a configuration up to its rules. -/
theorem setEntries_besidesRules {config : Configuration} (hsound : config.Sound) (hdistinct : config.foreign.Distinct)
    {others : Options} (hothers : config.Others others) :
    initial.setEntries (config.besidesRules others).toEntries = done { config with mask := defaultMask } := by
  have hforeign : initial.setEntries others.toEntries = done { initial with foreign := config.foreign } := by
    have hall : Entries.putAll initial.foreign config.foreign = config.foreign :=
      Entries.putAll_of_distinct hdistinct
    rw [setEntries_foreign hothers.not_reserved, hothers.entries, hall]
  -- one template for each reason, so putting them one after the other gives them back in their order
  have hmessages : setOption { initial with foreign := config.foreign } (.text "messages") config.overrides.toValue =
      done { initial with foreign := config.foreign, overrides := config.overrides } := by
    have hset : setOption { initial with foreign := config.foreign } (.text "messages") config.overrides.toValue =
        setMessages { initial with foreign := config.foreign }
          (config.overrides.map fun message => (.text message.1.key, message.2)) := rfl
    rw [hset, setMessages_put, initial, Messages.foldl_put_nil hsound.overrides_nodup]
  have hrest : (config.besidesRules others).toEntries = others.toEntries ++
      [(.text "messages", config.overrides.toValue), (.text "value_obscured", .bool config.obscured)] :=
    List.map_append
  rw [hrest, setEntries_append hforeign, setEntries, changeEach, hmessages]
  rfl

/-- A configuration is restored from its snapshot. -/
theorem build_snapshot {config : Configuration} (hsound : config.Sound) (hdistinct : config.foreign.Distinct)
    (htexts : ∀ option ∈ config.foreign, ∃ name, option.1 = .text name) :
    build (.dict config.snapshot) [] = .ok config := by
  obtain ⟨others, hothers⟩ := exists_others hsound hdistinct htexts
  have hsplit : Options.split (.dict config.snapshot) = .ok (.flags config.mask, config.besidesRules others) := by
    simp only [Options.split, Value.entries?, ofEntries_snapshot hsound hdistinct hothers,
      find?_snapshot hsound hdistinct, bind, Except.bind, pure, Except.pure, Option.getD_some]
  have hset := setEntries_besidesRules hsound hdistinct hothers
  have hmask : Selector.mask (.flags config.mask) = .ok config.mask :=
    Selector.mask_of_selects (.scalar (.flags hsound.mask_le))
  rw [build_of_split hsplit (besidesRules_selectorless hothers) (by rw [hset, done]), hset, hmask]
  rfl

end Configuration

namespace Validator

/-- Every operation keeps the names of others' options different. -/
theorem step_distinct {validator : Validator} (h : validator.config.foreign.Distinct) (operation : Operation) :
    (validator.step operation).1.config.foreign.Distinct := by
  cases operation with
  | setType selector =>
    obtain ⟨mask, hset⟩ := Configuration.setType_config validator.config selector
    rw [step, afterChange, hset]
    exact h
  | setOption name value => exact Configuration.setOption_distinct h name value
  | setOptions options =>
    cases options with
    | mapping kind entries => exact Configuration.setEntries_distinct h entries
    | null | bool | int | float | text | sequence | octets | range | decimal => exact h
    | moment | flags | exception | validator | object => exact h
  | setMessage message key =>
    obtain ⟨overrides, hset⟩ := Configuration.setMessage_config validator.config message key
    rw [step, afterChange, hset]
    exact h
  | check | type | defaultType | option | options | messages | value | verdict | literal => exact h

/-- A run keeps the names of others' options different. -/
theorem run_distinct {validator : Validator} (h : validator.config.foreign.Distinct) (operations : List Operation) :
    (validator.run operations).config.foreign.Distinct := by
  induction operations generalizing validator with
  | nil => exact h
  | cons operation rest ih => exact ih (step_distinct h operation)

/-- What an operation answers does not depend on the record, unless it reads it. -/
theorem step_answer_congr {first second : Validator} (h : first.config = second.config) {operation : Operation}
    (hreads : operation.readsRecord = false) : (first.step operation).2 = (second.step operation).2 := by
  cases operation with
  | setType | setOption | setOptions | setMessage => simp only [step, afterChange, h]
  | check v =>
    have hcheck : first.config.check first.record v = second.config.check second.record v := by
      rw [h]
      exact Configuration.check_eq second.config first.record second.record v
    simp only [step, check, hcheck]
  | type | option | options | literal => simp only [step, h]
  | defaultType => rfl
  | messages | value | verdict => cases hreads

/-- Two validators with the same configuration are the same once something has been checked. -/
theorem run_eq_of_checked {first second : Validator} (h : first.config = second.config) {operations : List Operation}
    {v : Value} (hchecked : .check v ∈ operations) : first.run operations = second.run operations := by
  have hconfig := run_config_congr h operations
  have hrecord : (first.run operations).record = (second.run operations).record := by
    rcases exists_latest_check operations with hnone | ⟨earlier, w, later, rfl, hlater⟩
    · cases hnone _ hchecked
    -- the latest check replaces the record by one that depends on the configuration of that moment alone
    · rw [run_record_of_latest first earlier w hlater, run_record_of_latest second earlier w hlater,
        step_check_record (first.run earlier), step_check_record (second.run earlier), run_config_congr h earlier]
  cases hfirst : first.run operations
  cases hsecond : second.run operations
  rw [hfirst, hsecond] at hconfig hrecord
  cases hconfig
  cases hrecord
  rfl

/-- A new validator with the configuration of another copies it. -/
theorem copies_ofConfiguration (original : Validator) : Copies (ofConfiguration original.config) original := by
  have hconfig : (ofConfiguration original.config).config = original.config := rfl
  refine ⟨run_config_congr hconfig, ?_, ?_, ?_⟩
  · intro earlier hunchecked
    exact run_record_of_unchecked _ hunchecked
  · intro earlier v hchecked
    exact run_eq_of_checked hconfig hchecked
  · rintro earlier operation (⟨v, hchecked⟩ | hreads)
    · rw [run_eq_of_checked hconfig hchecked]
    · exact step_answer_congr (run_config_congr hconfig earlier) hreads

/-- Every reachable configuration is sound, and the names of others' options differ in it. -/
theorem Constructed.run_config {validator : Validator} (constructed : Constructed validator)
    (operations : List Operation) :
    (validator.run operations).config.Sound ∧ (validator.run operations).config.foreign.Distinct := by
  obtain ⟨given, further, config, hbuild, rfl⟩ := constructed.exists_build
  have hsound : (ofConfiguration config).config.Sound := Configuration.build_sound hbuild
  have hdistinct : (ofConfiguration config).config.foreign.Distinct := Configuration.build_distinct hbuild
  have hrecord : (ofConfiguration config).record.Sound := Record.sound_of_no_messages .null .notEmpty
  exact ⟨(run_sound hsound hrecord operations).1, run_distinct hdistinct operations⟩

/-- From the snapshot of any reachable validator whose options of others are kept under texts, a validator is built that
has the same configuration and copies it from then on. -/
theorem snapshot_restores {validator : Validator} (constructed : Constructed validator) (operations : List Operation)
    (htexts : ∀ option ∈ (validator.run operations).config.foreign, ∃ name, option.1 = .text name) :
    ∃ copy, Validator.ofArguments (some (.dict (validator.run operations).config.snapshot)) [] = .ok copy ∧
      copy.config = (validator.run operations).config ∧ copy.Copies (validator.run operations) := by
  obtain ⟨hsound, hdistinct⟩ := constructed.run_config operations
  have hbuild := Configuration.build_snapshot hsound hdistinct htexts
  have hcopy : Validator.ofArguments (some (.dict (validator.run operations).config.snapshot)) [] =
      .ok (ofConfiguration (validator.run operations).config) :=
    congrArg (Except.map ofConfiguration) hbuild
  exact ⟨_, hcopy, rfl, copies_ofConfiguration _⟩

/-- A validator without rules, whose templates and options were set after it was built, and that has checked something
under other rules. -/
theorem snapshot_restores_without_rules :
    let validator := ofConfiguration ⟨128, [], true, [(.text "owner", .int 7)]⟩
    let operations : List Operation := [.setMessage (.text "%value%?") (.text "notEmptyInvalid"), .check (.text " "),
      .setOption (.text "messageTemplates") .null, .setType (.flags 0), .setOption (.text "Type") (.list []),
      .setMessage (.int 5) .null]
    Constructed validator ∧
      (∀ option ∈ (validator.run operations).config.foreign, ∃ name, option.1 = .text name) ∧
      ∃ copy, Validator.ofArguments (some (.dict (validator.run operations).config.snapshot)) [] = .ok copy ∧
        copy.config = (validator.run operations).config ∧ copy.Copies (validator.run operations) := by
  intro validator operations
  have hbuild : Validator.ofArguments (some (.dict [(.text "type", .text "space"), (.text "owner", .int 7)]))
      [("valueObscured", .bool true)] = .ok validator := rfl
  have hconstructed : Constructed validator := .arguments hbuild
  have hforeign : (validator.run operations).config.foreign =
      [(.text "owner", .int 7), (.text "Type", .list [])] := rfl
  have htexts : ∀ option ∈ (validator.run operations).config.foreign, ∃ name, option.1 = .text name := by
    rw [hforeign]
    simp
  exact ⟨hconstructed, htexts, snapshot_restores hconstructed operations htexts⟩

end Validator

end Emptiness
