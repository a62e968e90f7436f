import Emptiness.Proofs.Validator.Request
import Emptiness.Proofs.Validator.Snapshot

/-!
# Options are read back as they were set

An option is listed under one name, and two options can be spelled in another way too. An option is read exactly if it
is listed, whatever the spelling. What was set is read back under every spelling: the mask of the rules, a truth value,
the templates with the new ones over them, or an option of others itself. All other options are read as before.
-/

namespace Emptiness

/-- The name under which an option is listed. -/
def canonicalName (name : Text) : Text :=
  if name = "messageTemplates" then "message_templates"
  else if name = "valueObscured" then "value_obscured"
  else name

namespace OptionKey

/-- The key under which an option is listed. -/
def listing : OptionKey → Value
  | .selector => .text "type"
  | .templates => .text "message_templates"
  | .messages => .text "messages"
  | .obscured => .text "value_obscured"
  | .foreign name => name

/-- Every option is listed under its canonical name. -/
theorem listing_ofName (name : Text) : (ofName (.text name)).listing = .text (canonicalName name) := by
  by_cases hreserved : name ∈ reservedNames
  · simp only [reservedNames, List.mem_cons, List.not_mem_nil, or_false] at hreserved
    rcases hreserved with rfl | rfl | rfl | rfl | rfl | rfl <;> simp [ofName, listing, canonicalName]
  · have htemplates : name ≠ "messageTemplates" := fun h => hreserved (h ▸ by decide)
    have hobscured : name ≠ "valueObscured" := fun h => hreserved (h ▸ by decide)
    rw [ofName_of_not_reserved hreserved, canonicalName, if_neg htemplates, if_neg hobscured]
    rfl

/-- The canonical name stands for the same option. -/
theorem ofName_canonicalName (name : Text) : ofName (.text (canonicalName name)) = ofName (.text name) := by
  rw [canonicalName]
  split
  case isTrue h => simp only [h, ofName, Text.string?_ofString]
  case isFalse =>
    split
    case isTrue h => simp only [h, ofName, Text.string?_ofString]
    case isFalse => rfl

/-- Two names stand for the same option exactly if it is listed under the same name. -/
theorem ofName_eq_iff {name other : Text} :
    ofName (.text name) = ofName (.text other) ↔ canonicalName name = canonicalName other := by
  constructor
  · intro h
    have hlisting := congrArg listing h
    rw [listing_ofName, listing_ofName] at hlisting
    exact Value.text.inj hlisting
  · intro h
    rw [← ofName_canonicalName name, h, ofName_canonicalName]

end OptionKey

/-- The option that a write goes to. -/
def Write.key : Write → OptionKey
  | .rules _ => .selector
  | .templates _ => .messages
  | .obscured _ => .obscured
  | .foreign name _ => .foreign name

/-- What an option asks to be written if its value is accepted. -/
inductive Write.Sets : OptionKey → Value → Write → Prop
  | rules {selector : Value} {mask : Nat} (hmask : Selector.mask selector = .ok mask) :
      Sets .selector selector (.rules mask)
  | templates {kind : MappingKind} {entries : Entries} (hall : (Messages.ofEntries entries).2 = none) :
      Sets .messages (.mapping kind entries) (.templates (Messages.ofEntries entries).1)
  | obscured {value : Value} {obscured : Bool} (htruth : value.truth = .ok obscured) :
      Sets .obscured value (.obscured obscured)
  | foreign {name value : Value} : Sets (.foreign name) value (.foreign name value)

/-- What an option asks to be written goes to that option. -/
theorem Write.Sets.key_eq {key : OptionKey} {value : Value} {write : Write} (h : Sets key value write) :
    write.key = key := by
  cases h <;> rfl

/-- A request that is accepted is not refused. -/
theorem Request.refused_ne {request : Request} (h : request.fault? = none) (fault : Fault) :
    refused fault ≠ request := by
  rintro rfl
  cases h

/-- An option that is accepted asks for one write. -/
theorem Request.ofOption_of_accepted {name value : Value} (h : (Request.ofOption name value).fault? = none) :
    ∃ write, Request.ofOption name value = .one write ∧ Write.Sets (OptionKey.ofName name) value write := by
  generalize hrequest : Request.ofOption name value = request at h ⊢
  unfold Request.ofOption at hrequest
  split at hrequest
  · exact absurd hrequest (refused_ne h _)
  · split at hrequest
    case h_1 hkey =>
      unfold Request.ofSelector at hrequest
      split at hrequest
      case h_1 mask hmask => exact ⟨_, hrequest.symm, hkey ▸ .rules hmask⟩
      case h_2 => exact absurd hrequest (refused_ne h _)
    case h_2 => exact absurd hrequest (refused_ne h _)
    case h_3 hkey =>
      split at hrequest
      case h_1 kind entries =>
        subst hrequest
        exact ⟨_, congrArg (Request.mk _) h, hkey ▸ .templates h⟩
      case h_2 => exact absurd hrequest (refused_ne h _)
    case h_4 hkey =>
      split at hrequest
      case h_1 obscured htruth => exact ⟨_, hrequest.symm, hkey ▸ .obscured htruth⟩
      case h_2 => exact absurd hrequest (refused_ne h _)
    case h_5 other hkey => exact ⟨_, hrequest.symm, hkey ▸ .foreign⟩

namespace Configuration

/-- What a configuration holds as an option. -/
def read (config : Configuration) : OptionKey → Option Value
  | .selector => some (.flags config.mask)
  | .templates => some defaultTemplates
  | .messages => some config.overrides.toValue
  | .obscured => some (.bool config.obscured)
  | .foreign name => Entries.find? config.foreign name

/-- An option is read if there is one of that name, and unknown otherwise. -/
theorem option_eq_read (config : Configuration) (name : Text) :
    config.option (.text name) =
      match config.read (OptionKey.ofName (.text name)) with
      | some value => .ok value
      | none => .error (.misconfigured (.unknownOption (Text.quoted name))) := by
  have hkey : Value.requireKey (.text name) = .ok () := rfl
  rw [option, hkey]
  cases hname : OptionKey.ofName (.text name) with
  | selector | templates | messages | obscured => rfl
  | foreign other =>
    obtain ⟨rfl, -⟩ := OptionKey.foreign_of_ofName hname
    simp only [bind, Except.bind, read]
    cases Entries.find? config.foreign (.text name) <;> rfl

/-- No option of others is found under a name of the validator's own. -/
theorem Sound.find?_foreign {config : Configuration} (hsound : config.Sound) {name : Text}
    (hreserved : name ∈ reservedNames) : Entries.find? config.foreign (.text name) = none := by
  refine Option.map_eq_none_iff.mpr (List.find?_eq_none.mpr fun option hoption => Bool.eq_false_iff.mp ?_)
  exact hsound.foreign_keys option hoption name hreserved

/-- What a configuration holds as an option is listed under the canonical name. -/
theorem find?_options {config : Configuration} (hsound : config.Sound) (hdistinct : config.foreign.Distinct)
    (name : Text) :
    Entries.find? config.options (.text (canonicalName name)) = config.read (OptionKey.ofName (.text name)) := by
  have hfound : Entries.find? config.options (.text (canonicalName name)) =
      (Entries.find? config.foreign (.text (canonicalName name))).or
        (config.ownOptions.get? (canonicalName name)) := by
    rw [options_eq_append hsound hdistinct, Entries.find?_append, Options.find?_toEntries]
  have hlisting := OptionKey.listing_ofName name
  rw [hfound]
  cases hname : OptionKey.ofName (.text name) with
  | selector | templates | messages | obscured =>
    rw [hname] at hlisting
    rw [← Value.text.inj hlisting, hsound.find?_foreign (by decide)]
    rfl
  | foreign other =>
    obtain ⟨rfl, hnever⟩ := OptionKey.foreign_of_ofName hname
    rw [hname] at hlisting
    have hcanonical : canonicalName name = name := (Value.text.inj hlisting).symm
    have hown : config.ownOptions.get? name = none := by
      refine List.lookup_eq_none_iff.mpr fun option hoption => bne_iff_ne.mpr ?_
      rintro rfl
      have hmem : option.1 ∈ config.ownOptions.map (·.1) := List.mem_map_of_mem hoption
      rw [ownOptions_names] at hmem
      exact Bool.eq_false_iff.mp (hnever _ (ownNames_subset hmem)) (Value.sameKey_text.mpr rfl)
    rw [hcanonical, hown]
    exact Option.or_none

/-- A write is not seen in other options. -/
theorem read_write_of_ne (config : Configuration) {write : Write} {name : Text}
    (h : write.key ≠ OptionKey.ofName (.text name)) :
    (config.write write).read (OptionKey.ofName (.text name)) = config.read (OptionKey.ofName (.text name)) := by
  cases hname : OptionKey.ofName (.text name) with
  | selector | templates | messages | obscured =>
    cases write with
    | rules | templates | obscured | foreign => first | rfl | exact absurd hname.symm h
  | foreign other =>
    obtain ⟨rfl, -⟩ := OptionKey.foreign_of_ofName hname
    cases write with
    | rules | templates | obscured => rfl
    | foreign key value =>
      have hne : key ≠ .text name := fun hkey => h (hkey ▸ hname.symm)
      exact Entries.find?_put_of_ne config.foreign hne value

end Configuration

/-- Templates under the keys that they address: one that is given without a key goes under the keys of all reasons. -/
def Entries.spread (entries : Entries) : Entries :=
  entries.flatMap fun entry =>
    match entry.1 with
    | .null => Reason.inOrder.map fun reason => (.text reason.key, entry.2)
    | key => [(key, entry.2)]

/-- Templates are spread one after the other. -/
theorem Entries.spread_append (entries more : Entries) : spread (entries ++ more) = entries.spread ++ more.spread :=
  List.flatMap_append

/-- Only the key of a reason names it. -/
theorem Reason.eq_of_ofKey? {key : Value} {reason : Reason} (h : ofKey? key = some reason) :
    key = .text reason.key := by
  cases key with
  | text name =>
    have hname := List.find?_some h
    exact congrArg Value.text (beq_iff_eq.mp hname).symm
  | null | bool | int | float | sequence | mapping | octets | range => cases h
  | decimal | moment | flags | exception | validator | object => cases h

namespace Messages

/-- Messages as the entries of a mapping from the keys of their reasons. -/
def toEntries (messages : Messages) : Entries :=
  messages.map fun message => (.text message.1.key, message.2)

/-- Putting a message puts an entry under the key of its reason. -/
theorem toEntries_put (messages : Messages) (reason : Reason) (message : Value) :
    (messages.put reason message).toEntries = messages.toEntries.put (.text reason.key) message := by
  induction messages with
  | nil => rfl
  | cons first rest ih =>
    obtain ⟨known, old⟩ := first
    have hkey : Value.sameKey (.text known.key) (.text reason.key) = true ↔ known = reason := by
      rw [Value.sameKey_text, Value.text.injEq]
      cases known <;> cases reason <;> decide
    rw [put, toEntries, toEntries, List.map_cons, Entries.put]
    by_cases hknown : known = reason
    · rw [if_pos hknown, if_pos (hkey.mpr hknown)]
      rfl
    · rw [if_neg hknown, if_neg (mt hkey.mp hknown), List.map_cons]
      exact congrArg _ ih

/-- Putting messages puts entries under the keys of their reasons. -/
theorem toEntries_putAll (messages more : Messages) :
    (messages.putAll more).toEntries = messages.toEntries.putAll more.toEntries := by
  induction more generalizing messages with
  | nil => rfl
  | cons message rest ih =>
    have hrest := ih (messages.put message.1 message.2)
    rw [toEntries_put] at hrest
    exact hrest

/-- A template for the reasons that a key addresses is spread over their keys. -/
theorem toEntries_under {key : Value} {reasons : List Reason} (h : Reason.addressed key = .ok reasons)
    (message : Value) : (under reasons message).toEntries = Entries.spread [(key, message)] := by
  unfold Reason.addressed at h
  split at h
  case h_1 =>
    cases h
    rfl
  case h_2 =>
    split at h
    · cases h
    · split at h
      case h_1 reason hreason =>
        cases h
        rw [Reason.eq_of_ofKey? hreason]
        rfl
      case h_2 => cases h

/-- Templates that are all accepted are those that are given, under the keys that they address. -/
theorem toEntries_ofEntries {entries : Entries} (h : (ofEntries entries).2 = none) :
    (ofEntries entries).1.toEntries = entries.spread := by
  induction entries with
  | nil => rfl
  | cons entry rest ih =>
    obtain ⟨key, message⟩ := entry
    rw [ofEntries] at h ⊢
    cases haddressed : Reason.addressed key with
    | error fault =>
      rw [haddressed] at h
      cases h
    | ok reasons =>
      rw [haddressed] at h
      have hspread : Entries.spread ((key, message) :: rest) = Entries.spread [(key, message)] ++ Entries.spread rest :=
        Entries.spread_append [(key, message)] rest
      rw [hspread, ← toEntries_under haddressed message, ← ih h]
      exact List.map_append

end Messages

/-- What an option reads once it has been set to a value: the mask of the rules that the value stands for, its truth, the
templates from before with those of the value over them in their order, or, for an option of others, the value
itself. -/
inductive Configuration.Stores (before : Configuration) : Text → Value → Value → Prop
  | rules {selector : Value} {mask : Nat} (hmask : Selector.mask selector = .ok mask) :
      Stores before "type" selector (.flags mask)
  | obscured {value : Value} {obscured : Bool} (htruth : value.truth = .ok obscured) :
      Stores before "value_obscured" value (.bool obscured)
  | messages {kind : MappingKind} {entries previous : Entries}
      (hprevious : before.option (.text "messages") = .ok (.dict previous)) :
      Stores before "messages" (.mapping kind entries) (.dict (previous.putAll entries.spread))
  | foreign {name : Text} {value : Value} (hname : name ∉ reservedNames) : Stores before name value value

/-- What is set is read back. -/
theorem Write.Sets.read_eq {name : Text} {value : Value} {write : Write}
    (h : Sets (OptionKey.ofName (.text name)) value write) (before : Configuration) :
    ∃ x, before.Stores (canonicalName name) value x ∧
      (before.write write).read (OptionKey.ofName (.text name)) = some x := by
  have hlisting := OptionKey.listing_ofName name
  generalize hname : OptionKey.ofName (.text name) = key at h hlisting ⊢
  cases h with
  | rules hmask =>
    rw [← Value.text.inj hlisting]
    exact ⟨_, .rules hmask, rfl⟩
  | obscured htruth =>
    rw [← Value.text.inj hlisting]
    exact ⟨_, .obscured htruth, rfl⟩
  | @templates kind entries hall =>
    rw [← Value.text.inj hlisting]
    refine ⟨_, .messages rfl, ?_⟩
    rw [← Messages.toEntries_ofEntries hall]
    exact congrArg (fun all => some (Value.dict all)) (Messages.toEntries_putAll before.overrides _)
  | foreign =>
    obtain ⟨rfl, hnever⟩ := OptionKey.foreign_of_ofName hname
    have hreserved : name ∉ reservedNames := fun hmem =>
      Bool.eq_false_iff.mp (hnever name hmem) (Value.sameKey_text.mpr rfl)
    rw [← Value.text.inj hlisting]
    exact ⟨_, .foreign hreserved, Entries.find?_put_self before.foreign name value⟩

namespace Validator

/-- Reading an option answers what the configuration holds, or that there is no such option. -/
theorem step_option (validator : Validator) (name : Text) :
    (validator.step (.option (.text name))).2 =
      match validator.config.read (OptionKey.ofName (.text name)) with
      | some x => .ok (.value x)
      | none => .error (.misconfigured (.unknownOption (Text.quoted name))) := by
  rw [step, Configuration.option_eq_read]
  cases validator.config.read (OptionKey.ofName (.text name)) <;> rfl

/-- An option that is set successfully is written, and nothing else. -/
theorem step_setOption_of_accepted {validator after : Validator} {name value : Value}
    (h : validator.step (.setOption name value) = (after, .ok .itself)) :
    ∃ write, Write.Sets (OptionKey.ofName name) value write ∧ after.config = validator.config.write write := by
  have hanswer : (validator.step (.setOption name value)).2 = .ok .itself := congrArg Prod.snd h
  have haccepted : (Request.ofOption name value).fault? = none := (validator.step_succeeds_iff rfl).mp hanswer
  obtain ⟨write, hrequest, hsets⟩ := Request.ofOption_of_accepted haccepted
  have hconfig := validator.step_config (.setOption name value)
  rw [h, Operation.request, hrequest] at hconfig
  exact ⟨write, hsets, hconfig⟩

/-- In every reachable validator an option is read, under any spelling of its name, exactly if it is listed under the
canonical one, and is unknown otherwise. Once an option has been set it is read back, and the others are read as
before. -/
theorem options_read_back {validator : Validator} (constructed : Constructed validator) (operations : List Operation) :
    (∃ listed, ((validator.run operations).step .options).2 = .ok (.value (.dict listed)) ∧ ∀ name : Text,
      (∀ x, ((validator.run operations).step (.option (.text name))).2 = .ok (.value x) ↔
        listed.find? (.text (canonicalName name)) = some x) ∧
      (listed.find? (.text (canonicalName name)) = none →
        ((validator.run operations).step (.option (.text name))).2 =
          .error (.misconfigured (.unknownOption (Text.quoted name))))) ∧
    ∀ (name : Text) (value : Value) (after : Validator),
      (validator.run operations).step (.setOption (.text name) value) = (after, .ok .itself) →
      (∃ x, (validator.run operations).config.Stores (canonicalName name) value x ∧
        ∀ spelling, canonicalName spelling = canonicalName name →
          (after.step (.option (.text spelling))).2 = .ok (.value x)) ∧
      ∀ other, canonicalName other ≠ canonicalName name →
        (after.step (.option (.text other))).2 = ((validator.run operations).step (.option (.text other))).2 := by
  obtain ⟨hsound, hdistinct⟩ := constructed.run_config operations
  generalize validator.run operations = current at hsound hdistinct ⊢
  refine ⟨⟨current.config.options, rfl, fun name => ?_⟩, fun name value after hset => ?_⟩
  · rw [step_option, Configuration.find?_options hsound hdistinct]
    cases current.config.read (OptionKey.ofName (.text name)) with
    | none => exact ⟨fun x => iff_of_false nofun nofun, fun _ => rfl⟩
    | some value => exact ⟨fun x => by simp, nofun⟩
  · obtain ⟨write, hsets, hafter⟩ := step_setOption_of_accepted hset
    obtain ⟨x, hstores, hread⟩ := hsets.read_eq current.config
    refine ⟨⟨x, hstores, fun spelling hspelling => ?_⟩, fun other hother => ?_⟩
    · rw [step_option, hafter, OptionKey.ofName_eq_iff.mpr hspelling, hread]
    · have hne : write.key ≠ OptionKey.ofName (.text other) := by
        rw [hsets.key_eq, ne_eq, OptionKey.ofName_eq_iff]
        exact Ne.symm hother
      rw [step_option, step_option, hafter, Configuration.read_write_of_ne _ hne]

/-- Templates set over one that is there, the second of them for all reasons, are read back, beside an option that was
set under its other spelling and one that is not there. -/
theorem options_read_back_of_templates :
    let validator := ofConfiguration ⟨489, [(.invalid, .text "a")], false, [(.text "owner", .int 7)]⟩
    let operations : List Operation := [.setOption (.text "messageTemplates") .null,
      .setOption (.text "valueObscured") (.int 1), .check (.text " ")]
    let current := validator.run operations
    let templates : Value := .dict [(.text "isEmpty", .text "b"), (.null, .text "c"), (.text "isEmpty", .text "d")]
    let after := (current.step (.setOption (.text "messages") templates)).1
    Constructed validator ∧ current.step (.setOption (.text "messages") templates) = (after, .ok .itself) ∧
      (current.step (.option (.text "gone"))).2 = .error (.misconfigured (.unknownOption (Text.quoted "gone"))) ∧
      (∃ x, current.config.Stores (canonicalName "messages") templates x ∧
        ∀ spelling, canonicalName spelling = canonicalName "messages" →
          (after.step (.option (.text spelling))).2 = .ok (.value x)) ∧
      canonicalName "valueObscured" ≠ canonicalName "messages" ∧
      (after.step (.option (.text "valueObscured"))).2 = (current.step (.option (.text "valueObscured"))).2 := by
  intro validator operations current templates after
  have hbuild : Validator.ofArguments (some (.dict [(.text "owner", .int 7)]))
      [("messages", .dict [(.text "notEmptyInvalid", .text "a")])] = .ok validator := rfl
  have hconstructed : Constructed validator := .arguments hbuild
  have hset : current.step (.setOption (.text "messages") templates) = (after, .ok .itself) := rfl
  have hother : canonicalName "valueObscured" ≠ canonicalName "messages" := by decide
  obtain ⟨⟨listed, hlisted, hread⟩, hstore⟩ := options_read_back hconstructed operations
  have hgone : listed.find? (.text (canonicalName "gone")) = none := by
    cases hlisted
    rfl
  obtain ⟨hself, hrest⟩ := hstore "messages" templates after hset
  exact ⟨hconstructed, hset, (hread "gone").2 hgone, hself, hother, hrest "valueObscured" hother⟩

end Validator

end Emptiness
