import Emptiness.Proofs.Selector.Grammar
import Emptiness.Proofs.Validator.Change

/-!
# The rules that a validator is built with

A record is taken apart into its selector and the other options before a validator is built, while a selector that is
reduced to a mask is looked into as it stands. The two ways give the same rules, with one exception: a mapping within a
mapping is no selector, but a record whose selector is a mapping takes the rules from within it. The options besides the
selector are taken to be accepted, and none of them to be written as the selector is.
-/

namespace Emptiness

namespace Selector

/-- A sequence without items. It selects no rules, but leaves a new validator with the default ones. -/
def IsEmptySequence (v : Value) : Prop :=
  ∃ kind, v = .sequence kind []

/-- A mapping whose selector is a mapping again. -/
def Nests (v inner : Value) : Prop :=
  ∃ entries deeper, v.entries? = .ok (some entries) ∧ Entries.find? entries (.text selectorKey) = some inner ∧
    inner.entries? = .ok (some deeper)

/-- What is read as a mapping is no sequence. -/
theorem not_isEmptySequence_of_record {v : Value} {entries : Entries} (hread : v.entries? = .ok (some entries)) :
    ¬ IsEmptySequence v := by
  rintro ⟨kind, rfl⟩
  cases hread

/-- A value that fails when it is read as a mapping gives no mask. -/
theorem mask_of_unreadable {v : Value} {fault : Fault} (hread : v.entries? = .error fault) : mask v = .error fault := by
  simp only [mask, hread, bind, Except.bind]

/-- A mapping whose selector fails when it is read as a mapping gives no mask. -/
theorem mask_of_unreadable_inner {v inner : Value} {entries : Entries} {fault : Fault}
    (hread : v.entries? = .ok (some entries)) (hsome : Entries.find? entries (.text selectorKey) = some inner)
    (hinner : inner.entries? = .error fault) : mask v = .error fault := by
  simp only [mask, hread, hsome, hinner, bind, Except.bind]

/-- A mapping stands for what its selector stands for, unless that is a mapping again. -/
theorem mask_eq_mask_inner {v inner : Value} {entries : Entries} (hread : v.entries? = .ok (some entries))
    (hsome : Entries.find? entries (.text selectorKey) = some inner) (hflat : ¬ Nests v inner) :
    mask v = mask inner := by
  cases hinner : inner.entries? with
  | error fault => rw [mask_of_unreadable_inner hread hsome hinner, mask_of_unreadable hinner]
  | ok deeper =>
    cases deeper with
    | none => rw [mask_of_typed hread hsome hinner, mask_of_flat hinner]
    | some deeper => exact absurd ⟨entries, deeper, hread, hsome, hinner⟩ hflat

/-- A selector that leaves the default rules in place stands for them, unless it is an empty sequence. -/
theorem mask_of_blank {v : Value} (hblank : isBlank v = true) (hnonempty : ¬ IsEmptySequence v) :
    mask v = .ok defaultMask := by
  unfold isBlank at hblank
  split at hblank
  case h_1 => rfl
  case h_2 kind items =>
    have hitems : items = [] := List.isEmpty_iff.mp hblank
    subst hitems
    exact absurd ⟨kind, rfl⟩ hnonempty
  case h_3 => cases hblank

end Selector

/-- The options that a record holds besides its selector can be named and set, and none of them is written as the
selector is. -/
structure Options.Accepted (entries : Entries) (rest : Options) : Prop where
  named : Options.ofEntries [] entries = .ok rest
  selectorless : rest.get? selectorKey = none
  accepted : (Configuration.initial.setOptions (.dict rest.toEntries)).fault? = none

/-- What a validator can be built from, as far as the options besides the selector go. -/
structure Buildable (given : Value) : Prop where
  nonempty : ¬ Selector.IsEmptySequence given
  inner_nonempty : ∀ entries inner, given.entries? = .ok (some entries) →
    Entries.find? entries (.text selectorKey) = some inner → ¬ Selector.IsEmptySequence inner
  accepted : ∀ entries, given.entries? = .ok (some entries) → ∃ rest, Options.Accepted entries rest

namespace Configuration

/-- A configuration is built by setting the options and then choosing the rules, unless the selector leaves the default
rules in place. -/
theorem build_of_split {given selector : Value} {rest : Options} (hsplit : Options.split given = .ok (selector, rest))
    (hselectorless : rest.get? selectorKey = none)
    (haccepted : (initial.setEntries rest.toEntries).fault? = none) :
    build given [] =
      if Selector.isBlank selector then .ok (initial.setEntries rest.toEntries).config
      else (Selector.mask selector).map fun mask =>
        { (initial.setEntries rest.toEntries).config with mask := mask } := by
  have hrest : Options.putAll rest [] = rest := rfl
  rw [Options.toEntries] at haccepted ⊢
  simp only [build, hsplit, bind, Except.bind, hrest, hselectorless, Option.getD_none,
    Options.remove_of_absent hselectorless, haccepted]
  split
  · rfl
  · cases Selector.mask selector <;> rfl

/-- The rules of a configuration that is built are those that the selector stands for. -/
theorem build_mask {given selector : Value} {rest : Options} (hsplit : Options.split given = .ok (selector, rest))
    (hselectorless : rest.get? selectorKey = none)
    (haccepted : (initial.setEntries rest.toEntries).fault? = none) (hnonempty : ¬ Selector.IsEmptySequence selector) :
    (build given []).map (·.mask) = Selector.mask selector := by
  rw [build_of_split hsplit hselectorless haccepted]
  cases hblank : Selector.isBlank selector with
  | true =>
    rw [Selector.mask_of_blank hblank hnonempty]
    exact congrArg Except.ok (setEntries_mask hselectorless initial)
  | false => cases Selector.mask selector <;> rfl

/-- What is no mapping is a selector without other options. -/
theorem build_mask_of_flat {given : Value} (hread : given.entries? = .ok none)
    (hnonempty : ¬ Selector.IsEmptySequence given) : (build given []).map (·.mask) = Selector.mask given := by
  have hsplit : Options.split given = .ok (given, []) := by
    simp only [Options.split, hread, bind, Except.bind, pure, Except.pure]
  exact build_mask hsplit rfl rfl hnonempty

/-- The rules of a record are those of its selector, or the default ones if it has none. -/
theorem build_mask_of_record {given : Value} {entries : Entries} {rest : Options}
    (hread : given.entries? = .ok (some entries)) (haccepted : Options.Accepted entries rest)
    (hnonempty : ¬ Selector.IsEmptySequence ((Entries.find? entries (.text selectorKey)).getD .null)) :
    (build given []).map (·.mask) = Selector.mask ((Entries.find? entries (.text selectorKey)).getD .null) := by
  have hsplit : Options.split given = .ok ((Entries.find? entries (.text selectorKey)).getD .null, rest) := by
    simp only [Options.split, hread, haccepted.named, bind, Except.bind, pure, Except.pure]
  exact build_mask hsplit haccepted.selectorless haccepted.accepted hnonempty

/-- What fails when it is read as a mapping builds nothing. -/
theorem build_of_unreadable {given : Value} {fault : Fault} (hread : given.entries? = .error fault)
    (further : Options) : build given further = .error fault := by
  simp only [build, Options.split, hread, bind, Except.bind]

end Configuration

namespace Validator

/-- The rules of a validator that is built from one argument are those of its configuration. -/
theorem ofArguments_mask (given : Value) :
    (Validator.ofArguments (some given) []).map (·.config.mask) = (Configuration.build given []).map (·.mask) := by
  have hbuild : Validator.ofArguments (some given) [] = (Configuration.build given []).map ofConfiguration := rfl
  rw [hbuild]
  cases Configuration.build given [] <;> rfl

/-- A validator is built with the rules that its argument is reduced to, whether these exist or not, unless the argument
is a mapping whose selector is a mapping again: that is refused as a selector, and taken apart as a record. -/
theorem built_mask_eq_mask {given : Value} (h : Buildable given) :
    (∀ inner, Selector.Nests given inner →
      Selector.mask given = .error (Selector.unknown inner) ∧
        (Validator.ofArguments (some given) []).map (·.config.mask) = Selector.mask inner) ∧
    ((∀ inner, ¬ Selector.Nests given inner) →
      (Validator.ofArguments (some given) []).map (·.config.mask) = Selector.mask given) := by
  rw [ofArguments_mask]
  constructor
  · rintro inner ⟨entries, deeper, hread, hsome, hnested⟩
    obtain ⟨rest, haccepted⟩ := h.accepted entries hread
    have hbuilt := Configuration.build_mask_of_record hread haccepted
    rw [hsome] at hbuilt
    exact ⟨Selector.mask_of_nested hread hsome hnested, hbuilt (h.inner_nonempty entries inner hread hsome)⟩
  · intro hflat
    cases hread : given.entries? with
    | error fault =>
      rw [Configuration.build_of_unreadable hread, Selector.mask_of_unreadable hread]
      rfl
    | ok read =>
      cases read with
      | none => exact Configuration.build_mask_of_flat hread h.nonempty
      | some entries =>
        obtain ⟨rest, haccepted⟩ := h.accepted entries hread
        have hbuilt := Configuration.build_mask_of_record hread haccepted
        cases hsome : Entries.find? entries (.text selectorKey) with
        | none =>
          have hnull : ¬ Selector.IsEmptySequence .null := by
            rintro ⟨kind, hkind⟩
            cases hkind
          rw [hsome] at hbuilt
          rw [Selector.mask_of_untyped hread hsome]
          exact hbuilt hnull
        | some inner =>
          rw [hsome] at hbuilt
          rw [Selector.mask_eq_mask_inner hread hsome (hflat inner)]
          exact hbuilt (h.inner_nonempty entries inner hread hsome)

/-- An object that is read as a record, with a tuple of a name and flags for its selector beside a template and an
option of another. -/
theorem built_mask_of_object :
    let items : Entries := [(.text "messages", .dict [(.text "isEmpty", .text "%value%?")]),
      (.text "type", .tuple [.text "Zero", .flags 64]), (.null, .int 7)]
    let keys : Value := .list [.text "type", .null, .text "messages"]
    let given : Value := .object 0 ⟨"Config", none, none, some (.returns keys), some items⟩
    Buildable given ∧ (∀ inner, ¬ Selector.Nests given inner) ∧
      (Validator.ofArguments (some given) []).map (·.config.mask) = Selector.mask given := by
  intro items keys given
  let entries : Entries := [(.text "type", .tuple [.text "Zero", .flags 64]), (.null, .int 7),
    (.text "messages", .dict [(.text "isEmpty", .text "%value%?")])]
  let rest : Options := [("None", .int 7), ("messages", .dict [(.text "isEmpty", .text "%value%?")])]
  have hread : given.entries? = .ok (some entries) := rfl
  have hsome : Entries.find? entries (.text selectorKey) = some (.tuple [.text "Zero", .flags 64]) := rfl
  have hbuildable : Buildable given := by
    refine ⟨Selector.not_isEmptySequence_of_record hread, ?_, ?_⟩
    · rintro read inner hinner hfound ⟨kind, hkind⟩
      cases hread.symm.trans hinner
      cases hsome.symm.trans hfound
      cases hkind
    · intro read hentries
      cases hread.symm.trans hentries
      exact ⟨rest, rfl, rfl, rfl⟩
  have hflat : ∀ inner, ¬ Selector.Nests given inner := by
    rintro inner ⟨read, deeper, hinner, hfound, hnested⟩
    cases hread.symm.trans hinner
    cases hsome.symm.trans hfound
    cases hnested
  exact ⟨hbuildable, hflat, (built_mask_eq_mask hbuildable).2 hflat⟩

/-- A record whose selector is a record is no selector, yet a validator is built from it, with the rules of the record
within. -/
theorem built_mask_of_nested_record :
    let given : Value := .dict [(.text "type", .dict [(.text "type", .text "zero")])]
    Buildable given ∧ Selector.mask given = .error (.misconfigured (.unknownRule "\x7b'type': 'zero'\x7d")) ∧
      (Validator.ofArguments (some given) []).map (·.config.mask) = .ok Rule.zero.bit := by
  intro given
  let inner : Value := .dict [(.text "type", .text "zero")]
  have hread : given.entries? = .ok (some [(.text "type", inner)]) := rfl
  have hsome : Entries.find? [(.text "type", inner)] (.text selectorKey) = some inner := rfl
  have hinner : inner.entries? = .ok (some [(.text "type", .text "zero")]) := rfl
  have hshown : inner.literal = .ok "\x7b'type': 'zero'\x7d" := by decide +kernel
  have hbuildable : Buildable given := by
    refine ⟨Selector.not_isEmptySequence_of_record hread, ?_, ?_⟩
    · intro read found hentries hfound
      cases hread.symm.trans hentries
      cases hsome.symm.trans hfound
      exact Selector.not_isEmptySequence_of_record hinner
    · intro read hentries
      cases hread.symm.trans hentries
      exact ⟨[], rfl, rfl, rfl⟩
  have hunknown := Selector.mask_of_nested hread hsome hinner
  rw [Selector.unknown_of_literal hshown] at hunknown
  exact ⟨hbuildable, hunknown, rfl⟩

/-- A key that is only written as the selector is takes its place: a validator is built with the rules under that key,
though the record as a selector stands for the default ones. -/
example :
    let given : Value := .dict [(.exception 0 [.text "type"], .text "zero")]
    Selector.mask given = .ok defaultMask ∧
      (Validator.ofArguments (some given) []).map (·.config.mask) = .ok Rule.zero.bit :=
  ⟨rfl, rfl⟩

end Validator

end Emptiness
