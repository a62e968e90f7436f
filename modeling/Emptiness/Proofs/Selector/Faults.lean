import Emptiness.Proofs.Selector.Grammar
import Emptiness.Proofs.Value.Reading

/-!
# How the reduction of a selector can end

Every value is reduced to a mask of rules or refused as an unknown type, with two exceptions. An object that fails while
it is read as a mapping passes its own fault on, and so does one that is the selector in a mapping. And the part that is
to blame may have no literal to show, because it holds an integer whose numeral would be too long. No other fault comes
out of a selector, and neither of the two is a misconfiguration.
-/

namespace Emptiness.Selector

/-- A selector, or the selector that it holds under `type`, fails with this fault while it is read as a mapping. -/
inductive FailsInside : Value → Fault → Prop
  | outer {v : Value} {fault : Fault} (hfails : v.FailsToRead fault) : FailsInside v fault
  | inner {v inner : Value} {entries : Entries} {fault : Fault} (hread : v.entries? = .ok (some entries))
      (hsome : Entries.find? entries (.text selectorKey) = some inner) (hfails : inner.FailsToRead fault) :
      FailsInside v fault

/-- What does not fail inside is read safely. -/
theorem readsSafely_of_not_failsInside {v : Value} (h : ∀ fault, ¬ FailsInside v fault) : ReadsSafely v where
  outer := fun fault hfault => h fault (.outer (Value.entries?_eq_error_iff.mp hfault))
  inner := fun _ _ hread hsome fault hfault => h fault (.inner hread hsome (Value.entries?_eq_error_iff.mp hfault))

/-- A selector that fails inside passes the fault on. -/
theorem mask_of_failsInside {v : Value} {fault : Fault} (h : FailsInside v fault) : mask v = .error fault := by
  cases h with
  | outer hfails => simp only [mask, hfails.entries?_eq, bind, Except.bind]
  | inner hread hsome hfails => simp only [mask, hread, hsome, hfails.entries?_eq, bind, Except.bind]

/-- A part that is to blame is shown by its literal, or the fault is that a numeral in it is too long. -/
theorem unknown_cases (part : Value) :
    (∃ shown, part.literal = .ok shown ∧ unknown part = .misconfigured (.unknownRule shown)) ∨
      part.literal = .error (.numeralTooLong none) ∧ ¬ part.HasShortIntegers ∧
        unknown part = .numeralTooLong none := by
  cases h : part.literal with
  | ok shown => exact .inl ⟨shown, rfl, unknown_of_literal h⟩
  | error fault =>
    cases part.literal_fault fault h
    refine .inr ⟨rfl, Value.not_short_of_literal h, ?_⟩
    rw [unknown, Value.faultWith, h]

/-- A selector that fails while it is read as a mapping, or whose own selector does, ends with that fault. Any other
value is reduced to a mask of rules, or a part of it is to blame: then it is refused as an unknown type with the literal
of the part, unless the part has no literal, since it holds an integer that is too long. -/
theorem mask_faults (selector : Value) :
    (∀ fault, FailsInside selector fault → mask selector = .error fault) ∧
      ((∀ fault, ¬ FailsInside selector fault) →
        (∃ m, mask selector = .ok m ∧ m ≤ 2047) ∨
          ∃ part, Blames selector part ∧
            ((∃ shown cause, part.literal = .ok shown ∧ mask selector = .error (.misconfigured cause) ∧
                cause.message = "Unknown type: " ++ shown) ∨
              part.literal = .error (.numeralTooLong none) ∧ ¬ part.HasShortIntegers ∧
                mask selector = .error (.numeralTooLong none))) := by
  refine ⟨fun fault => mask_of_failsInside, fun hsafe => ?_⟩
  rcases mask_cases (readsSafely_of_not_failsInside hsafe) with ⟨m, -, hmask⟩ | ⟨part, hblames, hfault⟩
  · exact .inl ⟨m, hmask, mask_le hmask⟩
  · refine .inr ⟨part, hblames, ?_⟩
    rcases unknown_cases part with ⟨shown, hshown, hunknown⟩ | ⟨hnone, hlong, hunknown⟩
    · exact .inl ⟨shown, .unknownRule shown, hshown, hunknown ▸ hfault, rfl⟩
    · exact .inr ⟨hnone, hlong, hunknown ▸ hfault⟩

/-- An object that lists a number as its keys, and a list that ends with a number too long to be shown. -/
theorem mask_faults_of_listed_number_and_long_number :
    let object : Value := .object 0 ⟨"Config", none, none, some (.returns (.int 5)), some []⟩
    let long : Value := .list [.text "zero", .int Number.numeralBound]
    FailsInside object (.misused (.notIterable "int")) ∧ mask object = .error (.misused (.notIterable "int")) ∧
      (∀ fault, ¬ FailsInside long fault) ∧
      ((∃ m, mask long = .ok m ∧ m ≤ 2047) ∨
        ∃ part, Blames long part ∧
          ((∃ shown cause, part.literal = .ok shown ∧ mask long = .error (.misconfigured cause) ∧
              cause.message = "Unknown type: " ++ shown) ∨
            part.literal = .error (.numeralTooLong none) ∧ ¬ part.HasShortIntegers ∧
              mask long = .error (.numeralTooLong none))) := by
  intro object long
  have hfails : FailsInside object (.misused (.notIterable "int")) := .outer (.listing rfl rfl rfl)
  have hflat : long.entries? = .ok none := rfl
  have hsafe : ∀ fault, ¬ FailsInside long fault := by
    rintro fault (hfails | ⟨hread, -, -⟩)
    · cases hflat.symm.trans hfails.entries?_eq
    · cases hflat.symm.trans hread
  exact ⟨hfails, (mask_faults object).1 _ hfails, hsafe, (mask_faults long).2 hsafe⟩

/-- An object that lists a key and then refuses it is neither reduced to a mask nor refused as an unknown type: the
fault is that of the missing key. -/
theorem mask_of_refused_key :
    let selector : Value := .object 0 ⟨"Missing", none, none,
      some (.returns (.list [.text "type", .text "gone"])), some [(.text "type", .text "zero")]⟩
    mask selector = .error (.missingKey "'gone'") ∧
      ¬ ((∃ m, mask selector = .ok m ∧ m ≤ 2047) ∨
        ∃ cause, mask selector = .error (.misconfigured cause) ∧
          "Unknown type".toList <+: cause.message.toList) := by
  intro selector
  have hshown : Text.quoted "gone" = "'gone'" := by decide +kernel
  have hfault : mask selector = .error (.missingKey (Text.quoted "gone")) := rfl
  rw [hshown] at hfault
  refine ⟨hfault, ?_⟩
  rintro (⟨m, hmask, -⟩ | ⟨cause, hmask, -⟩)
  · cases hfault.symm.trans hmask
  · cases hfault.symm.trans hmask

end Emptiness.Selector
