import Emptiness.Proofs.Validator.Run
import Emptiness.Proofs.Value.Elements

/-!
# When a check gives an answer

A template may be any value, and it is looked at only when a message is made of it. A message can be made of text, and
of a container that does not hold the placeholder. So a check tells whether the value is empty unless the value is
empty for a reason whose template is neither, and in that case it ends with a fault.
-/

namespace Emptiness

namespace Template

/-- A template that a message can be made of: text, or a container that does not hold the placeholder. -/
def Renders : Value → Prop
  | .text _ => True
  | .range _ => True
  | .sequence _ items => .text placeholder ∉ items
  | .mapping _ entries => ∀ entry ∈ entries, entry.1 ≠ .text placeholder
  | _ => False

/-- Only a text is an expected text. -/
theorem isText_iff {expected : String} {v : Value} : Rule.isText expected v = true ↔ v = .text expected := by
  cases v with
  | text s => simp [Rule.isText]
  | null | bool | int | float | sequence | mapping => simp [Rule.isText]
  | octets | range | decimal | moment | flags | exception | validator | object => simp [Rule.isText]

/-- An object that is asked for its items never tells that the placeholder is not among them. -/
theorem holdsPlaceholder_object_ne (identity : Nat) (members : Members Value) :
    holdsPlaceholder (.object identity members) ≠ .ok false := by
  obtain ⟨className, size, text, keys, items⟩ := members
  cases items with
  | none => exact nofun
  | some items =>
    simp only [holdsPlaceholder, Value.elements]
    cases hfault : (Value.itemsFrom items 0 (items.length + 1)).fault? with
    | none => exact absurd hfault (Value.fault?_itemsFrom_ne_none items 0)
    | some fault =>
      simp only
      split <;> exact nofun

/-- A template that does not hold the placeholder is its own message. -/
theorem render_of_not_holds {template : Value} (obscured : Bool) (v : Value)
    (h : holdsPlaceholder template = .ok false) : render template obscured v = .ok template := by
  unfold render
  rw [h]
  rfl

/-- A template that cannot be searched for the placeholder gives no message. -/
theorem render_of_error {template : Value} (obscured : Bool) (v : Value) {fault : Fault}
    (h : holdsPlaceholder template = .error fault) : render template obscured v = .error fault := by
  unfold render
  rw [h]
  rfl

/-- A template that holds the placeholder gives a message only if it is text. -/
theorem render_of_holds {template : Value} (obscured : Bool) (v : Value) (h : holdsPlaceholder template = .ok true)
    (htext : ∀ s, template ≠ .text s) : ∃ fault, render template obscured v = .error fault := by
  unfold render
  rw [h]
  cases template with
  | text s => exact absurd rfl (htext s)
  | null | bool | int | float | sequence | mapping => exact ⟨_, rfl⟩
  | octets | range | decimal | moment | flags | exception | validator | object => exact ⟨_, rfl⟩

/-- A message is made of a template that can be rendered, and of no other. -/
theorem render_cases (template : Value) (obscured : Bool) (v : Value) :
    Renders template ∧ (∃ message, render template obscured v = .ok message) ∨
      ¬ Renders template ∧ ∃ fault, render template obscured v = .error fault := by
  cases template with
  | text s =>
    refine .inl ⟨trivial, ?_⟩
    unfold render
    cases h : holdsPlaceholder (.text s) with
    | error fault => cases h
    | ok holds => cases holds <;> exact ⟨_, rfl⟩
  | range stop => exact .inl ⟨trivial, _, rfl⟩
  | sequence kind items =>
    cases h : items.any (Rule.isText placeholder) with
    | false =>
      have habsent : Renders (.sequence kind items) := fun hmem =>
        List.any_eq_false.mp h _ hmem (isText_iff.mpr rfl)
      exact .inl ⟨habsent, _, render_of_not_holds obscured v (congrArg Except.ok h)⟩
    | true =>
      obtain ⟨item, hitem, htext⟩ := List.any_eq_true.mp h
      have hholds : ¬ Renders (.sequence kind items) := fun habsent => habsent (isText_iff.mp htext ▸ hitem)
      exact .inr ⟨hholds, render_of_holds obscured v (congrArg Except.ok h) (fun _ => nofun)⟩
  | mapping kind entries =>
    cases h : entries.any fun entry => Rule.isText placeholder entry.1 with
    | false =>
      have habsent : Renders (.mapping kind entries) := fun entry hentry hkey =>
        List.any_eq_false.mp h entry hentry (isText_iff.mpr hkey)
      exact .inl ⟨habsent, _, render_of_not_holds obscured v (congrArg Except.ok h)⟩
    | true =>
      obtain ⟨entry, hentry, htext⟩ := List.any_eq_true.mp h
      have hholds : ¬ Renders (.mapping kind entries) := fun habsent => habsent entry hentry (isText_iff.mp htext)
      exact .inr ⟨hholds, render_of_holds obscured v (congrArg Except.ok h) (fun _ => nofun)⟩
  | object identity members =>
    refine .inr ⟨id, ?_⟩
    cases h : holdsPlaceholder (.object identity members) with
    | error fault => exact ⟨fault, render_of_error obscured v h⟩
    | ok holds =>
      cases holds with
      | false => exact absurd h (holdsPlaceholder_object_ne identity members)
      | true => exact render_of_holds obscured v h (fun _ => nofun)
  | null | bool | int | float | octets | decimal | moment | flags | exception | validator =>
    exact .inr ⟨id, _, rfl⟩

end Template

namespace Configuration

/-- The message for a value can be made: the value is not empty, or the template for its reason can be rendered. -/
def CanReport (config : Configuration) (v : Value) : Prop :=
  ∀ rule reason, judge v config.mask = .ok (.empty rule reason) → Template.Renders (config.template reason)

/-- The template in force for a reason is one that replaces the reason's own, or that itself if none does. -/
theorem template_cases (config : Configuration) (reason : Reason) :
    (∃ override ∈ config.overrides,
      config.overrides.get? reason = some override.2 ∧ config.template reason = override.2) ∨
      config.overrides.get? reason = none ∧ config.template reason = .text reason.template := by
  rw [template]
  cases hfound : config.overrides.get? reason with
  | none => exact .inr ⟨rfl, rfl⟩
  | some message =>
    obtain ⟨before, after, hsplit, -⟩ := List.lookup_eq_some_iff.mp hfound
    have hmem : (reason, message) ∈ config.overrides := by
      rw [hsplit]
      exact List.mem_append_right _ List.mem_cons_self
    exact .inl ⟨_, hmem, rfl, rfl⟩

/-- Where the templates that replace others are texts, the template in force for a reason is the text that replaces the
reason's own, or that itself if none does. -/
theorem template_in_force {config : Configuration} (h : ∀ override ∈ config.overrides, ∃ s, override.2 = .text s)
    (reason : Reason) : ∃ s, config.template reason = .text s ∧
      (config.overrides.get? reason = some (.text s) ∨ config.overrides.get? reason = none ∧ s = reason.template) := by
  rcases config.template_cases reason with ⟨override, hmem, hfound, htemplate⟩ | ⟨hnone, htemplate⟩
  · obtain ⟨s, hs⟩ := h override hmem
    rw [hs] at hfound htemplate
    exact ⟨s, htemplate, .inl hfound⟩
  · exact ⟨_, htemplate, .inr ⟨hnone, rfl⟩⟩

/-- Where the templates that replace others are strings, all templates in force are. -/
theorem template_of_strings {config : Configuration}
    (h : ∀ override ∈ config.overrides, ∃ s : String, override.2 = .text s) (reason : Reason) :
    ∃ s : String, config.template reason = .text s := by
  rcases config.template_cases reason with ⟨override, hmem, -, htemplate⟩ | ⟨-, htemplate⟩
  · obtain ⟨s, hs⟩ := h override hmem
    exact ⟨s, htemplate.trans hs⟩
  · exact ⟨_, htemplate⟩

/-- A check whose message can be made tells whether the value is not empty. -/
theorem check_of_canReport {config : Configuration} {v : Value} (h : config.CanReport v) (record : Record) :
    ∃ isEmpty, isEmptyUnder v config.mask = .ok isEmpty ∧ (config.check record v).2 = .ok !isEmpty := by
  rcases config.check_cases record v with
    ⟨hjudge, hcheck⟩ | ⟨rule, reason, hjudge, ⟨message, -, hcheck⟩ | ⟨fault, hrender, -⟩⟩
  · exact ⟨false, congrArg (Except.map Verdict.isEmpty) hjudge, congrArg Prod.snd hcheck⟩
  · exact ⟨true, congrArg (Except.map Verdict.isEmpty) hjudge, congrArg Prod.snd hcheck⟩
  · rcases Template.render_cases (config.template reason) config.obscured v with
      ⟨-, message, hmessage⟩ | ⟨hunrendered, -⟩
    · cases hmessage.symm.trans hrender
    · exact absurd (h rule reason hjudge) hunrendered

/-- A check whose message cannot be made ends with a fault, though the value is empty. -/
theorem check_of_not_canReport {config : Configuration} {v : Value} (h : ¬ config.CanReport v) (record : Record) :
    isEmptyUnder v config.mask = .ok true ∧ ∃ fault, (config.check record v).2 = .error fault := by
  simp only [CanReport, not_forall] at h
  obtain ⟨rule, reason, hjudge, hunrendered⟩ := h
  rcases Template.render_cases (config.template reason) config.obscured v with ⟨hrenders, -⟩ | ⟨-, fault, hrender⟩
  · exact absurd hrenders hunrendered
  · refine ⟨congrArg (Except.map Verdict.isEmpty) hjudge, fault, ?_⟩
    rw [check, hjudge]
    simp only [hrender]

end Configuration

namespace Validator

/-- A check answers whether the value is not empty under the rules in force exactly if its message can be made, and ends
with a fault otherwise. -/
theorem check_answers_iff (validator : Validator) (v : Value) :
    ∃ isEmpty, isEmptyUnder v validator.config.mask = .ok isEmpty ∧
      ((validator.step (.check v)).2 = .ok (.value (.bool !isEmpty)) ↔ validator.config.CanReport v) ∧
      ((∃ fault, (validator.step (.check v)).2 = .error fault) ↔ ¬ validator.config.CanReport v) := by
  have hstep : (validator.step (.check v)).2 =
      (validator.config.check validator.record v).2.map fun isValid => .value (.bool isValid) := rfl
  by_cases hreport : validator.config.CanReport v
  · obtain ⟨isEmpty, hempty, hanswer⟩ := Configuration.check_of_canReport hreport validator.record
    rw [hanswer] at hstep
    refine ⟨isEmpty, hempty, iff_of_true hstep hreport, iff_of_false ?_ (not_not_intro hreport)⟩
    rintro ⟨fault, hfault⟩
    cases hstep.symm.trans hfault
  · obtain ⟨hempty, fault, hanswer⟩ := Configuration.check_of_not_canReport hreport validator.record
    rw [hanswer] at hstep
    refine ⟨true, hempty, iff_of_false ?_ hreport, iff_of_true ⟨fault, hstep⟩ hreport⟩
    intro hother
    cases hstep.symm.trans hother

/-- An option record with a number for a template makes a validator, and its check of nothing ends with a fault: the
number is stored as it is given, and only a message shows that it is no template. -/
theorem check_faults_for_number_template :
    let given : Value := .dict [(.text "messages", .dict [(.text "isEmpty", .int 5)])]
    ∃ validator, Validator.ofArguments (some given) [] = .ok validator ∧
      isEmptyUnder .null validator.config.mask = .ok true ∧
      (validator.step (.check .null)).2 = .error (.misused (.notContainer "int")) := by
  intro given
  have hbuild : Validator.ofArguments (some given) [] =
      .ok (ofConfiguration { Configuration.initial with overrides := [(.isEmpty, .int 5)] }) := rfl
  exact ⟨_, hbuild, rfl, rfl⟩

end Validator

end Emptiness
