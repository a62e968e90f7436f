import Emptiness.Proofs.Text.Substitute
import Emptiness.Proofs.Validator.Rendering

/-!
# What a message says

Where all templates are texts, a check of a value that is empty leaves one message: the template for its reason with
every placeholder replaced by the text of the value. Where values are obscured the message depends on the value only
through the length of this text, and so does the fault if there is no message, whatever the templates are.
-/

namespace Emptiness

namespace Template

/-- The text that stands for a value in a message: nothing for nothing, the value's own text, or the name of its type if
it cannot be written. -/
inductive ShownAs : Value → Text → Prop
  | nothing : ShownAs .null ""
  | written {v : Value} {s : Text} (hnull : v ≠ .null) (hwritten : v.written = .ok s) : ShownAs v s
  | unwritable {v : Value} {fault : Fault} (hwritten : v.written = .error fault) : ShownAs v v.typeName

/-- Every value is shown as one text. -/
theorem shownAs_iff {v : Value} {s : Text} : ShownAs v s ↔ shown v = s := by
  unfold shown
  split
  case h_1 =>
    constructor
    · intro h
      cases h with
      | nothing => rfl
      | written hnull => exact absurd rfl hnull
      | unwritable hwritten => cases hwritten
    · rintro rfl
      exact .nothing
  case h_2 hnull =>
    constructor
    · intro h
      cases h with
      | nothing => exact absurd rfl hnull
      | written _ hwritten => rw [hwritten]
      | unwritable hwritten => rw [hwritten]
    · rintro rfl
      cases hwritten : v.written with
      | ok s => exact .written hnull hwritten
      | error fault => exact .unwritable hwritten

/-- A text for the value in question as a message shows it: itself, or as many asterisks. -/
def veil (obscured : Bool) (shown : Text) : Text :=
  if obscured then List.replicate shown.length '*' else shown

/-- A template that is text gives itself as the message, with what is shown of the value in place of placeholders. -/
theorem render_replaces (template : Text) (obscured : Bool) {v : Value} {shown : Text} (hshown : ShownAs v shown) :
    ∃ message count, render (.text template) obscured v = .ok (.text message) ∧
      Text.Replaces placeholder (veil obscured shown) template message count := by
  rw [shownAs_iff] at hshown
  subst hshown
  have hdisplay : display obscured v = veil obscured (shown v) := rfl
  have hholds : holdsPlaceholder (.text template) = .ok (Text.occurs placeholder template) := rfl
  cases hoccurs : Text.occurs placeholder template with
  | false =>
    rw [hoccurs] at hholds
    have hnone : ¬ (placeholder : Text) <:+: template := by
      rw [← Text.occurs_iff, hoccurs]
      exact Bool.false_ne_true
    exact ⟨template, 0, render_of_not_holds obscured v hholds, Text.replaces_of_not_occurs hnone⟩
  | true =>
    rw [hoccurs] at hholds
    have hpattern : (placeholder : Text) ≠ [] := by decide
    obtain ⟨count, hreplaces⟩ := (Text.replaceAll_eq_iff hpattern).mp
      (rfl : Text.replaceAll placeholder (veil obscured (shown v)) template = _)
    refine ⟨_, count, ?_, hreplaces⟩
    unfold render
    rw [hholds, hdisplay]
    rfl

/-- An obscured text has as many code points as the text itself. -/
theorem length_veil (obscured : Bool) (shown : Text) : (veil obscured shown).length = shown.length := by
  cases obscured with
  | false => rfl
  | true => exact List.length_replicate

/-- What is shown of an obscured value is known by its length, so values of which as much is shown give the same message
or the same fault. -/
theorem render_obscured_congr (template : Value) {v w : Value} (h : (shown v).length = (shown w).length) :
    render template true v = render template true w := by
  have hdisplay : display true v = display true w := by
    rw [display, display, if_pos rfl, if_pos rfl, h]
  unfold render
  rw [hdisplay]

end Template

namespace Configuration

/-- Where values are obscured, two values of which as much is shown and which count as empty for the same reason, or do
not count as empty, get the same answer and leave the same messages. -/
theorem check_obscured_congr {config : Configuration} (hobscured : config.obscured = true) (record : Record)
    {v w : Value} {a b : Verdict} (hv : judge v config.mask = .ok a) (hw : judge w config.mask = .ok b)
    (hreason : a.reason? = b.reason?) (hlength : (Template.shown v).length = (Template.shown w).length) :
    (config.check record v).2 = (config.check record w).2 ∧
      (config.check record v).1.messages = (config.check record w).1.messages := by
  rw [check, check, hv, hw]
  cases a with
  | notEmpty =>
    cases b with
    | notEmpty => exact ⟨rfl, rfl⟩
    | empty => cases hreason
  | empty rule reason =>
    cases b with
    | notEmpty => cases hreason
    | empty =>
      cases hreason
      have hrender := Template.render_obscured_congr (config.template reason) hlength
      simp only [hobscured, hrender]
      cases Template.render (config.template reason) true w <;> exact ⟨rfl, rfl⟩

end Configuration

namespace Validator

open Template

/-- Where all templates are texts a check always answers, and if the value is empty it leaves one message: the template
in force for the reason, with every placeholder that is found from left to right replaced by what is shown of the
value. Each placeholder changes the length by the difference of the two. -/
theorem check_message {validator : Validator}
    (htexts : ∀ override ∈ validator.config.overrides, ∃ s, override.2 = .text s) (v : Value) :
    ∃ isValid, (validator.step (.check v)).2 = .ok (.value (.bool isValid)) ∧
      isEmptyUnder v validator.config.mask = .ok !isValid ∧
      (isValid = false → ∃ rule reason template shown message count,
        (validator.step (.check v)).1.record.verdict = .empty rule reason ∧
        (validator.step (.check v)).1.record.messages = [(reason, .text message)] ∧
        (validator.config.overrides.get? reason = some (.text template) ∨
          validator.config.overrides.get? reason = none ∧ template = reason.template) ∧
        ShownAs v shown ∧
        Text.Replaces "%value%" (veil validator.config.obscured shown) template message count ∧
        (message.length : Int) = template.length + count * (shown.length - 7)) := by
  have hanswer : (validator.step (.check v)).2 =
      (validator.config.check validator.record v).2.map fun isValid => .value (.bool isValid) := rfl
  have hrecord : (validator.step (.check v)).1.record = (validator.config.check validator.record v).1 := rfl
  rw [hanswer, hrecord]
  rcases validator.config.check_cases validator.record v with
    ⟨hjudge, hcheck⟩ | ⟨rule, reason, hjudge, hreported⟩
  · rw [hcheck]
    exact ⟨true, rfl, congrArg (Except.map Verdict.isEmpty) hjudge, nofun⟩
  · obtain ⟨template, htemplate, hforce⟩ := Configuration.template_in_force htexts reason
    obtain ⟨message, count, hrender, hreplaces⟩ :=
      render_replaces template validator.config.obscured (shownAs_iff.mpr rfl : ShownAs v (shown v))
    rw [htemplate] at hreported
    rcases hreported with ⟨rendered, hrendered, hcheck⟩ | ⟨fault, hfault, -⟩
    · cases hrender.symm.trans hrendered
      rw [hcheck]
      refine ⟨false, rfl, congrArg (Except.map Verdict.isEmpty) hjudge, fun _ => ?_⟩
      refine ⟨rule, reason, template, shown v, message, count, rfl, rfl, hforce, shownAs_iff.mpr rfl, hreplaces, ?_⟩
      rw [hreplaces.length_eq, length_veil]
      rfl
    · cases hrender.symm.trans hfault

/-- A template whose placeholders run into each other, and an object that has no size and shows nothing: the one
placeholder that is found leaves a text which looks like another, and this stays as it is. -/
theorem check_message_of_adjoining_placeholders :
    let config : Configuration := ⟨1024, [(.invalid, .text "%%value%value%")], false, []⟩
    let validator := ofConfiguration config
    let sizeless : Reply Value := .raises (.raised .runtime "no size")
    let v : Value := .object 0 ⟨"Odd", some sizeless, some (.returns (.text "")), none, none⟩
    (∀ override ∈ validator.config.overrides, ∃ s, override.2 = .text s) ∧
      (validator.step (.check v)).1.record.messages = [(.invalid, .text "%value%")] ∧
      ∃ isValid, (validator.step (.check v)).2 = .ok (.value (.bool isValid)) ∧
        isEmptyUnder v validator.config.mask = .ok !isValid ∧
        (isValid = false → ∃ rule reason template shown message count,
          (validator.step (.check v)).1.record.verdict = .empty rule reason ∧
          (validator.step (.check v)).1.record.messages = [(reason, .text message)] ∧
          (validator.config.overrides.get? reason = some (.text template) ∨
            validator.config.overrides.get? reason = none ∧ template = reason.template) ∧
          ShownAs v shown ∧
          Text.Replaces "%value%" (veil validator.config.obscured shown) template message count ∧
          (message.length : Int) = template.length + count * (shown.length - 7)) := by
  intro config validator sizeless v
  have htexts : ∀ override ∈ validator.config.overrides, ∃ s, override.2 = .text s :=
    List.forall_mem_singleton.mpr ⟨_, rfl⟩
  have hmessages : (validator.step (.check v)).1.record.messages = [(.invalid, .text "%value%")] := by
    dsimp only [validator, config]
    rfl
  exact ⟨htexts, hmessages, check_message htexts v⟩

/-- Where values are obscured, a check does not tell two values apart that count as empty for the same reason, or do not
count as empty, if as much is shown of both: the answers, faults included, and the messages are the same. -/
theorem check_obscured {validator : Validator} (hobscured : validator.config.obscured = true) {v w : Value}
    {a b : Verdict} (hjudgedv : judge v validator.config.mask = .ok a)
    (hjudgedw : judge w validator.config.mask = .ok b) (hreason : a.reason? = b.reason?) {s t : Text}
    (hshownv : ShownAs v s) (hshownw : ShownAs w t) (hlength : s.length = t.length) :
    (validator.step (.check v)).2 = (validator.step (.check w)).2 ∧
      (validator.step (.check v)).1.record.messages = (validator.step (.check w)).1.record.messages := by
  rw [shownAs_iff] at hshownv hshownw
  subst hshownv hshownw
  obtain ⟨hanswer, hmessages⟩ :=
    Configuration.check_obscured_congr hobscured validator.record hjudgedv hjudgedw hreason hlength
  exact ⟨congrArg (Except.map fun isValid => Answer.value (.bool isValid)) hanswer, hmessages⟩

/-- An object whose text cannot be had, so that the name of its type stands for it, and one whose text is a secret that
is as long: both are shown as six asterisks. -/
theorem check_obscured_of_secret :
    let config : Configuration := ⟨1024, [(.invalid, .text "<%value%>")], true, []⟩
    let validator := ofConfiguration config
    let failing : Reply Value := .raises (.raised .runtime "failing")
    let v : Value := .object 0 ⟨"Opaque", some failing, some failing, none, none⟩
    let w : Value := .object 1 ⟨"Account", some failing, some (.returns (.text "secret")), none, none⟩
    validator.config.obscured = true ∧ judge v validator.config.mask = .ok (.empty .objectCount .invalid) ∧
      judge w validator.config.mask = .ok (.empty .objectCount .invalid) ∧ ShownAs v "Opaque" ∧ ShownAs w "secret" ∧
      (validator.step (.check v)).2 = (validator.step (.check w)).2 ∧
      (validator.step (.check v)).1.record.messages = (validator.step (.check w)).1.record.messages := by
  intro config validator failing v w
  have hjudgedv : judge v validator.config.mask = .ok (.empty .objectCount .invalid) := by
    dsimp only [validator, config]
    rfl
  have hjudgedw : judge w validator.config.mask = .ok (.empty .objectCount .invalid) := by
    dsimp only [validator, config]
    rfl
  have hshownv : ShownAs v "Opaque" := shownAs_iff.mpr rfl
  have hshownw : ShownAs w "secret" := shownAs_iff.mpr rfl
  have hlength : ("Opaque" : Text).length = ("secret" : Text).length := by decide +kernel
  exact ⟨rfl, hjudgedv, hjudgedw, hshownv, hshownw,
    check_obscured rfl hjudgedv hjudgedw rfl hshownv hshownw hlength⟩

end Validator

end Emptiness
