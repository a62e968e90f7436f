import Emptiness.Proofs.Fault
import Emptiness.Verdict

/-!
# What single rules find

A rule by itself either finds a value empty, for one of two reasons, or has nothing to say about it. A rule that looks
at the value's shape fails only by way of a probe, so judging never fails: it takes the verdict of the first rule
in the mask that finds the value empty. Rules that look at other shapes may be left out beforehand, which leaves one
rule for most shapes and three for texts and objects.
-/

namespace Emptiness

/-- Why a rule finds a value empty, if it looks at values of this shape and does. -/
def Rule.finding (rule : Rule) (v : Value) : Option Reason :=
  if rule.shapes.contains v.shape then
    match rule.holds v with
    | .ok true => some .isEmpty
    | .error (.incapable ..) => some .invalid
    | _ => none
  else none

/-- The verdict that a rule gives alone, if it is in the mask. -/
def Rule.verdict? (rule : Rule) (v : Value) (mask : Mask) : Option Verdict :=
  if mask.has rule then (rule.finding v).map (Verdict.empty rule) else none

/-- The verdict of the first rule of a list that gives one. -/
def firstVerdict (order : List Rule) (v : Value) (mask : Mask) : Verdict :=
  (order.findSome? fun rule => rule.verdict? v mask).getD .notEmpty

/-- A failed probe names the value that was probed. -/
theorem Value.probed_eq_error {α : Type} {capability : Capability} {v : Value} {answer : Except Fault α} {fault : Fault}
    (h : Value.probed capability v answer = .error fault) :
    ∃ cause, answer = .error cause ∧ fault = .incapable capability v.typeName cause.message := by
  cases answer with
  | ok a => cases h
  | error cause =>
    cases h
    exact ⟨cause, rfl, rfl⟩

/-- A collection has a size. -/
theorem Value.size_of_collection {v : Value} (h : v.shape = .collection) : ∃ n, v.size = .ok n := by
  unfold Value.shape at h
  split at h <;> first | exact ⟨_, rfl⟩ | cases h

/-- An integer can be compared with zero. -/
theorem Value.equalsZero_of_integer {v : Value} (h : v.shape = .integer) : ∃ b, v.equalsZero = .ok b := by
  unfold Value.shape at h
  split at h <;> first | exact ⟨_, rfl⟩ | cases h

/-- A double precision number can be compared with zero: it is never a signaling one. -/
theorem Value.equalsZero_of_float {v : Value} (h : v.shape = .float) : ∃ b, v.equalsZero = .ok b := by
  unfold Value.shape at h
  split at h
  case h_5 x =>
    rcases x with _ | negative | ⟨negative, significand, exponent⟩
    · exact ⟨_, rfl⟩
    · exact ⟨_, rfl⟩
    · cases exponent <;> exact ⟨_, rfl⟩
  all_goals cases h

/-- A text can be told to be blank or not. -/
theorem Rule.isBlankText_of_string {v : Value} (h : v.shape = .string) : ∃ b, Rule.isBlankText v = .ok b := by
  unfold Value.shape at h
  split at h <;> first | exact ⟨_, rfl⟩ | cases h

/-- A rule that looks at a value's shape fails on the value only if a probe does. -/
theorem Rule.holds_eq_error {rule : Rule} {v : Value} {fault : Fault}
    (hshape : v.shape ∈ rule.shapes) (h : rule.holds v = .error fault) :
    ∃ capability typeName cause, fault = .incapable capability typeName cause := by
  -- The shapes of a rule are all of one kind, so its predicate only meets values that it is made for.
  have one {shape : Shape} (hone : rule.shapes = [shape]) : v.shape = shape := by
    rw [hone] at hshape
    exact List.mem_singleton.mp hshape
  cases rule with
  | boolean | string | zero | null | object => cases h
  | integer =>
    obtain ⟨b, hb⟩ := Value.equalsZero_of_integer (one rfl)
    cases hb.symm.trans h
  | float =>
    obtain ⟨b, hb⟩ := Value.equalsZero_of_float (one rfl)
    cases hb.symm.trans h
  | space =>
    obtain ⟨b, hb⟩ := Rule.isBlankText_of_string (one rfl)
    cases hb.symm.trans h
  | array =>
    obtain ⟨n, hn⟩ := Value.size_of_collection (one rfl)
    cases hn.symm.trans (map_eq_error h)
  | objectString =>
    simp only [Rule.holds] at h
    split at h
    · obtain ⟨cause, -, rfl⟩ := Value.probed_eq_error (map_eq_error h)
      exact ⟨_, _, _, rfl⟩
    · cases h
  | objectCount =>
    simp only [Rule.holds] at h
    split at h
    · obtain ⟨cause, -, rfl⟩ := Value.probed_eq_error (map_eq_error h)
      exact ⟨_, _, _, rfl⟩
    · cases h

/-- A rule that is not asked gives no verdict. -/
theorem Rule.verdict?_of_not_applies {rule : Rule} {v : Value} {mask : Mask}
    (h : rule.applies mask v.shape = false) : rule.verdict? v mask = none := by
  rcases Bool.and_eq_false_iff.mp h with hmask | hshape
  · simp only [Rule.verdict?, hmask, Bool.false_eq_true, if_false]
  · simp only [Rule.verdict?, Rule.finding, hshape, Bool.false_eq_true, if_false, Option.map_none, ite_self]

/-- A rule that is asked gives the verdict that it finds. -/
theorem Rule.verdict?_of_applies {rule : Rule} {v : Value} {mask : Mask} (h : rule.applies mask v.shape = true) :
    rule.verdict? v mask = (rule.finding v).map (Verdict.empty rule) := by
  rw [Rule.verdict?, if_pos (Bool.and_eq_true_iff.mp h).1]

/-- The first rule of a list gives the verdict, or else the rest of the list does. -/
theorem firstVerdict_cons (rule : Rule) (rest : List Rule) (v : Value) (mask : Mask) :
    firstVerdict (rule :: rest) v mask = (rule.verdict? v mask).getD (firstVerdict rest v mask) := by
  rw [firstVerdict, List.findSome?_cons]
  cases rule.verdict? v mask <;> rfl

/-- Judging by a list of rules never fails, and gives the verdict of the first rule that has one. -/
theorem judgeBy_eq_firstVerdict (order : List Rule) (v : Value) (mask : Mask) :
    judgeBy order v mask = .ok (firstVerdict order v mask) := by
  induction order with
  | nil => rfl
  | cons rule rest ih =>
    rw [judgeBy, firstVerdict_cons]
    cases happlies : rule.applies mask v.shape with
    | false => rw [if_neg Bool.false_ne_true, Rule.verdict?_of_not_applies happlies, ih, Option.getD_none]
    | true =>
      have hshape : rule.shapes.contains v.shape = true := (Bool.and_eq_true_iff.mp happlies).2
      rw [if_pos rfl, Rule.verdict?_of_applies happlies, Rule.finding, if_pos hshape]
      split
      case h_1 hholds => rw [hholds, Option.map_some, Option.getD_some]
      case h_2 hholds => rw [hholds, ih, Option.map_none, Option.getD_none]
      case h_3 hholds => rw [hholds, Option.map_some, Option.getD_some]
      case h_4 fault hother hholds =>
        obtain ⟨capability, typeName, cause, rfl⟩ := Rule.holds_eq_error (List.contains_iff_mem.mp hshape) hholds
        exact absurd rfl (hother capability typeName cause)

/-- Judging never fails, and gives the verdict of the first rule that has one. -/
theorem judge_eq_firstVerdict (v : Value) (mask : Mask) : judge v mask = .ok (firstVerdict Rule.inOrder v mask) :=
  judgeBy_eq_firstVerdict Rule.inOrder v mask

/-- Rules that look at other shapes give no verdict, so they may be left out beforehand. -/
theorem firstVerdict_filter_shape (order : List Rule) (v : Value) (mask : Mask) :
    firstVerdict (order.filter fun rule => rule.shapes.contains v.shape) v mask = firstVerdict order v mask := by
  induction order with
  | nil => rfl
  | cons rule rest ih =>
    rw [firstVerdict_cons, List.filter_cons, ← ih]
    split
    case isTrue => rw [firstVerdict_cons]
    case isFalse hshape =>
      rw [Rule.verdict?_of_not_applies (by simp only [Rule.applies, hshape, Bool.and_false]), Option.getD_none]

/-- The rules that look at a shape, in the order in which they are asked. -/
def Rule.forShape : Shape → List Rule
  | .boolean => [boolean]
  | .integer => [integer]
  | .float => [float]
  | .string => [space, zero, string]
  | .null => [null]
  | .collection => [array]
  | .object => [objectCount, objectString, object]

/-- Judging asks only the rules that look at the value's shape. -/
theorem judge_eq_forShape (v : Value) (mask : Mask) :
    judge v mask = .ok (firstVerdict (Rule.forShape v.shape) v mask) := by
  have hasked (shape : Shape) : (Rule.inOrder.filter fun rule => rule.shapes.contains shape) = Rule.forShape shape := by
    cases shape <;> rfl
  rw [judge_eq_firstVerdict, ← firstVerdict_filter_shape, hasked]

end Emptiness
