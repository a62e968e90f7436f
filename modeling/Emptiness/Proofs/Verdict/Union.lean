import Emptiness.Proofs.Mask
import Emptiness.Proofs.Verdict.Finding
import Mathlib.Data.List.Basic

/-!
# Verdicts under unions of masks

A rule gives the same verdict under every mask that contains it, so nothing is lost when masks are united: the
verdict under a union is the earlier of the two verdicts, in the order in which the rules are asked. No rule hides
another one's finding, only its name. Hence a value is empty under a mask exactly if some rule of the mask alone finds
it so.
-/

namespace Emptiness

/-- Of two verdicts the one that is empty, and of two empty ones the one whose rule is asked earlier. -/
def Verdict.earlierIn (order : List Rule) : Verdict → Verdict → Verdict
  | .notEmpty, second => second
  | first, .notEmpty => first
  | .empty rule reason, .empty other cause =>
    if order.idxOf rule ≤ order.idxOf other then .empty rule reason else .empty other cause

/-- A rule gives a verdict if it is in the mask and finds the value empty. -/
theorem Rule.verdict?_eq_some_iff {rule : Rule} {v : Value} {mask : Mask} {verdict : Verdict} :
    rule.verdict? v mask = some verdict ↔
      mask.has rule ∧ ∃ reason, rule.finding v = some reason ∧ verdict = .empty rule reason := by
  rw [Rule.verdict?]
  cases mask.has rule with
  | false => simp
  | true => simp [eq_comm]

/-- Under a union a rule gives the verdict that it gives under either mask. -/
theorem Rule.verdict?_lor (rule : Rule) (v : Value) (a b : Mask) :
    rule.verdict? v (Int.lor a b) = (rule.verdict? v a).or (rule.verdict? v b) := by
  simp only [Rule.verdict?, Mask.has_lor]
  cases a.has rule with
  | false => simp
  | true => cases b.has rule <;> cases rule.finding v <;> rfl

/-- An empty verdict is that of a rule of the list. -/
theorem verdict?_of_firstVerdict {order : List Rule} {v : Value} {mask : Mask} {rule : Rule} {reason : Reason}
    (h : firstVerdict order v mask = .empty rule reason) :
    rule ∈ order ∧ rule.verdict? v mask = some (.empty rule reason) := by
  induction order with
  | nil => cases h
  | cons first rest ih =>
    rw [firstVerdict_cons] at h
    cases hfirst : first.verdict? v mask with
    | none =>
      rw [hfirst] at h
      exact ⟨List.mem_cons_of_mem _ (ih h).1, (ih h).2⟩
    | some verdict =>
      rw [hfirst, Option.getD_some] at h
      subst h
      obtain ⟨-, found, -, hequal⟩ := Rule.verdict?_eq_some_iff.mp hfirst
      cases hequal
      exact ⟨List.mem_cons_self, hfirst⟩

/-- The verdict of the first rule of a list is earlier than any other. -/
theorem Verdict.earlierIn_head (rule : Rule) (rest : List Rule) (reason : Reason) (second : Verdict) :
    Verdict.earlierIn (rule :: rest) (.empty rule reason) second = .empty rule reason := by
  cases second with
  | notEmpty => rfl
  | empty other cause => rw [Verdict.earlierIn, List.idxOf_cons_self, if_pos (Nat.zero_le _)]

/-- A rule that gives no verdict is not the one that decides. -/
theorem Rule.ne_of_verdict? {rule other : Rule} {v : Value} {mask : Mask} {verdict : Verdict}
    (hnone : rule.verdict? v mask = none) (hsome : other.verdict? v mask = some verdict) : rule ≠ other := by
  rintro rfl
  cases hnone.symm.trans hsome

/-- The verdict under a union of masks is the earlier one of the verdicts under each. -/
theorem firstVerdict_lor (order : List Rule) (v : Value) (a b : Mask) :
    firstVerdict order v (Int.lor a b) = (firstVerdict order v a).earlierIn order (firstVerdict order v b) := by
  induction order with
  | nil => rfl
  | cons rule rest ih =>
    rw [firstVerdict_cons, firstVerdict_cons, firstVerdict_cons, Rule.verdict?_lor]
    cases ha : rule.verdict? v a with
    | some verdict =>
      obtain ⟨-, reason, -, rfl⟩ := Rule.verdict?_eq_some_iff.mp ha
      exact (Verdict.earlierIn_head rule rest reason _).symm
    | none =>
      rw [Option.none_or, Option.getD_none]
      cases hb : rule.verdict? v b with
      | some verdict =>
        obtain ⟨-, reason, -, rfl⟩ := Rule.verdict?_eq_some_iff.mp hb
        simp only [Option.getD_some]
        cases hfirst : firstVerdict rest v a with
        | notEmpty => rfl
        | empty other cause =>
          have hne : rule ≠ other := Rule.ne_of_verdict? ha (verdict?_of_firstVerdict hfirst).2
          rw [Verdict.earlierIn, List.idxOf_cons_self, List.idxOf_cons_ne rest hne, if_neg (Nat.not_succ_le_zero _)]
      | none =>
        rw [Option.getD_none, Option.getD_none, ih]
        -- Neither verdict is that of the first rule, so both places move by one.
        cases hfirst : firstVerdict rest v a with
        | notEmpty => rfl
        | empty first reason =>
          cases hsecond : firstVerdict rest v b with
          | notEmpty => rfl
          | empty second cause =>
            have hne : rule ≠ first := Rule.ne_of_verdict? ha (verdict?_of_firstVerdict hfirst).2
            have hne' : rule ≠ second := Rule.ne_of_verdict? hb (verdict?_of_firstVerdict hsecond).2
            rw [Verdict.earlierIn, Verdict.earlierIn, List.idxOf_cons_ne rest hne, List.idxOf_cons_ne rest hne']
            simp only [Nat.succ_le_succ_iff]

/-- The earlier of two verdicts is empty if one of them is. -/
@[simp]
theorem Verdict.isEmpty_earlierIn (order : List Rule) (first second : Verdict) :
    (first.earlierIn order second).isEmpty = (first.isEmpty || second.isEmpty) := by
  cases first with
  | notEmpty => rfl
  | empty rule reason =>
    cases second with
    | notEmpty => rfl
    | empty other cause =>
      rw [Verdict.earlierIn]
      split <;> rfl

/-- The value is empty under a mask exactly if a rule of the mask finds it so. -/
theorem isEmpty_firstVerdict_iff (order : List Rule) (v : Value) (mask : Mask) :
    (firstVerdict order v mask).isEmpty = true ↔ ∃ rule ∈ order, mask.has rule ∧ (rule.finding v).isSome := by
  induction order with
  | nil => simp [firstVerdict, Verdict.isEmpty]
  | cons rule rest ih =>
    rw [firstVerdict_cons]
    cases hfirst : rule.verdict? v mask with
    | some verdict =>
      obtain ⟨hhas, reason, hfound, rfl⟩ := Rule.verdict?_eq_some_iff.mp hfirst
      exact iff_of_true rfl ⟨rule, List.mem_cons_self, hhas, by rw [hfound, Option.isSome_some]⟩
    | none =>
      have hnot : ¬ (mask.has rule ∧ (rule.finding v).isSome) := by
        rintro ⟨hhas, hfound⟩
        obtain ⟨reason, hreason⟩ := Option.isSome_iff_exists.mp hfound
        cases hfirst.symm.trans (Rule.verdict?_eq_some_iff.mpr ⟨hhas, reason, hreason, rfl⟩)
      rw [Option.getD_none, ih, List.exists_mem_cons_iff, or_iff_right hnot]

/-- Every rule is asked. -/
theorem Rule.mem_inOrder (rule : Rule) : rule ∈ Rule.inOrder := by
  cases rule <;> decide

/-- Whether a value is empty is always decided, by the verdict of the first rule that has one. -/
theorem isEmptyUnder_eq (v : Value) (mask : Mask) :
    isEmptyUnder v mask = .ok (firstVerdict Rule.inOrder v mask).isEmpty := by
  rw [isEmptyUnder, judge_eq_firstVerdict]
  rfl

/-- A value is empty under a mask exactly if some rule of the mask finds it empty. -/
theorem isEmptyUnder_iff (v : Value) (mask : Mask) :
    isEmptyUnder v mask = .ok true ↔ ∃ rule, mask.has rule ∧ (rule.finding v).isSome := by
  rw [isEmptyUnder_eq, Except.ok.injEq, isEmpty_firstVerdict_iff]
  simp only [Rule.mem_inOrder, true_and]

/-- A value is empty by a rule alone exactly if the rule finds it empty. -/
theorem isEmptyUnder_bit_iff (v : Value) (rule : Rule) :
    isEmptyUnder v (rule.bit : Int) = .ok true ↔ (rule.finding v).isSome := by
  simp only [isEmptyUnder_iff, Mask.has_bit, decide_eq_true_eq, exists_eq_left']

/-- Uniting masks takes the earlier of two verdicts. A value is then empty under a union exactly if it is so under one of
the two masks, stays empty under larger masks, and is empty under a mask exactly if some rule of the mask alone says so. -/
theorem judge_lor (v : Value) :
    (∀ a b : Mask, ∃ first second : Verdict, judge v a = .ok first ∧ judge v b = .ok second ∧
      judge v (Int.lor a b) = .ok (first.earlierIn Rule.inOrder second)) ∧
    (∀ a b : Mask, ∃ first second : Bool, isEmptyUnder v a = .ok first ∧ isEmptyUnder v b = .ok second ∧
      isEmptyUnder v (Int.lor a b) = .ok (first || second)) ∧
    (∀ a b : Mask, Int.land a b = a → isEmptyUnder v a = .ok true → isEmptyUnder v b = .ok true) ∧
    (∀ mask : Mask, isEmptyUnder v mask = .ok true ↔
      ∃ rule : Rule, mask.has rule ∧ isEmptyUnder v (rule.bit : Int) = .ok true) := by
  refine ⟨fun a b => ?_, fun a b => ?_, fun a b hle ha => ?_, fun mask => ?_⟩
  · refine ⟨_, _, judge_eq_firstVerdict v a, judge_eq_firstVerdict v b, ?_⟩
    rw [judge_eq_firstVerdict, firstVerdict_lor]
  · refine ⟨_, _, isEmptyUnder_eq v a, isEmptyUnder_eq v b, ?_⟩
    rw [isEmptyUnder_eq, firstVerdict_lor, Verdict.isEmpty_earlierIn]
  · obtain ⟨rule, hhas, hfound⟩ := (isEmptyUnder_iff v a).mp ha
    exact (isEmptyUnder_iff v b).mpr ⟨rule, Mask.has_of_land_eq hle hhas, hfound⟩
  · simp only [isEmptyUnder_bit_iff]
    exact isEmptyUnder_iff v mask

/-- An object that fails to tell its size is empty under the mask of sizes, and so it is under the mask of everything. -/
theorem broken_object_empty_under_larger :
    let broken : Value := .object 0 ⟨"Broken", some (.raises .negativeSize), some (.returns (.text "")), none, none⟩
    Int.land 1024 (-1) = 1024 ∧ isEmptyUnder broken 1024 = .ok true ∧ isEmptyUnder broken (-1) = .ok true := by
  intro broken
  have hle : Int.land 1024 (-1) = 1024 := by decide +kernel
  have hsize : isEmptyUnder broken 1024 = .ok true := rfl
  exact ⟨hle, hsize, (judge_lor broken).2.2.1 1024 (-1) hle hsize⟩

end Emptiness
