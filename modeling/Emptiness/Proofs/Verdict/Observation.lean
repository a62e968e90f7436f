import Emptiness.Proofs.Verdict.Order

/-!
# What verdicts show of a mask

A mask may have bits that belong to no rule, and the rule about objects never finds anything empty. None of these bits
changes any verdict. For each of the other ten rules there is a value that this rule alone finds empty, so its bit shows
whatever the rest of the mask is. Two masks therefore judge alike exactly if they agree on ten bits.
-/

namespace Emptiness

/-- A value that this rule finds empty and no other one; nothing is empty for being an object. -/
def Rule.specimen : Rule → Value
  | boolean => .bool false
  | integer => .int 0
  | float => .float (.zero false)
  | string => .text ""
  | zero => .text "0"
  | array => .list []
  | null => .null
  | space => .text " "
  | object => .validator 0 0
  | objectString => .exception 0 []
  | objectCount => .sequence .set []

/-- A rule finds its specimen empty, unless it is the rule about objects. -/
theorem Rule.finding_specimen {rule : Rule} (h : rule ≠ .object) : rule.finding rule.specimen = some .isEmpty := by
  cases rule with
  | object => exact absurd rfl h
  | boolean | integer | float | string | zero | array | null | space | objectString | objectCount => rfl

/-- No other rule finds the specimen of a rule empty. -/
theorem Rule.eq_of_finds_specimen {rule other : Rule} (h : rule ≠ .object)
    (hother : (other.finding rule.specimen).isSome) :
    other = rule := by
  by_cases hshape : rule.specimen.shape = .object
  · have hrule : rule = .objectCount ∨ rule = .objectString := by
      refine Rule.eq_or_eq_of_finds hshape ?_
      rw [Rule.finding_specimen h]
      rfl
    rcases hrule with rfl | rfl
    · exact (Rule.eq_or_eq_of_finds hshape hother).resolve_right fun hstring => by
        subst hstring
        cases hother
    · exact (Rule.eq_or_eq_of_finds hshape hother).resolve_left fun hcount => by
        subst hcount
        cases hother
  · refine Rule.eq_of_finds hshape hother ?_
    rw [Rule.finding_specimen h]
    rfl

/-- A specimen is judged by the bit of its rule alone, whatever the other bits are. -/
theorem Rule.judge_specimen {rule : Rule} (h : rule ≠ .object) (mask : Mask) :
    judge rule.specimen mask = .ok (if mask.has rule then .empty rule .isEmpty else .notEmpty) := by
  rw [judge_eq_firstVerdict, firstVerdict_of_sole rule.mem_inOrder fun other _ => Rule.eq_of_finds_specimen h,
    Rule.verdict?, Rule.finding_specimen h]
  cases mask.has rule <;> rfl

/-- The rule about objects finds no value empty. -/
theorem Rule.finding_object (v : Value) : Rule.object.finding v = none := by
  rw [Rule.finding, Rule.holds, ite_self]

/-- Masks that contain the same rules, the rule about objects aside, give every value the same verdict. -/
theorem judge_congr {a b : Mask} (h : ∀ rule, rule ≠ .object → a.has rule = b.has rule) (v : Value) :
    judge v a = judge v b := by
  have hverdicts : (fun rule => Rule.verdict? rule v a) = fun rule => Rule.verdict? rule v b := by
    funext rule
    by_cases hrule : rule = .object
    · rw [hrule, Rule.verdict?, Rule.verdict?, Rule.finding_object, Option.map_none, ite_self, ite_self]
    · rw [Rule.verdict?, Rule.verdict?, h rule hrule]
  rw [judge_eq_firstVerdict, judge_eq_firstVerdict, firstVerdict, firstVerdict, hverdicts]

/-- The bits `0x6ff` are those of the rules other than the rule about objects. -/
theorem testBit_observed (k : ℕ) : Nat.testBit 0x6ff k = true ↔ ∃ rule : Rule, rule ≠ .object ∧ rule.place = k := by
  constructor
  · intro hbit
    have hk : k < 11 := by
      by_contra hfar
      have hbound : 0x6ff < 2 ^ k :=
        Nat.lt_of_lt_of_le (by decide) (Nat.pow_le_pow_right (by decide) (Nat.not_lt.mp hfar))
      rw [Nat.testBit_lt_two_pow hbound] at hbit
      cases hbit
    have hplace : ∃ rule ∈ Rule.all, rule ≠ .object ∧ rule.place = k := by
      revert hbit
      revert k
      decide
    obtain ⟨rule, -, hrule⟩ := hplace
    exact ⟨rule, hrule⟩
  · rintro ⟨rule, hrule, rfl⟩
    cases rule with
    | object => exact absurd rfl hrule
    | boolean | integer | float | string | zero | array | null | space | objectString | objectCount => decide

/-- Masks contain the same rules, the rule about objects aside, exactly if they agree on the bits `0x6ff`. -/
theorem Mask.land_observed_eq_iff (a b : Mask) :
    Int.land a 0x6ff = Int.land b 0x6ff ↔ ∀ rule, rule ≠ .object → a.has rule = b.has rule := by
  have hland (mask : Mask) (k : ℕ) : (Int.land mask 0x6ff).testBit k = (mask.testBit k && Nat.testBit 0x6ff k) :=
    Int.testBit_land mask 0x6ff k
  constructor
  · intro h rule hrule
    have hbit := congrArg (fun bits : Int => bits.testBit rule.place) h
    simp only [hland, (testBit_observed rule.place).mpr ⟨rule, hrule, rfl⟩, Bool.and_true] at hbit
    rw [Mask.has_eq_testBit, Mask.has_eq_testBit, hbit]
  · intro h
    refine eq_of_testBit fun k => ?_
    rw [hland, hland]
    by_cases hk : Nat.testBit 0x6ff k = true
    · obtain ⟨rule, hrule, rfl⟩ := (testBit_observed k).mp hk
      rw [← Mask.has_eq_testBit, ← Mask.has_eq_testBit, h rule hrule]
    · rw [Bool.not_eq_true] at hk
      rw [hk, Bool.and_false, Bool.and_false]

/-- Two masks judge all values alike exactly if they agree on the bits `0x6ff`: neither the rule about objects nor a bit
of no rule ever counts, and for each other rule there is a value that is judged by its bit alone. -/
theorem judge_eq_iff_land_eq :
    (∀ a b : Mask, (∀ v : Value, judge v a = judge v b) ↔ Int.land a 0x6ff = Int.land b 0x6ff) ∧
    ∀ rule : Rule, rule ≠ .object → ∃ v : Value, ∀ mask : Mask,
      judge v mask = .ok (if mask.has rule then .empty rule .isEmpty else .notEmpty) := by
  refine ⟨fun a b => ?_, fun rule hrule => ⟨rule.specimen, Rule.judge_specimen hrule⟩⟩
  rw [Mask.land_observed_eq_iff]
  refine ⟨fun h rule hrule => ?_, fun h => judge_congr h⟩
  have hspecimen := h rule.specimen
  rw [Rule.judge_specimen hrule, Rule.judge_specimen hrule] at hspecimen
  cases ha : a.has rule <;> cases hb : b.has rule <;> simp [ha, hb] at hspecimen ⊢

/-- The mask of all rules and minus one judge alike, and so do zero and the bit of the rule about objects, while there
is a value that shows the bit of the rule about texts of objects. -/
theorem judge_eq_of_full_and_minus_one :
    (∀ v : Value, judge v (fullMask : Mask) = judge v (-1)) ∧ (∀ v : Value, judge v 0 = judge v 0x100) ∧
      (¬ ∀ v : Value, judge v 0x5ff = judge v 0x7ff) ∧
      Rule.objectString ≠ .object ∧ ∃ v : Value, ∀ mask : Mask,
        judge v mask = .ok (if mask.has .objectString then .empty .objectString .isEmpty else .notEmpty) := by
  have hrule : Rule.objectString ≠ .object := by decide
  have hfull : Int.land (fullMask : Mask) 0x6ff = Int.land (-1) 0x6ff := by decide +kernel
  have hobject : Int.land 0 0x6ff = Int.land 0x100 0x6ff := by decide +kernel
  have hstring : ¬ Int.land 0x5ff 0x6ff = Int.land 0x7ff 0x6ff := by decide +kernel
  exact ⟨(judge_eq_iff_land_eq.1 _ _).mpr hfull, (judge_eq_iff_land_eq.1 _ _).mpr hobject,
    fun h => hstring ((judge_eq_iff_land_eq.1 _ _).mp h), hrule, judge_eq_iff_land_eq.2 .objectString hrule⟩

end Emptiness
