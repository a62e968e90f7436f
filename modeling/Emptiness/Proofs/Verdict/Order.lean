import Emptiness.Proofs.Verdict.Union

/-!
# The order in which rules are asked

Only two rules ever find the same value empty: an object may be empty by its size and by its text. Every other value is
found empty by at most one rule, so it gets the same verdict from the rules in any order. The verdict on an object
depends on which of the two rules is asked first, and on nothing else in the order.
-/

namespace Emptiness

/-- A rule that finds nothing about a value gives no verdict on it. -/
theorem Rule.verdict?_of_not_finds {rule : Rule} {v : Value} (h : ¬ (rule.finding v).isSome) (mask : Mask) :
    rule.verdict? v mask = none := by
  rw [Rule.verdict?, Option.not_isSome_iff_eq_none.mp h, Option.map_none, ite_self]

/-- A rule that finds a value empty is one of those that look at values of its shape. -/
theorem Rule.mem_forShape_of_finds {rule : Rule} {v : Value} (h : (rule.finding v).isSome) :
    rule ∈ Rule.forShape v.shape := by
  have hlooks : rule.shapes.contains v.shape = true := by
    by_contra hshape
    rw [Rule.finding, if_neg hshape] at h
    cases h
  have hmem : v.shape ∈ rule.shapes := List.contains_iff_mem.mp hlooks
  generalize v.shape = shape at hmem
  cases rule <;> rw [List.mem_singleton.mp hmem] <;> decide

/-- The one rule that can find a text empty. -/
def Rule.forText (s : Text) : Rule :=
  if s = "" then .string else if s = "0" then .zero else .space

/-- A text is empty, or a zero, or blank, but no two of these. -/
theorem Rule.eq_forText_of_finds {rule : Rule} {s : Text} (h : (rule.finding (.text s)).isSome) :
    rule = Rule.forText s := by
  have hmem : rule ∈ [Rule.space, .zero, .string] := Rule.mem_forShape_of_finds h
  have hrule : rule = .space ∨ rule = .zero ∨ rule = .string := by simpa using hmem
  rcases hrule with rfl | rfl | rfl
  · have hempty : s ≠ "" := by
      rintro rfl
      cases h
    have hzero : s ≠ "0" := by
      rintro rfl
      cases h
    rw [Rule.forText, if_neg hempty, if_neg hzero]
  · have hzero : s = "0" := by
      by_contra hne
      simp [Rule.finding, Rule.shapes, Value.shape, Rule.holds, Rule.isText, hne] at h
    rw [hzero]
    rfl
  · have hempty : s = "" := by
      by_contra hne
      simp [Rule.finding, Rule.shapes, Value.shape, Rule.holds, Rule.isText, hne] at h
    rw [hempty]
    rfl

/-- No two rules find the same value empty unless it is an object. -/
theorem Rule.eq_of_finds {v : Value} (hplain : v.shape ≠ .object) {rule rival : Rule}
    (hrule : (rule.finding v).isSome) (hrival : (rival.finding v).isSome) : rule = rival := by
  have hmem := Rule.mem_forShape_of_finds hrule
  have hmem' := Rule.mem_forShape_of_finds hrival
  cases hshape : v.shape with
  | object => exact absurd hshape hplain
  | string =>
    obtain ⟨s, rfl⟩ : ∃ s, v = .text s := by
      unfold Value.shape at hshape
      split at hshape <;> first | exact ⟨_, rfl⟩ | cases hshape
    exact (Rule.eq_forText_of_finds hrule).trans (Rule.eq_forText_of_finds hrival).symm
  | boolean | integer | float | null | collection =>
    rw [hshape] at hmem hmem'
    exact (List.mem_singleton.mp hmem).trans (List.mem_singleton.mp hmem').symm

/-- Only its size and its text make an object empty. -/
theorem Rule.eq_or_eq_of_finds {v : Value} (hshape : v.shape = .object) {rule : Rule} (h : (rule.finding v).isSome) :
    rule = .objectCount ∨ rule = .objectString := by
  have hmem := Rule.mem_forShape_of_finds h
  rw [hshape] at hmem
  have hrule : rule = .objectCount ∨ rule = .objectString ∨ rule = .object := by simpa [Rule.forShape] using hmem
  rcases hrule with hcount | hstring | rfl
  · exact .inl hcount
  · exact .inr hstring
  · rw [Rule.finding, hshape] at h
    cases h

/-- Where a single rule of a list can find a value empty, that rule decides, wherever it stands. -/
theorem firstVerdict_of_sole {order : List Rule} {sole : Rule} {v : Value} (hmem : sole ∈ order)
    (hsole : ∀ rule ∈ order, (rule.finding v).isSome → rule = sole) (mask : Mask) :
    firstVerdict order v mask = (sole.verdict? v mask).getD .notEmpty := by
  induction order with
  | nil => cases hmem
  | cons rule rest ih =>
    rw [List.forall_mem_cons] at hsole
    rw [firstVerdict_cons]
    by_cases hrest : sole ∈ rest
    · rw [ih hrest hsole.2]
      by_cases hrule : rule = sole
      · rw [hrule]
        cases sole.verdict? v mask <;> rfl
      · rw [Rule.verdict?_of_not_finds (fun hfinds => hrule (hsole.1 hfinds)), Option.getD_none]
    · have hrule : sole = rule := (List.mem_cons.mp hmem).resolve_right hrest
      have hidle : firstVerdict rest v mask = .notEmpty := by
        rw [firstVerdict, List.findSome?_eq_none_iff.mpr, Option.getD_none]
        intro other hother
        refine Rule.verdict?_of_not_finds (fun hfinds => hrest ?_) mask
        rw [← hsole.2 other hother hfinds]
        exact hother
      rw [hidle, hrule]

/-- Where two rules of a list can find a value empty, the one that is asked first decides, and the other one if that
finds nothing. -/
theorem firstVerdict_of_pair {order : List Rule} {first second : Rule} {v : Value} (hnodup : order.Nodup)
    (hmem : second ∈ order) (hbefore : order.idxOf first < order.idxOf second)
    (hpair : ∀ rule ∈ order, (rule.finding v).isSome → rule = first ∨ rule = second) (mask : Mask) :
    firstVerdict order v mask = (first.verdict? v mask).getD ((second.verdict? v mask).getD .notEmpty) := by
  induction order with
  | nil => cases hmem
  | cons rule rest ih =>
    rw [List.nodup_cons] at hnodup
    rw [List.forall_mem_cons] at hpair
    have hsecond : rule ≠ second := by
      rintro rfl
      rw [List.idxOf_cons_self] at hbefore
      exact Nat.not_lt_zero _ hbefore
    have hrest : second ∈ rest := (List.mem_cons.mp hmem).resolve_left hsecond.symm
    rw [firstVerdict_cons]
    by_cases hfirst : rule = first
    · subst hfirst
      -- the first rule does not stand in the rest, where the second is then alone
      rw [firstVerdict_of_sole hrest fun other hother hfinds => (hpair.2 other hother hfinds).resolve_left ?_]
      rintro rfl
      exact hnodup.1 hother
    · rw [List.idxOf_cons_ne rest hfirst, List.idxOf_cons_ne rest hsecond, Nat.succ_lt_succ_iff] at hbefore
      rw [Rule.verdict?_of_not_finds fun hfinds => (hpair.1 hfinds).elim hfirst hsecond, Option.getD_none,
        ih hnodup.2 hrest hbefore hpair.2]

/-- The verdict on a value that is no object does not depend on the order of the rules. -/
theorem firstVerdict_eq_of_plain {order other : List Rule} {v : Value} (hplain : v.shape ≠ .object)
    (horder : ∀ rule, rule ∈ order) (hother : ∀ rule, rule ∈ other) (mask : Mask) :
    firstVerdict order v mask = firstVerdict other v mask := by
  by_cases hfound : ∃ rule : Rule, (rule.finding v).isSome
  · obtain ⟨sole, hfinds⟩ := hfound
    have hsole (rule : Rule) (hrule : (rule.finding v).isSome) : rule = sole := Rule.eq_of_finds hplain hrule hfinds
    rw [firstVerdict_of_sole (horder sole) (fun rule _ => hsole rule) mask,
      firstVerdict_of_sole (hother sole) (fun rule _ => hsole rule) mask]
  · have hidle (rules : List Rule) : firstVerdict rules v mask = .notEmpty := by
      rw [firstVerdict, List.findSome?_eq_none_iff.mpr, Option.getD_none]
      exact fun rule _ => Rule.verdict?_of_not_finds (fun hfinds => hfound ⟨rule, hfinds⟩) mask
    rw [hidle, hidle]

/-- An object that is empty by its size and by its text. -/
def hollow : Value :=
  .object 0 ⟨"Hollow", some (.returns (.int 0)), some (.returns (.text "")), none, none⟩

/-- Rules in another order give the same verdict on every value that is no object, since at most one of them finds it
empty, and on every object as long as the rule about sizes is asked before the rule about texts. If these two change
places, there is an object on which the verdict differs. -/
theorem judgeBy_perm {order : List Rule} (hperm : order.Perm Rule.inOrder) :
    (order.idxOf .objectCount < order.idxOf .objectString →
      ∀ (v : Value) (mask : Mask), judgeBy order v mask = judge v mask) ∧
    (∀ v : Value, v.shape ≠ .object →
      (∀ mask : Mask, judgeBy order v mask = judge v mask) ∧
      ∀ rule rival : Rule, isEmptyUnder v (rule.bit : Int) = .ok true → isEmptyUnder v (rival.bit : Int) = .ok true →
        rule = rival) ∧
    (order.idxOf .objectString < order.idxOf .objectCount →
      ∃ (v : Value) (mask : Mask), judgeBy order v mask ≠ judge v mask) := by
  have hnodup : order.Nodup := hperm.nodup_iff.mpr (by decide)
  have hmem (rule : Rule) : rule ∈ order := hperm.mem_iff.mpr rule.mem_inOrder
  have hbefore : Rule.inOrder.idxOf .objectCount < Rule.inOrder.idxOf .objectString := by decide
  have hsame {v : Value} {mask : Mask} (h : firstVerdict order v mask = firstVerdict Rule.inOrder v mask) :
      judgeBy order v mask = judge v mask := by
    rw [judgeBy_eq_firstVerdict, judge_eq_firstVerdict, h]
  have hplain {v : Value} (hshape : v.shape ≠ .object) (mask : Mask) : judgeBy order v mask = judge v mask :=
    hsame (firstVerdict_eq_of_plain hshape hmem Rule.mem_inOrder mask)
  refine ⟨fun hcount v mask => ?_, fun v hshape => ⟨hplain hshape, fun rule rival hrule hrival => ?_⟩,
    fun hstring => ?_⟩
  · by_cases hshape : v.shape = .object
    · have hpair (rules : List Rule) : ∀ rule ∈ rules, (rule.finding v).isSome →
          rule = .objectCount ∨ rule = .objectString := fun rule _ => Rule.eq_or_eq_of_finds hshape
      refine hsame ?_
      rw [firstVerdict_of_pair hnodup (hmem _) hcount (hpair order) mask,
        firstVerdict_of_pair (by decide) (Rule.mem_inOrder _) hbefore (hpair Rule.inOrder) mask]
    · exact hplain hshape mask
  · rw [isEmptyUnder_bit_iff] at hrule hrival
    exact Rule.eq_of_finds hshape hrule hrival
  · refine ⟨hollow, 0x600, ?_⟩
    have hpair : ∀ rule ∈ order, (rule.finding hollow).isSome → rule = .objectString ∨ rule = .objectCount :=
      fun rule _ hfinds => (Rule.eq_or_eq_of_finds rfl hfinds).symm
    have htext : Rule.objectString.verdict? hollow 0x600 = some (.empty .objectString .isEmpty) := rfl
    have hsize : judge hollow 0x600 = .ok (.empty .objectCount .isEmpty) := rfl
    rw [judgeBy_eq_firstVerdict, firstVerdict_of_pair hnodup (hmem _) hstring hpair, htext, hsize]
    exact nofun

/-- The rules in the order of their bits judge blank text as ever, which is empty by one rule alone, but not every
object; with the rule about sizes in front they judge everything alike. -/
theorem judgeBy_order_of_bits :
    let sizesFirst : List Rule := .objectCount :: Rule.all.erase .objectCount
    Rule.all.Perm Rule.inOrder ∧ sizesFirst.Perm Rule.inOrder ∧
      (∀ (v : Value) (mask : Mask), judgeBy sizesFirst v mask = judge v mask) ∧
      judgeBy Rule.all (.text " ") (-1) = judge (.text " ") (-1) ∧
      (∀ rule : Rule, isEmptyUnder (.text " ") (rule.bit : Int) = .ok true → rule = .space) ∧
      ∃ (v : Value) (mask : Mask), judgeBy Rule.all v mask ≠ judge v mask := by
  intro sizesFirst
  have hall : Rule.all.Perm Rule.inOrder := by decide
  have hfirst : sizesFirst.Perm Rule.inOrder := by decide
  obtain ⟨hblank, halone⟩ := (judgeBy_perm hall).2.1 (.text " ") (by decide)
  have hspace : isEmptyUnder (.text " ") (Rule.space.bit : Int) = .ok true := rfl
  exact ⟨hall, hfirst, (judgeBy_perm hfirst).1 (by decide), hblank (-1),
    fun rule hrule => halone rule .space hrule hspace, (judgeBy_perm hall).2.2 (by decide)⟩

end Emptiness
