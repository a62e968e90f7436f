import Emptiness.Proofs.RuleName
import Emptiness.Proofs.Selector.Union

/-!
# Masks listed by the names of their rules

Listing the rules of a mask and reading the list as a selector are inverse to each other, as far as bits of no rule are
left out. The names are those that the masks of single rules are labelled with, so the table that is searched for a
label and the table that is searched for a name agree. A mask that comes from a sequence lists the rules that some item
names, composites by their parts, each rule once and with the bits ascending.
-/

namespace Emptiness

/-- The rules of a mask are those that have a bit in common with it. -/
theorem Mask.names_eq_labels (mask : Mask) :
    mask.names = (Rule.all.filter fun rule => mask.meets rule.bit).map fun rule => Mask.label rule.bit := by
  have hlabel (rule : Rule) : Mask.label rule.bit = rule.name := by
    rw [← RuleName.mask_single, Mask.label_mask, Rule.name]
  simp only [Mask.names, hlabel, ← Mask.has_eq_meets]

/-- Within the full mask a mask has its bits at the places of rules. -/
theorem Mask.testBit_land_full (mask : Mask) (place : Nat) :
    (Int.land mask fullMask).testBit place = true ↔ ∃ rule : Rule, mask.has rule = true ∧ rule.place = place := by
  have hland : (Int.land mask fullMask).testBit place = (mask.testBit place && fullMask.testBit place) :=
    Int.testBit_land mask fullMask place
  rw [hland, Bool.and_eq_true, testBit_fullMask]
  constructor
  · rintro ⟨hbit, rule, rfl⟩
    exact ⟨rule, by rwa [Mask.has_eq_testBit], rfl⟩
  · rintro ⟨rule, hrule, rfl⟩
    rw [Mask.has_eq_testBit] at hrule
    exact ⟨hrule, rule, rfl⟩

/-- Bits of no rule do not count for the rules of a mask. -/
theorem Mask.has_land_full (mask : Mask) (rule : Rule) : Mask.has (Int.land mask fullMask) rule = mask.has rule := by
  rw [Bool.eq_iff_iff, Mask.has_eq_testBit, Mask.testBit_land_full]
  constructor
  · rintro ⟨other, hother, hplace⟩
    rwa [← Rule.place_injective hplace]
  · intro hrule
    exact ⟨rule, hrule, rfl⟩

/-- Bits of no rule do not count for the names in a mask. -/
theorem Mask.names_land_full (mask : Mask) : Mask.names (Int.land mask fullMask) = mask.names := by
  have hrules : Mask.has (Int.land mask fullMask) = mask.has := funext mask.has_land_full
  rw [Mask.names, hrules, Mask.names]

/-- The mask of the rules in a mask is the mask without the bits of no rule. -/
theorem Mask.maskOf_rules (mask : Mask) :
    (RuleName.maskOf (Rule.all.filter mask.has) : Int) = Int.land mask fullMask := by
  refine eq_of_testBit fun place => Bool.eq_iff_iff.mpr ?_
  have hbit : Int.testBit (RuleName.maskOf (Rule.all.filter mask.has)) place =
      (RuleName.maskOf (Rule.all.filter mask.has)).testBit place := rfl
  rw [hbit, RuleName.testBit_maskOf, Mask.testBit_land_full]
  simp only [List.mem_filter, Rule.mem_all, true_and]

/-- The rules of a mask are listed with their bits ascending. -/
theorem Mask.rules_ascending (mask : Mask) : (Rule.all.filter mask.has).Pairwise fun a b => a.bit < b.bit :=
  Rule.all_ascending.filter mask.has

/-- Different rules have different names. -/
theorem Rule.name_injective : Function.Injective Rule.name := by
  intro a b h
  exact RuleName.single.inj (RuleName.text_injective h)

/-- No name is listed twice. -/
theorem Mask.names_nodup (mask : Mask) : mask.names.Nodup := by
  refine List.Nodup.map Rule.name_injective ?_
  refine (Mask.rules_ascending mask).imp fun hlt hsame => ?_
  rw [hsame] at hlt
  exact Nat.lt_irrefl _ hlt

namespace Selector

/-- The name of a rule names the rule's bit. -/
theorem names_of_rule (rule : Rule) : Names (.text rule.name) rule.bit := by
  rw [← RuleName.mask_single]
  exact .name (RuleName.find?_text (.single rule))

/-- The names of some rules are a selector for the mask of these rules. -/
theorem mask_of_rules (rules : List Rule) :
    mask (.list ((rules.map Rule.name).map .string)) = .ok (RuleName.maskOf rules) := by
  rw [mask_sequence_iff, List.map_map]
  refine ⟨List.forall_mem_map.mpr fun rule _ => ⟨rule.bit, names_of_rule rule⟩, fun place => ?_⟩
  have hbit (rule : Rule) : NamesBit (.text rule.name) place ↔ rule.place = place := by
    rw [(names_of_rule rule).namesBit_iff, Rule.bit_eq_two_pow, Nat.testBit_two_pow, decide_eq_true_eq]
  simp only [RuleName.testBit_maskOf, List.mem_map, exists_exists_and_eq_and, Function.comp_apply, hbit]

/-- The names in a mask are a selector for the mask without the bits of no rule. -/
theorem mask_of_names (m : Mask) :
    (mask (.list (m.names.map .string))).map Int.ofNat = .ok (Int.land m fullMask) := by
  rw [Mask.names, mask_of_rules, ← Mask.maskOf_rules]
  rfl

/-- A mask of rules has no bits of no rule. -/
theorem land_full_of_le {m : Nat} (h : m ≤ 2047) : Int.land m fullMask = m := by
  have hfull : fullMask = 2 ^ 11 - 1 := rfl
  have hland : Int.land m fullMask = ((m &&& fullMask : Nat) : Int) := rfl
  rw [hland, hfull, Nat.and_two_pow_sub_one_of_lt_two_pow (Nat.lt_succ_of_le h)]

/-- The rules of a mask that a sequence stands for are those that some item names. -/
theorem has_of_mask_iff {kind : SequenceKind} {items : List Value} {m : Nat} (h : mask (.sequence kind items) = .ok m)
    (rule : Rule) : Mask.has m rule = true ↔ ∃ item ∈ items, ∃ n, Names item n ∧ Mask.has n rule = true := by
  have hhas (n : Nat) : Mask.has n rule = true ↔ n.testBit rule.place = true := by
    rw [Mask.has_eq_testBit]
    rfl
  rw [hhas, (mask_sequence_iff.mp h).2]
  simp only [NamesBit, hhas]

/-- A mask is listed by the labels of its single rules, and bits of no rule do not count for the list. Read as a
selector the list gives the mask back without these bits. If the mask comes from a list of selectors, then the rules
that are listed are those that some item names, with their bits ascending, and no name is repeated. -/
theorem mask_names_inverse :
    (∀ m : Mask, m.names = ((Rule.all.filter fun rule => m.meets rule.bit).map fun rule => Mask.label rule.bit) ∧
      m.names = Mask.names (Int.land m 2047) ∧
      (mask (.list (m.names.map .string))).map Int.ofNat = .ok (Int.land m 2047)) ∧
    ∀ items m, mask (.list items) = .ok m →
      (∃ rules : List Rule, Mask.names m = (rules.map fun rule => Mask.label rule.bit) ∧
        rules.Pairwise (fun a b => a.bit < b.bit) ∧
        ∀ rule, rule ∈ rules ↔ ∃ item ∈ items, ∃ n, Names item n ∧ Mask.has n rule = true) ∧
      (Mask.names m).Nodup ∧ mask (.list ((Mask.names m).map .string)) = .ok m := by
  have hfull : (fullMask : Int) = 2047 := rfl
  rw [← hfull]
  refine ⟨fun m => ⟨m.names_eq_labels, m.names_land_full.symm, mask_of_names m⟩, fun items m h => ⟨?_, ?_, ?_⟩⟩
  · refine ⟨Rule.all.filter (Mask.has m), ?_, Mask.rules_ascending m, fun rule => ?_⟩
    · simp only [Mask.names_eq_labels, ← Mask.has_eq_meets]
    · rw [List.mem_filter, and_iff_right rule.mem_all, has_of_mask_iff h]
  · exact Mask.names_nodup m
  · have hnames := mask_of_names (m : Mask)
    rw [land_full_of_le (mask_le h)] at hnames
    obtain ⟨n, hn, hsame⟩ := map_eq_ok hnames
    rw [hn, Int.ofNat_inj.mp hsame]

/-- A composite, one of the rules in it, a blank name and flags, listed with the composite taken apart. -/
theorem mask_names_inverse_of_composite :
    let items : List Value := [.text "PHP", .int 1, .text " Space\n", .flags 1025 .singles]
    let names := ["boolean", "integer", "float", "string", "zero", "array", "null", "space", "objectcount"]
    mask (.list items) = .ok 1279 ∧ Mask.names (1279 : Nat) = names ∧
      (∃ rules : List Rule, Mask.names (1279 : Nat) = (rules.map fun rule => Mask.label rule.bit) ∧
        rules.Pairwise (fun a b => a.bit < b.bit) ∧
        ∀ rule, rule ∈ rules ↔ ∃ item ∈ items, ∃ n, Names item n ∧ Mask.has n rule = true) ∧
      (Mask.names (1279 : Nat)).Nodup ∧ mask (.list ((Mask.names (1279 : Nat)).map .string)) = .ok 1279 := by
  intro items names
  have hmask : mask (.list items) = .ok 1279 := rfl
  exact ⟨hmask, rfl, mask_names_inverse.2 items 1279 hmask⟩

end Selector

end Emptiness
