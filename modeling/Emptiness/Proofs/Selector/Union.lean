import Emptiness.Proofs.Number.Decimal
import Emptiness.Proofs.Selector.Grammar
import Emptiness.Proofs.Value.Elements

/-!
# Sequences of selectors are unions

A sequence stands for the union of what its items name, so it is known by its bits: a bit is set exactly if some item
names it. Nothing else about the sequence counts, neither the order of the items nor how often they come, nor whether
they are listed or kept as a set. A set keeps only one of several items that are the same key; as long as these are of
one type, they name the same rules. A mask of rules stands for itself in every notation.
-/

namespace Emptiness.Selector

/-- Whatever mask the one value stands for the other stands for as well, and if one is no selector neither is the
other. -/
def Equivalent (a b : Value) : Prop :=
  ∀ m, mask a = .ok m ↔ mask b = .ok m

/-- The value names rules, and their mask has a bit at this place. -/
def NamesBit (v : Value) (place : Nat) : Prop :=
  ∃ m, Names v m ∧ m.testBit place = true

/-- The elements stand for some items: each of them is an item, and every item is among them or is the same key as one
that is. -/
structure Represents (elements items : List Value) : Prop where
  subset : elements ⊆ items
  covers : ∀ item ∈ items, ∃ element ∈ elements, element = item ∨ element.sameKey item = true

/-- Items that are the same key are of one type. -/
def TypesAgree (items : List Value) : Prop :=
  ∀ a ∈ items, ∀ b ∈ items, a.sameKey b = true → a.typeName = b.typeName

instance (items : List Value) : Decidable (TypesAgree items) :=
  inferInstanceAs (Decidable (∀ a ∈ items, ∀ b ∈ items, a.sameKey b = true → a.typeName = b.typeName))

/-- The rules that a value names are determined by it. -/
theorem Names.unique {v : Value} {m n : Nat} (hm : Names v m) (hn : Names v n) : m = n :=
  Option.some.inj ((scalarMask?_eq_some_iff.mpr hm).symm.trans (scalarMask?_eq_some_iff.mpr hn))

/-- The bits that a value names are those of its mask. -/
theorem Names.namesBit_iff {v : Value} {m : Nat} (h : Names v m) {place : Nat} :
    NamesBit v place ↔ m.testBit place = true := by
  constructor
  · rintro ⟨n, hn, hbit⟩
    rwa [h.unique hn]
  · intro hbit
    exact ⟨m, h, hbit⟩

/-- An integer equals a number that stands for an integer only if that is the same integer. -/
theorem eq_of_same_ofInt {i j : Int} (h : (Number.Decimal.ofInt i).same (.ofInt j) = true) : i = j :=
  Number.Decimal.lowest_ofInt_injective (Value.lowest_eq_of_same h)

/-- A value of the same type that is the same key names the same rules. -/
theorem Names.of_sameKey {v w : Value} {m : Nat} (h : Names v m) (hsame : v.sameKey w = true)
    (htype : v.typeName = w.typeName) : Names w m := by
  cases h with
  | mask hrules =>
    cases w with
    | int j =>
      cases eq_of_same_ofInt hsame
      exact .mask hrules
    | bool | flags | float | decimal => simp [Value.typeName] at htype
    | null | text | sequence | mapping | octets | range | moment => cases hsame
    | exception | validator | object => cases hsame
  | flags hrules =>
    cases w with
    | flags n =>
      cases Int.ofNat_inj.mp (eq_of_same_ofInt hsame)
      exact .flags hrules
    | bool | int | float | decimal => simp [Value.typeName] at htype
    | null | text | sequence | mapping | octets | range | moment => cases hsame
    | exception | validator | object => cases hsame
  | name hknown =>
    cases w with
    | text t =>
      cases eq_of_beq hsame
      exact .name hknown
    | null | bool | int | float | sequence | mapping | octets => cases hsame
    | range | decimal | moment | flags | exception | validator | object => cases hsame

/-- Items give a union exactly if all of them name rules, and then its bits are those at the start and those that are
named. -/
theorem unionMask_eq_ok_iff {start m : Nat} {items : List Value} :
    unionMask start items = .ok m ↔ (∀ item ∈ items, ∃ n, Names item n) ∧
      ∀ place, m.testBit place = true ↔ start.testBit place = true ∨ ∃ item ∈ items, NamesBit item place := by
  induction items generalizing start with
  | nil =>
    rw [unionMask, Except.ok.injEq]
    constructor
    · rintro rfl
      simp
    · rintro ⟨-, hbits⟩
      refine Nat.eq_of_testBit_eq fun place => Bool.eq_iff_iff.mpr ?_
      simpa using (hbits place).symm
  | cons item rest ih =>
    by_cases hitem : ∃ n, Names item n
    · obtain ⟨n, hnames⟩ := hitem
      have hstep : unionMask start (item :: rest) = unionMask (start ||| n) rest := by
        rw [unionMask, scalarMask_of_names hnames]
        rfl
      have hbit (place : Nat) : ((start ||| n).testBit place = true ∨ ∃ other ∈ rest, NamesBit other place) ↔
          start.testBit place = true ∨ ∃ other ∈ item :: rest, NamesBit other place := by
        rw [Nat.testBit_or, Bool.or_eq_true, or_assoc, List.exists_mem_cons_iff, hnames.namesBit_iff]
      rw [hstep, ih, List.forall_mem_cons]
      simp only [hbit, and_iff_right (⟨n, hnames⟩ : ∃ n, Names item n)]
    · have hfault : unionMask start (item :: rest) = .error (unknown item) := by
        rw [unionMask, scalarMask_of_not_names (not_exists.mp hitem)]
        rfl
      rw [hfault]
      refine iff_of_false (fun h => ?_) fun h => hitem (h.1 item List.mem_cons_self)
      cases h

/-- A sequence stands for a mask exactly if all items name rules, and then the mask has the bits that are named. -/
theorem mask_sequence_iff {kind : SequenceKind} {items : List Value} {m : Nat} :
    mask (.sequence kind items) = .ok m ↔ (∀ item ∈ items, ∃ n, Names item n) ∧
      ∀ place, m.testBit place = true ↔ ∃ item ∈ items, NamesBit item place := by
  rw [mask_sequence, unionMask_eq_ok_iff]
  simp only [Nat.zero_testBit, Bool.false_eq_true, false_or]

/-- A sequence of items that all name rules stands for a mask. -/
theorem exists_mask_sequence {items : List Value} (h : ∀ item ∈ items, ∃ n, Names item n) (kind : SequenceKind) :
    ∃ m, mask (.sequence kind items) = .ok m := by
  rcases names_or_first items with ⟨masks, hmasks⟩ | ⟨before, bad, after, rfl, -, hbad⟩
  · exact ⟨_, unionMask_of_names hmasks 0⟩
  · obtain ⟨n, hnames⟩ := h bad (List.mem_append_right _ List.mem_cons_self)
    exact absurd hnames (hbad n)

/-- A list that is put together of two stands for the union of their masks, and for nothing if one of them does. -/
theorem mask_append_iff {xs ys : List Value} {m : Nat} :
    mask (.list (xs ++ ys)) = .ok m ↔ ∃ a b, mask (.list xs) = .ok a ∧ mask (.list ys) = .ok b ∧ m = a ||| b := by
  have hexists (place : Nat) : (∃ item ∈ xs ++ ys, NamesBit item place) ↔
      (∃ item ∈ xs, NamesBit item place) ∨ ∃ item ∈ ys, NamesBit item place := by
    simp only [List.mem_append, or_and_right, exists_or]
  constructor
  · intro h
    obtain ⟨hnames, hbits⟩ := mask_sequence_iff.mp h
    rw [List.forall_mem_append] at hnames
    obtain ⟨a, ha⟩ := exists_mask_sequence hnames.1 .list
    obtain ⟨b, hb⟩ := exists_mask_sequence hnames.2 .list
    refine ⟨a, b, ha, hb, Nat.eq_of_testBit_eq fun place => Bool.eq_iff_iff.mpr ?_⟩
    rw [hbits, hexists, Nat.testBit_or, Bool.or_eq_true, (mask_sequence_iff.mp ha).2, (mask_sequence_iff.mp hb).2]
  · rintro ⟨a, b, ha, hb, rfl⟩
    rw [mask_sequence_iff] at ha hb ⊢
    refine ⟨List.forall_mem_append.mpr ⟨ha.1, hb.1⟩, fun place => ?_⟩
    rw [hexists, Nat.testBit_or, Bool.or_eq_true, ha.2, hb.2]

/-- Sequences with the same items are equivalent, in whatever order and how often these come. -/
theorem equivalent_of_mem_iff {xs ys : List Value} (h : ∀ v, v ∈ xs ↔ v ∈ ys) (first second : SequenceKind) :
    Equivalent (.sequence first xs) (.sequence second ys) := by
  intro m
  simp only [mask_sequence_iff, h]

/-- Elements that stand for items of agreeing types are a selector equivalent to the items. -/
theorem equivalent_of_represents {elements items : List Value} (h : Represents elements items)
    (htypes : TypesAgree items) (first second : SequenceKind) :
    Equivalent (.sequence first elements) (.sequence second items) := by
  have hcovers (item : Value) (hitem : item ∈ items) :
      ∃ element ∈ elements, ∀ n, Names element n → Names item n := by
    obtain ⟨element, helement, rfl | hsame⟩ := h.covers item hitem
    · exact ⟨element, helement, fun n hn => hn⟩
    · have htype := htypes element (h.subset helement) item hitem hsame
      exact ⟨element, helement, fun n hn => hn.of_sameKey hsame htype⟩
  have hnames : (∀ element ∈ elements, ∃ n, Names element n) ↔ ∀ item ∈ items, ∃ n, Names item n := by
    constructor
    · intro hall item hitem
      obtain ⟨element, helement, htransfer⟩ := hcovers item hitem
      obtain ⟨n, hn⟩ := hall element helement
      exact ⟨n, htransfer n hn⟩
    · intro hall element helement
      exact hall element (h.subset helement)
  have hbits (hall : ∀ element ∈ elements, ∃ n, Names element n) (place : Nat) :
      (∃ element ∈ elements, NamesBit element place) ↔ ∃ item ∈ items, NamesBit item place := by
    constructor
    · rintro ⟨element, helement, hbit⟩
      exact ⟨element, h.subset helement, hbit⟩
    · rintro ⟨item, hitem, hbit⟩
      obtain ⟨element, helement, htransfer⟩ := hcovers item hitem
      obtain ⟨n, hn⟩ := hall element helement
      exact ⟨element, helement, hn.namesBit_iff.mpr ((htransfer n hn).namesBit_iff.mp hbit)⟩
  intro m
  rw [mask_sequence_iff, mask_sequence_iff, ← hnames]
  exact and_congr_right fun hall => forall_congr' fun place => by rw [hbits hall place]

/-- What stands for some items stands for them and one more, once this is added if none of it is the same key. -/
theorem Represents.insert {elements items : List Value} (h : Represents elements items) (item : Value) :
    Represents (if elements.any (·.sameKey item) then elements else elements ++ [item]) (items ++ [item]) := by
  split
  case isTrue hany =>
    obtain ⟨element, helement, hsame⟩ := List.any_eq_true.mp hany
    refine ⟨fun v hv => List.mem_append_left _ (h.subset hv), List.forall_mem_append.mpr ⟨h.covers, ?_⟩⟩
    exact List.forall_mem_singleton.mpr ⟨element, helement, .inr hsame⟩
  case isFalse =>
    refine ⟨List.append_subset.mpr ⟨fun v hv => List.mem_append_left _ (h.subset hv), List.subset_append_right _ _⟩,
      List.forall_mem_append.mpr ⟨fun other hother => ?_, ?_⟩⟩
    · obtain ⟨element, helement, hcovers⟩ := h.covers other hother
      exact ⟨element, List.mem_append_left _ helement, hcovers⟩
    · exact List.forall_mem_singleton.mpr ⟨item, List.mem_append_right _ List.mem_cons_self, .inl rfl⟩

/-- What is kept of items without repetition stands for them. -/
theorem represents_distinct (items : List Value) : Represents (Value.distinct items) items := by
  have hfold (kept met : List Value) (h : Represents kept met) (rest : List Value) :
      Represents (rest.foldl (fun kept item => if kept.any (·.sameKey item) then kept else kept ++ [item]) kept)
        (met ++ rest) := by
    induction rest generalizing kept met with
    | nil =>
      rw [List.append_nil]
      exact h
    | cons item rest ih =>
      rw [List.append_cons, List.foldl_cons]
      exact ih _ _ (h.insert item)
  exact hfold [] [] ⟨List.nil_subset _, nofun⟩ items

/-- The elements of a set stand for the items that it is made of, in whatever order they are. -/
theorem represents_setElements {elements items : List Value} (h : elements.Perm (Value.setElements items)) :
    Represents elements items := by
  have hkept : elements.Perm (Value.distinct items) := by
    refine h.trans ?_
    rw [Value.setElements]
    split
    · exact List.mergeSort_perm _ _
    · exact .refl _
  obtain ⟨hsubset, hcovers⟩ := represents_distinct items
  refine ⟨fun v hv => hsubset (hkept.mem_iff.mp hv), fun item hitem => ?_⟩
  obtain ⟨element, helement, hsame⟩ := hcovers item hitem
  exact ⟨element, hkept.mem_iff.mpr helement, hsame⟩

/-- What names rules can be an element of a set. -/
theorem Names.keyMisuse?_eq_none {v : Value} {m : Nat} (h : Names v m) : v.keyMisuse? = none := by
  cases h <;> rfl

/-- The items that can be elements of a set. -/
def keysAmong (items : List Value) : List Value :=
  items.filter (·.keyMisuse?.isNone)

/-- Items that can all be elements of a set are kept. -/
theorem keysAmong_eq_self {items : List Value} (h : ∀ item ∈ items, item.keyMisuse? = none) :
    keysAmong items = items :=
  List.filter_eq_self.mpr fun item hitem => Option.isNone_iff_eq_none.mpr (h item hitem)

/-- A list stands for the same mask as the set of its items. A list with an item that cannot be an element of a set
stands for nothing. -/
theorem mask_list_iff_set {items elements : List Value} (htypes : TypesAgree items)
    (h : elements.Perm (Value.setElements (keysAmong items))) (kind : SequenceKind) (m : Nat) :
    mask (.list items) = .ok m ↔
      (∀ item ∈ items, item.keyMisuse? = none) ∧ mask (.sequence kind elements) = .ok m := by
  have hequivalent (hkeys : ∀ item ∈ items, item.keyMisuse? = none) :
      Equivalent (.sequence kind elements) (.list items) := by
    rw [keysAmong_eq_self hkeys] at h
    exact equivalent_of_represents (represents_setElements h) htypes kind .list
  constructor
  · intro hmask
    have hkeys : ∀ item ∈ items, item.keyMisuse? = none := by
      intro item hitem
      obtain ⟨n, hn⟩ := (mask_sequence_iff.mp hmask).1 item hitem
      exact hn.keyMisuse?_eq_none
    exact ⟨hkeys, (hequivalent hkeys m).mpr hmask⟩
  · rintro ⟨hkeys, hmask⟩
    exact (hequivalent hkeys m).mp hmask

/-- A mask of rules stands for itself, alone, in a list, and under the `type` of a mapping. -/
theorem mask_of_flags {m : Nat} (h : m ≤ 2047) :
    mask (.flags m) = .ok m ∧ mask (.list [.flags m]) = .ok m ∧
      mask (.dict [(.text selectorKey, .flags m)]) = .ok m := by
  have hflags : Selects (.flags m) m := .scalar (.flags h)
  have hlist : Selects (.list [.flags m]) (0 ||| m) := .sequence (.cons (.flags h) .nil)
  rw [Nat.zero_or] at hlist
  exact ⟨mask_of_selects hflags, mask_of_selects hlist, mask_of_selects (.typed rfl rfl rfl hflags)⟩

/-- Sequences are reduced to unions of masks: a list put together of two to the union of their masks, lists with the
same items to the same mask, whatever their order and number and in a tuple as well, and so is the set of the items if
those that are the same key are of one type. A selector of any kind is reduced to a mask of rules, which stands for
itself in every notation. -/
theorem mask_join :
    (∀ xs ys m, mask (.list (xs ++ ys)) = .ok m ↔
      ∃ a b, mask (.list xs) = .ok a ∧ mask (.list ys) = .ok b ∧ m = a ||| b) ∧
    (∀ xs ys, (∀ v, v ∈ xs ↔ v ∈ ys) → Equivalent (.list xs) (.list ys) ∧ Equivalent (.list xs) (.tuple ys)) ∧
    (∀ items elements kind, TypesAgree items → elements.Perm (Value.setElements (keysAmong items)) →
      ∀ m, mask (.list items) = .ok m ↔
        (∀ item ∈ items, item.keyMisuse? = none) ∧ mask (.sequence kind elements) = .ok m) ∧
    (∀ selector m, mask selector = .ok m → m ≤ 2047 ∧ mask (.flags m) = .ok m ∧ mask (.list [.flags m]) = .ok m ∧
      mask (.dict [(.text selectorKey, .flags m)]) = .ok m) := by
  refine ⟨fun xs ys m => mask_append_iff, ?_, ?_, ?_⟩
  · intro xs ys h
    exact ⟨equivalent_of_mem_iff h .list .list, equivalent_of_mem_iff h .list .tuple⟩
  · intro items elements kind htypes h
    exact mask_list_iff_set htypes h kind
  · intro selector m h
    exact ⟨mask_le h, mask_of_flags (mask_le h)⟩

/-- A composite, one of the rules in it, a blank name and the composite again, which a set keeps once. -/
theorem mask_join_of_overlapping_names :
    let items : List Value := [.text "php", .int 1, .text " Space", .text "php"]
    let once : List Value := [.text " Space", .int 1, .text "php"]
    (∀ v, v ∈ items ↔ v ∈ once) ∧ Equivalent (.list items) (.list once) ∧ Equivalent (.list items) (.tuple once) ∧
      TypesAgree items ∧ once.Perm (Value.setElements (keysAmong items)) ∧
      (mask (.list items) = .ok 255 ↔
        (∀ item ∈ items, item.keyMisuse? = none) ∧ mask (.sequence .frozenset once) = .ok 255) ∧
      mask (.list items) = .ok 255 ∧ 255 ≤ 2047 ∧ mask (.flags 255) = .ok 255 ∧ mask (.list [.flags 255]) = .ok 255 ∧
      mask (.dict [(.text selectorKey, .flags 255)]) = .ok 255 := by
  intro items once
  have hmem : ∀ v, v ∈ items ↔ v ∈ once := by
    intro v
    simp only [items, once, List.mem_cons, List.not_mem_nil, or_false]
    tauto
  have htypes : TypesAgree items := by decide +kernel
  have hset : Value.setElements (keysAmong items) = once.reverse := rfl
  have hperm : once.Perm (Value.setElements (keysAmong items)) := hset ▸ (List.reverse_perm once).symm
  have hmask : mask (.list items) = .ok 255 := rfl
  obtain ⟨hlist, htuple⟩ := mask_join.2.1 items once hmem
  exact ⟨hmem, hlist, htuple, htypes, hperm, mask_join.2.2.1 items once .frozenset htypes hperm 255, hmask,
    mask_join.2.2.2 (.list items) 255 hmask⟩

/-- An item that cannot be an element of a set makes the list no selector, although the set of the other items is one. -/
theorem mask_list_of_nested_list :
    let items : List Value := [.text "zero", .list []]
    TypesAgree items ∧ Value.setElements (keysAmong items) = [.text "zero"] ∧
      mask (.list items) = .error (unknown (.list [])) ∧ mask (.sequence .set [.text "zero"]) = .ok 16 := by
  intro items
  have htypes : TypesAgree items := by decide +kernel
  exact ⟨htypes, rfl, rfl, rfl⟩

end Emptiness.Selector
