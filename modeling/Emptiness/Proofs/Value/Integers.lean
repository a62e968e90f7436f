import Emptiness.Proofs.Fault
import Emptiness.Proofs.Value.Entries
import Emptiness.Value.Mapping

/-!
# Values whose integers are short

The literal of a value fails only at an integer whose numeral would be too long; flags and ranges show such a numeral
as well. So a value that holds no such integer, at any depth, has a literal. What an object gives under a key is held by
the object, so its integers are among those of the object. How flags are named makes a difference only if there are bits
beyond all rules.
-/

namespace Emptiness

namespace Value

mutual

/-- The integers that a value holds, at any depth. -/
def integers : Value → List Int
  | .int i => [i]
  | .flags mask _ => [mask]
  | .range stop => [stop]
  | .sequence _ items => itemIntegers items
  | .mapping _ entries => entryIntegers entries
  | .exception _ arguments => itemIntegers arguments
  | .object _ ⟨_, _, _, _, some items⟩ => entryIntegers items
  | _ => []

/-- The integers that a run of values holds. -/
def itemIntegers : List Value → List Int
  | [] => []
  | item :: rest => integers item ++ itemIntegers rest

/-- The integers that the keys and values of a run of entries hold. -/
def entryIntegers : List (Value × Value) → List Int
  | [] => []
  | (key, value) :: rest => integers key ++ integers value ++ entryIntegers rest

end

/-- An integer of at most 4300 decimal digits. -/
def IsShortInteger (i : Int) : Prop :=
  (Number.digits i.natAbs).length ≤ Number.digitLimit

/-- All integers of a value have at most 4300 decimal digits. -/
def HasShortIntegers (v : Value) : Prop :=
  ∀ i ∈ v.integers, IsShortInteger i

/-- A short integer is shown by its numeral. -/
theorem intText_of_short {i : Int} (h : IsShortInteger i) : intText i = .ok (String.ofList (Number.numeral i)) := by
  have hbound := (Number.length_digits_le_iff i.natAbs).mp h
  unfold intText Number.numeral?
  -- The bound is not to be evaluated: it has thousands of digits.
  generalize Number.numeralBound = bound at hbound ⊢
  simp [hbound]

mutual

/-- A value whose integers are short has a literal. -/
theorem literal_of_short : ∀ (v : Value), v.HasShortIntegers → ∃ shown, v.literal = .ok shown
  | .null, _ | .bool _, _ | .float _, _ | .text _, _ | .octets .., _ | .decimal _, _ | .moment _, _ => ⟨_, rfl⟩
  | .validator .., _ | .object .., _ => ⟨_, rfl⟩
  | .int i, h => by
    rw [literal]
    exact ⟨_, intText_of_short (h i (List.mem_singleton_self i))⟩
  | .flags mask _, h => by
    have hshown := intText_of_short (h mask (List.mem_singleton_self (mask : Int)))
    exact ⟨_, by rw [literal, hshown]; rfl⟩
  | .range stop, h => by
    have hshown := intText_of_short (h stop (List.mem_singleton_self stop))
    exact ⟨_, by rw [literal, hshown]; rfl⟩
  | .sequence _ items, h => by
    obtain ⟨shown, hshown⟩ := itemLiterals_of_short items h
    exact ⟨_, by rw [literal, hshown]; rfl⟩
  | .mapping _ entries, h => by
    obtain ⟨shown, hshown⟩ := entryLiterals_of_short entries h
    exact ⟨_, by rw [literal, hshown]; rfl⟩
  | .exception _ arguments, h => by
    obtain ⟨shown, hshown⟩ := itemLiterals_of_short arguments h
    exact ⟨_, by rw [literal, hshown]; rfl⟩

/-- Values whose integers are short have literals. -/
theorem itemLiterals_of_short : ∀ (items : List Value), (∀ i ∈ itemIntegers items, IsShortInteger i) →
    ∃ shown, itemLiterals items = .ok shown
  | [], _ => ⟨[], rfl⟩
  | item :: rest, h => by
    rw [itemIntegers, List.forall_mem_append] at h
    obtain ⟨first, hfirst⟩ := literal_of_short item h.1
    obtain ⟨more, hmore⟩ := itemLiterals_of_short rest h.2
    rw [itemLiterals, hfirst, hmore]
    exact ⟨_, rfl⟩

/-- Entries whose integers are short have literals. -/
theorem entryLiterals_of_short : ∀ (entries : List (Value × Value)), (∀ i ∈ entryIntegers entries, IsShortInteger i) →
    ∃ shown, entryLiterals entries = .ok shown
  | [], _ => ⟨[], rfl⟩
  | (key, value) :: rest, h => by
    rw [entryIntegers, List.forall_mem_append, List.forall_mem_append] at h
    obtain ⟨shownKey, hkey⟩ := literal_of_short key h.1.1
    obtain ⟨shownValue, hvalue⟩ := literal_of_short value h.1.2
    obtain ⟨more, hmore⟩ := entryLiterals_of_short rest h.2
    rw [entryLiterals, hkey, hvalue, hmore]
    exact ⟨_, rfl⟩

end

/-- Only an integer that is too long has no numeral. -/
theorem intText_fault {i : Int} {fault : Fault} (h : intText i = .error fault) : fault = .numeralTooLong none := by
  unfold intText at h
  split at h
  · cases h
  · cases h
    rfl

mutual

/-- A value has a literal unless it holds an integer that is too long, and then that is the fault. -/
theorem literal_fault : ∀ (v : Value) (fault : Fault), v.literal = .error fault → fault = .numeralTooLong none
  | .null | .bool _ | .float _ | .text _ | .octets .. | .decimal _ | .moment _ => nofun
  | .validator .. | .object .. => nofun
  | .int _ => by
    intro fault h
    rw [literal] at h
    exact intText_fault h
  | .flags .. | .range _ => by
    intro fault h
    rw [literal] at h
    exact intText_fault (map_eq_error h)
  | .sequence _ items => by
    intro fault h
    rw [literal] at h
    exact itemLiterals_fault items fault (map_eq_error h)
  | .mapping _ entries => by
    intro fault h
    rw [literal] at h
    exact entryLiterals_fault entries fault (map_eq_error h)
  | .exception _ arguments => by
    intro fault h
    rw [literal] at h
    exact itemLiterals_fault arguments fault (map_eq_error h)

/-- Values have literals unless one of them holds an integer that is too long. -/
theorem itemLiterals_fault : ∀ (items : List Value) (fault : Fault), itemLiterals items = .error fault →
    fault = .numeralTooLong none
  | [] => nofun
  | item :: rest => by
    intro fault h
    rw [itemLiterals] at h
    rcases bind_eq_error h with hitem | ⟨shown, -, h⟩
    · exact literal_fault item fault hitem
    rcases bind_eq_error h with hrest | ⟨more, -, h⟩
    · exact itemLiterals_fault rest fault hrest
    cases h

/-- Entries have literals unless one of them holds an integer that is too long. -/
theorem entryLiterals_fault : ∀ (entries : List (Value × Value)) (fault : Fault), entryLiterals entries = .error fault →
    fault = .numeralTooLong none
  | [] => nofun
  | (key, value) :: rest => by
    intro fault h
    rw [entryLiterals] at h
    rcases bind_eq_error h with hkey | ⟨shownKey, -, h⟩
    · exact literal_fault key fault hkey
    rcases bind_eq_error h with hvalue | ⟨shownValue, -, h⟩
    · exact literal_fault value fault hvalue
    rcases bind_eq_error h with hrest | ⟨more, -, h⟩
    · exact entryLiterals_fault rest fault hrest
    cases h

end

/-- A value without a literal has an integer that is too long. -/
theorem not_short_of_literal {v : Value} {fault : Fault} (h : v.literal = .error fault) : ¬ v.HasShortIntegers := by
  intro hshort
  obtain ⟨shown, hshown⟩ := v.literal_of_short hshort
  cases hshown.symm.trans h

/-- Flags of rules alone have the same literal under both namings. -/
theorem literal_flags_congr {mask : Nat} (h : mask ≤ fullMask) (naming other : FlagNaming) :
    literal (.flags mask naming) = literal (.flags mask other) := by
  have hnames : flagNames mask naming = flagNames mask other := by
    simp only [flagNames, h, or_true, if_true]
  have hparts : flagParts mask naming = flagParts mask other := by
    rw [flagParts, flagParts, hnames]
  have hliteral : flagLiteral mask naming = flagLiteral mask other := by
    funext numeral
    rw [flagLiteral, flagLiteral, hparts]
  rw [literal, literal, hliteral]

/-- The integers of an item are among those of the items. -/
theorem integers_subset_of_mem {item : Value} {items : List Value} (h : item ∈ items) :
    item.integers ⊆ itemIntegers items := by
  induction items with
  | nil => cases h
  | cons first rest ih =>
    rw [itemIntegers]
    rcases List.mem_cons.mp h with rfl | hrest
    · exact List.subset_append_left _ _
    · exact List.subset_append_of_subset_right _ (ih hrest)

/-- The integers of an entry's value are among those of the entries. -/
theorem integers_subset_of_mem_entries {entry : Value × Value} {entries : Entries} (h : entry ∈ entries) :
    entry.2.integers ⊆ entryIntegers entries := by
  induction entries with
  | nil => cases h
  | cons first rest ih =>
    rw [entryIntegers]
    rcases List.mem_cons.mp h with rfl | hrest
    · exact List.subset_append_of_subset_left _ (List.subset_append_right _ _)
    · exact List.subset_append_of_subset_right _ (ih hrest)

/-- What an object gives under a key is one of its items. -/
theorem mem_of_itemAt {items : Entries} {key value : Value} (h : itemAt items key = .ok value) :
    ∃ entry ∈ items, entry.2 = value := by
  obtain ⟨-, -, h⟩ := bind_eq_ok h
  split at h
  · cases h
    exact Entries.mem_of_find? (by assumption)
  · cases h

/-- What holds of all values of an object's items and of the entries so far holds of all values that are read. -/
theorem forall_readKeys (P : Value → Prop) {items : Entries} (hitems : ∀ entry ∈ items, P entry.2) {keys : List Value}
    {done entries : Entries} (hdone : ∀ entry ∈ done, P entry.2) (h : readKeys items done keys = .ok entries) :
    ∀ entry ∈ entries, P entry.2 := by
  induction keys generalizing done with
  | nil =>
    cases h
    exact hdone
  | cons key rest ih =>
    obtain ⟨value, hvalue, hrest⟩ := bind_eq_ok h
    obtain ⟨item, hitem, rfl⟩ := mem_of_itemAt hvalue
    exact ih (Entries.forall_value_put P key hdone (hitems item hitem)) hrest

/-- The value of an entry that is read from a value holds no integers but those of the value. -/
theorem integers_subset_of_entries? {v : Value} {entries : Entries} (h : v.entries? = .ok (some entries)) :
    ∀ entry ∈ entries, entry.2.integers ⊆ v.integers := by
  unfold entries? at h
  split at h
  case h_1 =>
    cases h
    intro entry hentry
    exact integers_subset_of_mem_entries hentry
  case h_2 => cases h
  case h_3 items =>
    obtain ⟨keys, -, h⟩ := bind_eq_ok h
    obtain ⟨found, hfound, h⟩ := bind_eq_ok h
    split at h
    · cases h
    · cases h
      refine forall_readKeys (fun value => value.integers ⊆ entryIntegers items) ?_ ?_ hfound
      · intro entry hentry
        exact integers_subset_of_mem_entries hentry
      · intro entry hentry
        cases hentry
  case h_4 => cases h

end Value

end Emptiness
