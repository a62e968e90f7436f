import Emptiness.Proofs.Fault
import Emptiness.Proofs.Number.Decimal
import Emptiness.Value.Mapping
import Mathlib.Data.List.Perm.Subperm
import Mathlib.Data.List.Nodup
import Mathlib.Tactic.Choose

/-!
# Items of an object, one by one

An object whose items are asked for under 0, 1, 2 and so on always ends with a fault. It has finitely many entries, and
no entry stands for two integers, so one of these keys is missing.
-/

namespace Emptiness.Value

/-- A number that equals an integer agrees with it in lowest terms. -/
theorem lowest_eq_of_same {d : Number.Decimal} {i : Int} (h : d.same (.ofInt i) = true) :
    d.lowest = (Number.Decimal.ofInt i).lowest := by
  cases d with
  | nan => cases h
  | infinite | finite => exact eq_of_beq h

/-- A key that is the same as an integer is the number that equals it. -/
theorem number?_of_sameKey {key : Value} {i : Int} (h : key.sameKey (.int i) = true) :
    ∃ d, key.number? = some d ∧ d.lowest = (Number.Decimal.ofInt i).lowest := by
  cases key with
  | bool | int | flags | float | decimal => exact ⟨_, rfl, lowest_eq_of_same h⟩
  | sequence kind => cases kind <;> cases h
  | null | text | mapping | octets | range | moment | exception | validator | object => cases h

/-- No key is the same as two integers. -/
theorem int_unique_of_sameKey {key : Value} {i j : Int} (hi : key.sameKey (.int i) = true)
    (hj : key.sameKey (.int j) = true) : i = j := by
  obtain ⟨d, hd, hlowest⟩ := number?_of_sameKey hi
  obtain ⟨d', hd', hlowest'⟩ := number?_of_sameKey hj
  cases hd.symm.trans hd'
  exact Number.Decimal.lowest_ofInt_injective (hlowest.symm.trans hlowest')

/-- Items under integers without a gap are no more than there are entries. -/
theorem le_length_of_consecutive {items : Entries} {start count : Nat}
    (h : ∀ n < count, ∃ entry ∈ items, entry.1.sameKey (.int ((start + n : Nat) : Int)) = true) :
    count ≤ items.length := by
  choose! entry hmem hsame using h
  have hnodup : ((List.range count).map entry).Nodup := by
    refine List.Nodup.map_on (fun a ha b hb hequal => ?_) List.nodup_range
    have hb' := hsame b (List.mem_range.mp hb)
    rw [← hequal] at hb'
    have hint := int_unique_of_sameKey (hsame a (List.mem_range.mp ha)) hb'
    omega
  have hsubset : (List.range count).map entry ⊆ items := by
    intro e he
    obtain ⟨n, hn, rfl⟩ := List.mem_map.mp he
    exact hmem n (List.mem_range.mp hn)
  simpa using (List.subperm_of_subset hnodup hsubset).length_le

/-- An item that an object gives under a key is that of an entry with the same key. -/
theorem sameKey_of_itemAt {items : Entries} {key value : Value} (h : itemAt items key = .ok value) :
    ∃ entry ∈ items, entry.1.sameKey key = true := by
  obtain ⟨-, -, h⟩ := bind_eq_ok h
  split at h
  case h_1 hfound =>
    obtain ⟨entry, hentry, -⟩ := Option.map_eq_some_iff.mp hfound
    exact ⟨entry, List.mem_of_find?_eq_some hentry, by simpa using List.find?_some hentry⟩
  case h_2 => cases h

/-- Items that end without a fault are under consecutive integers. -/
theorem consecutive_of_itemsFrom {items : Entries} {start fuel : Nat} (h : (itemsFrom items start fuel).fault? = none) :
    ∀ n < fuel, ∃ entry ∈ items, entry.1.sameKey (.int ((start + n : Nat) : Int)) = true := by
  induction fuel generalizing start with
  | zero => intro n hn; cases hn
  | succ fuel ih =>
    rw [itemsFrom] at h
    split at h
    case h_1 value hitem =>
      intro n hn
      cases n with
      | zero => exact sameKey_of_itemAt hitem
      | succ n =>
        have hrest := ih h n (by omega)
        rwa [Nat.add_right_comm, Nat.add_assoc] at hrest
    case h_2 => cases h

/-- The items of an object always end with a fault: one of the keys 0, 1, 2 and so on is missing. -/
theorem fault?_itemsFrom_ne_none (items : Entries) (start : Nat) :
    (itemsFrom items start (items.length + 1)).fault? ≠ none := by
  intro h
  have hle := le_length_of_consecutive (consecutive_of_itemsFrom h)
  omega

end Emptiness.Value
