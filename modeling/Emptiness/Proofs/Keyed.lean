/-!
# Values under keys

Entries, options, messages and members of objects are put in one way: a key that is there already keeps its place, and
a new one goes to the end. What this does to the keys and values does not depend on what they are, only on which keys
count as the same.
-/

namespace Emptiness

variable {κ β : Type} {same : κ → κ → Bool} {pairs : List (κ × β)}

/-- Put a value under a key, where some keys count as the same. -/
def putUnder (same : κ → κ → Bool) : List (κ × β) → κ → β → List (κ × β)
  | [], key, value => [(key, value)]
  | (known, old) :: rest, key, value =>
    if same known key then (known, value) :: rest else (known, old) :: putUnder same rest key value

/-- What holds of all keys and of the key that is put holds of all keys afterwards. -/
theorem forall_key_putUnder (P : κ → Prop) {key : κ} (value : β) (hpairs : ∀ pair ∈ pairs, P pair.1) (hkey : P key) :
    ∀ pair ∈ putUnder same pairs key value, P pair.1 := by
  induction pairs with
  | nil => simpa [putUnder] using hkey
  | cons first rest ih =>
    rw [List.forall_mem_cons] at hpairs
    rw [putUnder]
    split
    · exact List.forall_mem_cons.mpr hpairs
    · exact List.forall_mem_cons.mpr ⟨hpairs.1, ih hpairs.2⟩

/-- What holds of all values and of the value that is put holds of all values afterwards. -/
theorem forall_value_putUnder (P : β → Prop) (key : κ) {value : β} (hpairs : ∀ pair ∈ pairs, P pair.2)
    (hvalue : P value) : ∀ pair ∈ putUnder same pairs key value, P pair.2 := by
  induction pairs with
  | nil => simpa [putUnder] using hvalue
  | cons first rest ih =>
    rw [List.forall_mem_cons] at hpairs
    rw [putUnder]
    split
    · exact List.forall_mem_cons.mpr ⟨hvalue, hpairs.2⟩
    · exact List.forall_mem_cons.mpr ⟨hpairs.1, ih hpairs.2⟩

/-- A value under a new key goes to the end. -/
theorem putUnder_of_new {key : κ} (h : ∀ pair ∈ pairs, same pair.1 key = false) (value : β) :
    putUnder same pairs key value = pairs ++ [(key, value)] := by
  induction pairs with
  | nil => rfl
  | cons first rest ih =>
    rw [List.forall_mem_cons] at h
    rw [putUnder, if_neg (Bool.eq_false_iff.mp h.1), ih h.2, List.cons_append]

/-- Putting a value keeps the keys different. -/
theorem pairwise_putUnder (h : pairs.Pairwise fun earlier later => same earlier.1 later.1 = false) (key : κ)
    (value : β) : (putUnder same pairs key value).Pairwise fun earlier later => same earlier.1 later.1 = false := by
  induction pairs with
  | nil => exact List.pairwise_singleton _ _
  | cons first rest ih =>
    obtain ⟨hfirst, hrest⟩ := List.pairwise_cons.mp h
    rw [putUnder]
    split
    case isTrue => exact List.pairwise_cons.mpr ⟨hfirst, hrest⟩
    case isFalse hother =>
      have hnew : same first.1 key = false := Bool.eq_false_iff.mpr hother
      exact List.pairwise_cons.mpr ⟨forall_key_putUnder (fun known => same first.1 known = false) value hfirst hnew,
        ih hrest⟩

/-- Values under different keys are put in their order. -/
theorem foldl_putUnder {done : List (κ × β)}
    (h : (done ++ pairs).Pairwise fun earlier later => same earlier.1 later.1 = false) :
    pairs.foldl (fun all pair => putUnder same all pair.1 pair.2) done = done ++ pairs := by
  induction pairs generalizing done with
  | nil => exact (List.append_nil done).symm
  | cons pair rest ih =>
    have hnew : ∀ old ∈ done, same old.1 pair.1 = false := fun old hold =>
      (List.pairwise_append.mp h).2.2 old hold pair List.mem_cons_self
    rw [List.append_cons] at h
    rw [List.foldl_cons, putUnder_of_new hnew, ih h, ← List.append_cons]

variable [BEq κ] [LawfulBEq κ]

/-- Put a value under a key that counts as itself only. -/
abbrev putUnderKey : List (κ × β) → κ → β → List (κ × β) :=
  putUnder BEq.beq

/-- Keys that count as themselves only are different if no key comes twice. -/
theorem pairwise_iff_nodup :
    (pairs.Pairwise fun earlier later => (earlier.1 == later.1) = false) ↔ (pairs.map (·.1)).Nodup := by
  rw [List.nodup_iff_pairwise_ne, List.pairwise_map]
  simp only [beq_eq_false_iff_ne]

/-- Putting a value leaves each key once. -/
theorem nodup_putUnderKey (h : (pairs.map (·.1)).Nodup) (key : κ) (value : β) :
    ((putUnderKey pairs key value).map (·.1)).Nodup := by
  rw [← pairwise_iff_nodup] at h ⊢
  exact pairwise_putUnder h key value

/-- Values under keys that come once are put in their order. -/
theorem foldl_putUnderKey (h : (pairs.map (·.1)).Nodup) :
    pairs.foldl (fun all pair => putUnderKey all pair.1 pair.2) [] = pairs :=
  foldl_putUnder (pairwise_iff_nodup.mpr h)

variable [DecidableEq κ]

/-- A value goes under the first key that is its own. -/
theorem putUnderKey_cons (known key : κ) (old value : β) :
    putUnderKey ((known, old) :: pairs) key value =
      if known = key then (known, value) :: pairs else (known, old) :: putUnderKey pairs key value := by
  rw [putUnderKey, putUnder]
  simp only [beq_iff_eq]

/-- The first value under a key is found. -/
theorem lookup_cons_eq (known key : κ) (old : β) :
    ((known, old) :: pairs).lookup key = if known = key then some old else pairs.lookup key := by
  by_cases h : known = key
  · rw [if_pos h, h, List.lookup_cons_self]
  · have hother : (key == known) = false := beq_eq_false_iff_ne.mpr (Ne.symm h)
    rw [if_neg h, List.lookup_cons, hother]

/-- A value that is put is found under its key, and what is under other keys stays. -/
theorem lookup_putUnderKey (pairs : List (κ × β)) (key other : κ) (value : β) :
    (putUnderKey pairs key value).lookup other = if key = other then some value else pairs.lookup other := by
  induction pairs with
  | nil => exact lookup_cons_eq key other value
  | cons first rest ih =>
    obtain ⟨known, old⟩ := first
    rw [putUnderKey_cons]
    by_cases hknown : known = key
    · subst hknown
      rw [if_pos rfl, lookup_cons_eq, lookup_cons_eq]
      by_cases hother : known = other
      · rw [if_pos hother, if_pos hother]
      · rw [if_neg hother, if_neg hother, if_neg hother]
    · rw [if_neg hknown, lookup_cons_eq, lookup_cons_eq, ih]
      by_cases hother : known = other
      · rw [if_pos hother, if_pos hother, if_neg (hother ▸ Ne.symm hknown)]
      · rw [if_neg hother, if_neg hother]

/-- Of values that are put one after the other, the last one under a key is found. -/
theorem lookup_foldl_putUnderKey (pairs more : List (κ × β)) (key : κ) :
    (more.foldl (fun all pair => putUnderKey all pair.1 pair.2) pairs).lookup key =
      (more.reverse.lookup key).or (pairs.lookup key) := by
  induction more generalizing pairs with
  | nil => rfl
  | cons pair rest ih =>
    rw [List.foldl_cons, ih, lookup_putUnderKey, List.reverse_cons, List.lookup_append, Option.or_assoc, lookup_cons_eq]
    by_cases h : pair.1 = key
    · rw [if_pos h, if_pos h]
      rfl
    · rw [if_neg h, if_neg h]
      rfl

/-- Under keys that come once, the same values are found from the end as from the start. -/
theorem lookup_reverse (h : (pairs.map (·.1)).Nodup) (key : κ) : pairs.reverse.lookup key = pairs.lookup key := by
  have hfound := lookup_foldl_putUnderKey [] pairs key
  rw [foldl_putUnderKey h] at hfound
  rw [hfound]
  exact Option.or_none.symm

end Emptiness
