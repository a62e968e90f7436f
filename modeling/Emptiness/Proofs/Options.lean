import Emptiness.Proofs.Fault
import Emptiness.Proofs.Value.Entries
import Emptiness.Selector

/-!
# Options and the entries they come from

Options that are written out as the entries of a mapping are read back as the same options, apart from the selector:
each name is a text already, so nothing is lost when it is written, and names that differ keep their order. Of options
that are put over others the later ones are found, and a name is removed from both.
-/

namespace Emptiness.Options

/-- Options as the entries of a mapping. -/
def toEntries (options : Options) : Entries :=
  options.map fun option => (.text option.1, option.2)

/-- Entries under texts are options that are written out. -/
theorem exists_toEntries {entries : Entries} (h : ∀ entry ∈ entries, ∃ name, entry.1 = .text name) :
    ∃ options : Options, options.toEntries = entries := by
  induction entries with
  | nil => exact ⟨[], rfl⟩
  | cons entry rest ih =>
    obtain ⟨key, value⟩ := entry
    rw [List.forall_mem_cons] at h
    obtain ⟨name, hname⟩ := h.1
    obtain ⟨options, hoptions⟩ := ih h.2
    refine ⟨(name, value) :: options, ?_⟩
    rw [toEntries, List.map_cons, ← toEntries, hoptions, ← hname]

/-- The entries of options have different keys exactly if the options have different names. -/
theorem distinct_toEntries_iff {options : Options} : options.toEntries.Distinct ↔ (options.map (·.1)).Nodup := by
  have hkeys (a b : Text) : Value.sameKey (.text a) (.text b) = false ↔ a ≠ b := by
    rw [Bool.eq_false_iff, ne_eq, Value.sameKey_text, Value.text.injEq]
  rw [Entries.Distinct, toEntries, List.pairwise_map, List.nodup_iff_pairwise_ne, List.pairwise_map]
  simp only [hkeys]

/-- Options are found in the entries that they are written out as. -/
theorem find?_toEntries (options : Options) (name : Text) :
    Entries.find? options.toEntries (.text name) = options.get? name := by
  induction options with
  | nil => rfl
  | cons option rest ih =>
    rw [toEntries, List.map_cons, Entries.find?_cons, ← toEntries, ih, get?, get?, lookup_cons_eq]
    simp only [Value.sameKey_text, Value.text.injEq]

/-- Removing an option that is not there changes nothing. -/
theorem remove_of_absent {options : Options} {name : Text} (h : options.get? name = none) :
    options.remove name = options := by
  refine List.filter_eq_self.mpr fun option hoption => ?_
  have hname : (name == option.1) = false := by simpa using List.lookup_eq_none_iff.mp h option hoption
  rw [bne_comm, bne, hname, Bool.not_false]

/-- Options are put under their names. -/
theorem put_eq (options : Options) (name : Text) (value : Value) :
    options.put name value = putUnderKey options name value := by
  induction options with
  | nil => rfl
  | cons first rest ih => rw [put, putUnderKey_cons, ih]

/-- Options are put under their names, one after the other. -/
theorem putAll_eq (options more : Options) :
    options.putAll more = more.foldl (fun done option => putUnderKey done option.1 option.2) options := by
  simp only [putAll, put_eq]

/-- Putting options leaves each name once. -/
theorem nodup_putAll {options : Options} (h : (options.map (·.1)).Nodup) (more : Options) :
    ((options.putAll more).map (·.1)).Nodup := by
  induction more generalizing options with
  | nil => exact h
  | cons option rest ih =>
    have hput := nodup_putUnderKey h option.1 option.2
    rw [← put_eq] at hput
    exact ih hput

/-- Of options that are put over others, the later ones are found first. -/
theorem get?_putAll (options : Options) {more : Options} (h : (more.map (·.1)).Nodup) (name : Text) :
    (options.putAll more).get? name = (more.get? name).or (options.get? name) := by
  rw [putAll_eq, get?, lookup_foldl_putUnderKey, lookup_reverse h]
  rfl

/-- The first option goes if it has the name that is removed. -/
theorem remove_cons (known : Text) (old : Value) (rest : Options) (name : Text) :
    remove ((known, old) :: rest) name =
      if known = name then rest.remove name else (known, old) :: rest.remove name := by
  by_cases h : known = name
  · rw [if_pos h]
    exact List.filter_cons_of_neg (by simpa using h)
  · rw [if_neg h]
    exact List.filter_cons_of_pos (by simpa using h)

/-- An option that is put goes again if it has the name that is removed. -/
theorem remove_put (options : Options) (name other : Text) (value : Value) :
    (options.put name value).remove other =
      if name = other then options.remove other else (options.remove other).put name value := by
  induction options with
  | nil => exact remove_cons name value [] other
  | cons first rest ih =>
    obtain ⟨known, old⟩ := first
    rw [put, remove_cons]
    by_cases hknown : known = name
    · subst hknown
      rw [if_pos rfl, remove_cons]
      by_cases hother : known = other
      · rw [if_pos hother, if_pos hother, if_pos hother]
      · rw [if_neg hother, if_neg hother, if_neg hother, put, if_pos rfl]
    · rw [if_neg hknown, remove_cons, ih]
      by_cases hother : known = other
      · rw [if_pos hother, if_pos hother]
      · rw [if_neg hother, if_neg hother, put, if_neg hknown]
        split <;> rfl

/-- A name is removed from options that are put over others by removing it from both. -/
theorem remove_putAll (options more : Options) (name : Text) :
    (options.putAll more).remove name = (options.remove name).putAll (more.remove name) := by
  induction more generalizing options with
  | nil => rfl
  | cons option rest ih =>
    obtain ⟨known, value⟩ := option
    have hrest := ih (options.put known value)
    rw [remove_put] at hrest
    rw [remove_cons]
    split
    case isTrue h =>
      rw [if_pos h] at hrest
      exact hrest
    case isFalse h =>
      rw [if_neg h] at hrest
      exact hrest

/-- An option is not there once it is removed. -/
theorem get?_remove_self (options : Options) (name : Text) : (options.remove name).get? name = none := by
  refine List.lookup_eq_none_iff.mpr fun option hoption => ?_
  rw [bne_comm]
  exact (List.mem_filter.mp hoption).2

/-- Options under different names are put in their order. -/
theorem putAll_nil {options : Options} (h : (options.map (·.1)).Nodup) : putAll [] options = options := by
  rw [putAll_eq]
  exact foldl_putUnderKey h

/-- Options that are written out as entries are read back, apart from the selector. -/
theorem ofEntries_toEntries (done options : Options) :
    ofEntries done options.toEntries = .ok (done.putAll (options.remove selectorKey)) := by
  induction options generalizing done with
  | nil => rfl
  | cons option rest ih =>
    obtain ⟨name, value⟩ := option
    rw [toEntries, List.map_cons, ofEntries, remove]
    by_cases hname : name = selectorKey
    · rw [if_pos (Value.sameKey_text.mpr (congrArg Value.text hname)), List.filter_cons_of_neg (by simpa using hname)]
      exact ih done
    · have hother : ¬ Value.sameKey (.text name) (.text selectorKey) = true := fun hsame =>
        hname (Value.text.inj (Value.sameKey_text.mp hsame))
      rw [if_neg hother, List.filter_cons_of_pos (by simpa using hname)]
      exact ih (done.put name value)

end Emptiness.Options
