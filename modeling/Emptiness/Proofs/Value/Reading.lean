import Emptiness.Proofs.Fault
import Emptiness.Value.Mapping

/-!
# Where reading as a mapping fails

Mappings are always read, and values that are no mappings are never asked. Only a foreign object that lists its keys and
gives the item under a key can fail to be read: when the keys are asked for, when what is listed is gone through, or at
the first key that the object refuses. The fault of reading is the fault of that moment.
-/

namespace Emptiness.Value

/-- An object that lists keys and gives items fails with this fault while it is read as a mapping. -/
inductive FailsToRead : Value → Fault → Prop
  | keys {identity : Nat} {members : Members Value} {items : Entries} {fault : Fault}
      (hitems : members.items = some items) (hkeys : members.keys = some (.raises fault)) :
      FailsToRead (.object identity members) fault
  | listing {identity : Nat} {members : Members Value} {items : Entries} {listed : Value} {fault : Fault}
      (hitems : members.items = some items) (hkeys : members.keys = some (.returns listed))
      (hlisted : listed.elements (items.length + 1) = .error fault) : FailsToRead (.object identity members) fault
  | item {identity : Nat} {members : Members Value} {items : Entries} {listed key : Value} {found : Elements}
      {before after : List Value} {fault : Fault}
      (hitems : members.items = some items) (hkeys : members.keys = some (.returns listed))
      (hlisted : listed.elements (items.length + 1) = .ok found) (hsplit : found.items = before ++ key :: after)
      (hbefore : ∀ earlier ∈ before, ∃ value, itemAt items earlier = .ok value)
      (hrefused : itemAt items key = .error fault) : FailsToRead (.object identity members) fault
  | ending {identity : Nat} {members : Members Value} {items : Entries} {listed : Value} {found : Elements}
      {fault : Fault} (hitems : members.items = some items) (hkeys : members.keys = some (.returns listed))
      (hlisted : listed.elements (items.length + 1) = .ok found)
      (hall : ∀ key ∈ found.items, ∃ value, itemAt items key = .ok value) (hend : found.fault? = some fault) :
      FailsToRead (.object identity members) fault

/-- The first key that an object refuses ends the reading of its items. -/
theorem readKeys_of_refused {items : Entries} {before after : List Value} {key : Value} {fault : Fault}
    (hbefore : ∀ earlier ∈ before, ∃ value, itemAt items earlier = .ok value)
    (hrefused : itemAt items key = .error fault) (done : Entries) :
    readKeys items done (before ++ key :: after) = .error fault := by
  induction before generalizing done with
  | nil =>
    rw [List.nil_append, readKeys, hrefused]
    rfl
  | cons earlier rest ih =>
    rw [List.forall_mem_cons] at hbefore
    obtain ⟨⟨value, hvalue⟩, hrest⟩ := hbefore
    rw [List.cons_append, readKeys, hvalue]
    exact ih hrest _

/-- An object gives its items under all keys of a list, or there is a first key that it refuses. -/
theorem readKeys_cases (items done : Entries) (keys : List Value) :
    (∀ key ∈ keys, ∃ value, itemAt items key = .ok value) ∧ (∃ entries, readKeys items done keys = .ok entries) ∨
      ∃ before key after fault, keys = before ++ key :: after ∧
        (∀ earlier ∈ before, ∃ value, itemAt items earlier = .ok value) ∧ itemAt items key = .error fault := by
  induction keys generalizing done with
  | nil => exact .inl ⟨nofun, done, rfl⟩
  | cons key rest ih =>
    cases hkey : itemAt items key with
    | error fault => exact .inr ⟨[], key, rest, fault, rfl, nofun, hkey⟩
    | ok value =>
      rcases ih (Entries.put done key value) with
        ⟨hall, entries, hread⟩ | ⟨before, refused, after, fault, hsplit, hbefore, hrefused⟩
      · refine .inl ⟨List.forall_mem_cons.mpr ⟨⟨value, hkey⟩, hall⟩, entries, ?_⟩
        rw [readKeys, hkey]
        exact hread
      · refine .inr ⟨key :: before, refused, after, fault, ?_, ?_, hrefused⟩
        · rw [hsplit, List.cons_append]
        · exact List.forall_mem_cons.mpr ⟨⟨value, hkey⟩, hbefore⟩

/-- An object that lists keys and gives items is read along what it lists, key by key, and then the listing itself may
turn out to have ended with a fault. -/
theorem entries?_object (identity : Nat) {members : Members Value} {items : Entries} {listed : Value}
    (hitems : members.items = some items) (hkeys : members.keys = some (.returns listed)) :
    entries? (.object identity members) = (listed.elements (items.length + 1)).bind fun found =>
      (readKeys items [] found.items).bind fun entries => found.fault?.elim (.ok (some entries)) .error := by
  obtain ⟨className, size, text, keys, given⟩ := members
  cases hitems
  cases hkeys
  unfold entries?
  refine congrArg (Except.bind (listed.elements (items.length + 1))) (funext fun found => ?_)
  refine congrArg (Except.bind (readKeys items [] found.items)) (funext fun entries => ?_)
  cases found.fault? <;> rfl

/-- What fails to be read gives the fault of that moment. -/
theorem FailsToRead.entries?_eq {v : Value} {fault : Fault} (h : FailsToRead v fault) : v.entries? = .error fault := by
  cases h with
  | @keys _ members _ _ hitems hkeys =>
    obtain ⟨className, size, text, keys, given⟩ := members
    cases hitems
    cases hkeys
    rfl
  | listing hitems hkeys hlisted =>
    rw [entries?_object _ hitems hkeys, hlisted]
    rfl
  | item hitems hkeys hlisted hsplit hbefore hrefused =>
    rw [entries?_object _ hitems hkeys, hlisted, Except.bind, hsplit, readKeys_of_refused hbefore hrefused]
    rfl
  | @ending _ _ items _ found _ hitems hkeys hlisted hall hend =>
    rw [entries?_object _ hitems hkeys, hlisted, Except.bind, hend]
    rcases readKeys_cases items [] found.items with
      ⟨-, entries, hread⟩ | ⟨before, key, after, cause, hsplit, -, hrefused⟩
    · rw [hread]
      rfl
    · obtain ⟨value, hvalue⟩ := hall key (hsplit ▸ List.mem_append_right _ List.mem_cons_self)
      cases hvalue.symm.trans hrefused

/-- A value fails to be read as a mapping exactly where a member of it does, and with the same fault. -/
theorem entries?_eq_error_iff {v : Value} {fault : Fault} : v.entries? = .error fault ↔ FailsToRead v fault := by
  refine ⟨fun h => ?_, FailsToRead.entries?_eq⟩
  unfold entries? at h
  split at h
  case h_1 => cases h
  case h_2 =>
    cases h
    exact .keys rfl rfl
  case h_3 listed items =>
    rcases bind_eq_error h with hlisted | ⟨found, hlisted, h⟩
    · exact .listing rfl rfl hlisted
    rcases readKeys_cases items [] found.items with
      ⟨hall, entries, hread⟩ | ⟨before, key, after, cause, hsplit, hbefore, hrefused⟩
    · rw [hread] at h
      cases hend : found.fault? with
      | none =>
        rw [hend] at h
        cases h
      | some cause =>
        rw [hend] at h
        cases h
        exact .ending rfl rfl hlisted hall hend
    · rw [hsplit, readKeys_of_refused hbefore hrefused] at h
      cases h
      exact .item rfl rfl hlisted hsplit hbefore hrefused
  case h_4 => cases h

end Emptiness.Value
