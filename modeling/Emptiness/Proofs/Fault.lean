import Emptiness.Fault

/-!
# Outcomes that may be faults

How a result or a fault of a composed step comes from its parts, and how results of parts make one of the whole.
-/

namespace Emptiness

variable {ε α β γ : Type}

/-- A step that is followed by another succeeds only if both do. -/
theorem bind_eq_ok {first : Except ε α} {next : α → Except ε β} {b : β} (h : first >>= next = .ok b) :
    ∃ a, first = .ok a ∧ next a = .ok b := by
  cases first with
  | error fault => cases h
  | ok a => exact ⟨a, rfl, h⟩

/-- A step that is followed by another ends with a fault only if one of them does. -/
theorem bind_eq_error {first : Except ε α} {next : α → Except ε β} {fault : ε} (h : first >>= next = .error fault) :
    first = .error fault ∨ ∃ a, first = .ok a ∧ next a = .error fault := by
  cases first with
  | error cause =>
    cases h
    exact .inl rfl
  | ok a => exact .inr ⟨a, rfl, h⟩

/-- A mapped result comes from a result. -/
theorem map_eq_ok {answer : Except ε α} {f : α → β} {b : β} (h : answer.map f = .ok b) :
    ∃ a, answer = .ok a ∧ f a = b := by
  cases answer with
  | error fault => cases h
  | ok a =>
    cases h
    exact ⟨a, rfl, rfl⟩

/-- Only a fault is a fault after its result would have been mapped. -/
theorem map_eq_error {answer : Except ε α} {f : α → β} {fault : ε} (h : answer.map f = .error fault) :
    answer = .error fault := by
  cases answer with
  | error cause =>
    cases h
    rfl
  | ok a => cases h

/-- An outcome that counts as a result is one. -/
theorem exists_eq_ok {answer : Except ε α} (h : answer.isOk = true) : ∃ a, answer = .ok a := by
  cases answer with
  | error fault => cases h
  | ok a => exact ⟨a, rfl⟩

/-- A step that succeeds on each item of a list succeeds on all of them in turn. -/
theorem mapM_map_eq_ok {start : γ → α} {step : α → Except ε β} {result : γ → β} {items : List γ}
    (h : ∀ item ∈ items, step (start item) = .ok (result item)) :
    (items.map start).mapM step = .ok (items.map result) := by
  induction items with
  | nil => rfl
  | cons item rest ih =>
    rw [List.forall_mem_cons] at h
    rw [List.map_cons, List.mapM_cons, h.1, ih h.2]
    rfl

/-- Steps on the items of a list in turn succeed only if each of them does. -/
theorem forall_mem_of_mapM_eq_ok {step : α → Except ε β} {items : List α} {results : List β}
    (h : items.mapM step = .ok results) : ∀ item ∈ items, ∃ b, step item = .ok b := by
  induction items generalizing results with
  | nil => exact nofun
  | cons first rest ih =>
    rw [List.mapM_cons] at h
    obtain ⟨b, hfirst, h⟩ := bind_eq_ok h
    obtain ⟨more, hrest, -⟩ := bind_eq_ok h
    exact List.forall_mem_cons.mpr ⟨⟨b, hfirst⟩, ih hrest⟩

/-- Steps on the items of a list in turn end with a fault if one of them does, and with the fault of the first. -/
theorem mapM_eq_error_iff {step : α → Except ε β} {items : List α} {fault : ε} :
    items.mapM step = .error fault ↔
      ∃ before item after, items = before ++ item :: after ∧ (∀ other ∈ before, ∃ b, step other = .ok b) ∧
        step item = .error fault := by
  induction items with
  | nil =>
    refine iff_of_false nofun ?_
    rintro ⟨before, item, after, hsplit, -⟩
    cases before <;> cases hsplit
  | cons first rest ih =>
    rw [List.mapM_cons]
    constructor
    · intro h
      obtain hfirst | ⟨b, hfirst, h⟩ := bind_eq_error h
      · exact ⟨[], first, rest, rfl, nofun, hfirst⟩
      · obtain hrest | ⟨_, -, h⟩ := bind_eq_error h
        · obtain ⟨before, item, after, rfl, hbefore, hitem⟩ := ih.mp hrest
          exact ⟨first :: before, item, after, rfl, List.forall_mem_cons.mpr ⟨⟨b, hfirst⟩, hbefore⟩, hitem⟩
        · cases h
    · rintro ⟨before, item, after, hsplit, hbefore, hitem⟩
      cases before with
      | nil =>
        cases hsplit
        rw [hitem]
        rfl
      | cons other before =>
        cases hsplit
        rw [List.forall_mem_cons] at hbefore
        obtain ⟨⟨b, hother⟩, hbefore⟩ := hbefore
        rw [hother, ih.mpr ⟨before, item, after, rfl, hbefore, hitem⟩]
        rfl

end Emptiness
