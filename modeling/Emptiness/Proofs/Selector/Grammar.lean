import Emptiness.Proofs.Selector
import Emptiness.Proofs.Value.Integers
import Mathlib.Data.List.Forall2

/-!
# The grammar of selectors

Which values are selectors, and for which mask each of them stands: names, masks and flags by themselves, sequences of
those, and mappings with one of these under `type`. Nothing nests deeper. The grammar also says which part of a value
is to blame if the value is no selector. Reducing a selector to its mask follows this grammar: it gives a mask exactly
where the grammar does, and otherwise the literal of the part that is to blame.
-/

namespace Emptiness.Selector

/-- A value that names rules by itself: a mask or flags within the rules, or a known name. -/
inductive Names : Value → Nat → Prop
  | mask {m : Nat} (hrules : m ≤ 2047) : Names (.int m) m
  | flags {m : Nat} {naming : FlagNaming} (hrules : m ≤ 2047) : Names (.flags m naming) m
  | name {text : Text} {name : RuleName} (hknown : RuleName.find? text = some name) : Names (.text text) name.mask

/-- A selector and the mask that it stands for. A mapping within a mapping stands for nothing. -/
inductive Selects : Value → Nat → Prop
  | nothing : Selects .null defaultMask
  | scalar {v : Value} {m : Nat} (hnames : Names v m) : Selects v m
  | sequence {kind : SequenceKind} {items : List Value} {masks : List Nat} (hitems : List.Forall₂ Names items masks) :
      Selects (.sequence kind items) (masks.foldl (· ||| ·) 0)
  | untyped {v : Value} {entries : Entries} (hread : v.entries? = .ok (some entries))
      (hnone : Entries.find? entries (.text selectorKey) = none) : Selects v defaultMask
  | typed {v inner : Value} {entries : Entries} {m : Nat} (hread : v.entries? = .ok (some entries))
      (hsome : Entries.find? entries (.text selectorKey) = some inner) (hflat : inner.entries? = .ok none)
      (hinner : Selects inner m) : Selects v m

/-- A value that is no selector, and the part of it that is to blame. Of a list or a tuple this is the first item that
names no rules; a set has no first item. -/
inductive Blames : Value → Value → Prop
  | scalar {v : Value} (hnull : v ≠ .null) (hsequence : ∀ kind items, v ≠ .sequence kind items)
      (hflat : v.entries? = .ok none) (hbad : ∀ m, ¬ Names v m) : Blames v v
  | item {kind : SequenceKind} {before after : List Value} {bad : Value} (hordered : kind = .list ∨ kind = .tuple)
      (hbefore : ∀ item ∈ before, ∃ m, Names item m) (hbad : ∀ m, ¬ Names bad m) :
      Blames (.sequence kind (before ++ bad :: after)) bad
  | element {kind : SequenceKind} {items : List Value} {bad : Value} (hunordered : kind = .set ∨ kind = .frozenset)
      (hmem : bad ∈ items) (hbad : ∀ m, ¬ Names bad m) : Blames (.sequence kind items) bad
  | nested {v inner : Value} {entries deeper : Entries} (hread : v.entries? = .ok (some entries))
      (hsome : Entries.find? entries (.text selectorKey) = some inner) (hnested : inner.entries? = .ok (some deeper)) :
      Blames v inner
  | typed {v inner part : Value} {entries : Entries} (hread : v.entries? = .ok (some entries))
      (hsome : Entries.find? entries (.text selectorKey) = some inner) (hflat : inner.entries? = .ok none)
      (hinner : Blames inner part) : Blames v part

/-- Neither a value nor the selector in it fails when it is read as a mapping. -/
structure ReadsSafely (v : Value) : Prop where
  outer : ∀ fault, v.entries? ≠ .error fault
  inner : ∀ entries inner, v.entries? = .ok (some entries) →
    Entries.find? entries (.text selectorKey) = some inner → ∀ fault, inner.entries? ≠ .error fault

/-- An integer is a mask if it lies within the rules. -/
theorem maskOfInt?_eq_some_iff {i : Int} {m : Nat} : maskOfInt? i = some m ↔ i = m ∧ m ≤ 2047 := by
  have hfull : fullMask = 2047 := rfl
  rw [maskOfInt?, hfull]
  split <;> simp only [Option.some.injEq, reduceCtorEq, false_iff] <;> omega

/-- A mask is read off exactly the values that name rules. -/
theorem scalarMask?_eq_some_iff {v : Value} {m : Nat} : scalarMask? v = some m ↔ Names v m := by
  constructor
  · intro h
    unfold scalarMask? at h
    split at h
    · obtain ⟨rfl, hrules⟩ := maskOfInt?_eq_some_iff.mp h
      exact .mask hrules
    · obtain ⟨hmask, hrules⟩ := maskOfInt?_eq_some_iff.mp h
      cases Int.ofNat_inj.mp hmask
      exact .flags hrules
    · obtain ⟨name, hknown, rfl⟩ := Option.map_eq_some_iff.mp h
      exact .name hknown
    · cases h
  · intro h
    cases h with
    | mask hrules => exact maskOfInt?_eq_some_iff.mpr ⟨rfl, hrules⟩
    | flags hrules => exact maskOfInt?_eq_some_iff.mpr ⟨rfl, hrules⟩
    | name hknown => exact Option.map_eq_some_iff.mpr ⟨_, hknown, rfl⟩

/-- A value that names rules gives their mask. -/
theorem scalarMask_of_names {v : Value} {m : Nat} (h : Names v m) : scalarMask v = .ok m := by
  rw [scalarMask, scalarMask?_eq_some_iff.mpr h]

/-- A value that names no rules is unknown. -/
theorem scalarMask_of_not_names {v : Value} (h : ∀ m, ¬ Names v m) : scalarMask v = .error (unknown v) := by
  have hnone : scalarMask? v = none :=
    Option.eq_none_iff_forall_not_mem.mpr fun m hm => h m (scalarMask?_eq_some_iff.mp hm)
  rw [scalarMask, hnone]

/-- Items that all name rules give the union of their masks. -/
theorem unionMask_of_names {items : List Value} {masks : List Nat} (h : List.Forall₂ Names items masks) (start : Nat) :
    unionMask start items = .ok (masks.foldl (· ||| ·) start) := by
  induction h generalizing start with
  | nil => rfl
  | cons hitem _ ih =>
    rw [unionMask, scalarMask_of_names hitem]
    exact ih _

/-- The first item that names no rules is unknown, whatever follows it. -/
theorem unionMask_of_first {before after : List Value} {bad : Value} (hbefore : ∀ item ∈ before, ∃ m, Names item m)
    (hbad : ∀ m, ¬ Names bad m) (start : Nat) : unionMask start (before ++ bad :: after) = .error (unknown bad) := by
  induction before generalizing start with
  | nil =>
    rw [List.nil_append, unionMask, scalarMask_of_not_names hbad]
    rfl
  | cons item rest ih =>
    rw [List.forall_mem_cons] at hbefore
    obtain ⟨⟨m, hnames⟩, hrest⟩ := hbefore
    rw [List.cons_append, unionMask, scalarMask_of_names hnames]
    exact ih hrest _

/-- Either all items name rules, or there is a first that does not. -/
theorem names_or_first (items : List Value) :
    (∃ masks, List.Forall₂ Names items masks) ∨
      ∃ before bad after, items = before ++ bad :: after ∧ (∀ item ∈ before, ∃ m, Names item m) ∧
        ∀ m, ¬ Names bad m := by
  induction items with
  | nil => exact .inl ⟨[], .nil⟩
  | cons item rest ih =>
    by_cases hitem : ∃ m, Names item m
    · obtain ⟨m, hnames⟩ := hitem
      rcases ih with ⟨masks, hmasks⟩ | ⟨before, bad, after, rfl, hbefore, hbad⟩
      · exact .inl ⟨m :: masks, .cons hnames hmasks⟩
      · exact .inr ⟨item :: before, bad, after, rfl, List.forall_mem_cons.mpr ⟨⟨m, hnames⟩, hbefore⟩, hbad⟩
    · exact .inr ⟨[], item, rest, rfl, fun _ h => (List.not_mem_nil h).elim, not_exists.mp hitem⟩

/-- What is no mapping selects a mask, or a part of it is unknown. -/
theorem plainMask_cases {v : Value} (hflat : v.entries? = .ok none) :
    (∃ m, Selects v m ∧ plainMask v = .ok m) ∨ ∃ part, Blames v part ∧ plainMask v = .error (unknown part) := by
  unfold plainMask
  split
  case h_1 => exact .inl ⟨_, .nothing, rfl⟩
  case h_2 kind items =>
    rcases names_or_first items with ⟨masks, hmasks⟩ | ⟨before, bad, after, rfl, hbefore, hbad⟩
    · exact .inl ⟨_, .sequence hmasks, unionMask_of_names hmasks 0⟩
    · have hmem : bad ∈ before ++ bad :: after := List.mem_append_right _ List.mem_cons_self
      refine .inr ⟨bad, ?_, unionMask_of_first hbefore hbad 0⟩
      cases kind with
      | list => exact .item (.inl rfl) hbefore hbad
      | tuple => exact .item (.inr rfl) hbefore hbad
      | set => exact .element (.inl rfl) hmem hbad
      | frozenset => exact .element (.inr rfl) hmem hbad
  case h_3 hnull hsequence =>
    by_cases hv : ∃ m, Names v m
    · obtain ⟨m, hnames⟩ := hv
      exact .inl ⟨m, .scalar hnames, scalarMask_of_names hnames⟩
    · have hbad : ∀ m, ¬ Names v m := not_exists.mp hv
      exact .inr ⟨v, .scalar hnull hsequence hflat hbad, scalarMask_of_not_names hbad⟩

/-- What is no mapping gives the mask that it stands for. -/
theorem plainMask_of_selects {v : Value} {m : Nat} (hflat : v.entries? = .ok none) (h : Selects v m) :
    plainMask v = .ok m := by
  cases h with
  | nothing => rfl
  | scalar hnames =>
    have hmask := scalarMask_of_names hnames
    cases hnames <;> exact hmask
  | sequence hitems => exact unionMask_of_names hitems 0
  | untyped hread => cases hflat.symm.trans hread
  | typed hread => cases hflat.symm.trans hread

/-- What is no mapping is read as it stands. -/
theorem mask_of_flat {v : Value} (hflat : v.entries? = .ok none) : mask v = plainMask v := by
  simp only [mask, hflat, bind, Except.bind]

/-- A sequence stands for the union of what its items name. -/
theorem mask_sequence (kind : SequenceKind) (items : List Value) : mask (.sequence kind items) = unionMask 0 items :=
  rfl

/-- A mapping without a selector stands for the default rules. -/
theorem mask_of_untyped {v : Value} {entries : Entries} (hread : v.entries? = .ok (some entries))
    (hnone : Entries.find? entries (.text selectorKey) = none) : mask v = .ok defaultMask := by
  simp only [mask, hread, hnone, bind, Except.bind, pure, Except.pure]

/-- A mapping stands for what the selector in it stands for, if that is no mapping again. -/
theorem mask_of_typed {v inner : Value} {entries : Entries} (hread : v.entries? = .ok (some entries))
    (hsome : Entries.find? entries (.text selectorKey) = some inner) (hflat : inner.entries? = .ok none) :
    mask v = plainMask inner := by
  simp only [mask, hread, hsome, hflat, bind, Except.bind]

/-- A mapping within a mapping is unknown. -/
theorem mask_of_nested {v inner : Value} {entries deeper : Entries} (hread : v.entries? = .ok (some entries))
    (hsome : Entries.find? entries (.text selectorKey) = some inner) (hnested : inner.entries? = .ok (some deeper)) :
    mask v = .error (unknown inner) := by
  simp only [mask, hread, hsome, hnested, bind, Except.bind, throw, throwThe, MonadExceptOf.throw]

/-- A selector gives the mask that it stands for. -/
theorem mask_of_selects {v : Value} {m : Nat} (h : Selects v m) : mask v = .ok m := by
  cases h with
  | nothing => rfl
  | scalar hnames =>
    have hflat : v.entries? = .ok none := by cases hnames <;> rfl
    rw [mask_of_flat hflat, plainMask_of_selects hflat (.scalar hnames)]
  | sequence hitems => exact unionMask_of_names hitems 0
  | untyped hread hnone => exact mask_of_untyped hread hnone
  | typed hread hsome hflat hinner => rw [mask_of_typed hread hsome hflat, plainMask_of_selects hflat hinner]

/-- What can be read selects a mask, or a part of it is unknown. -/
theorem mask_cases {v : Value} (hreads : ReadsSafely v) :
    (∃ m, Selects v m ∧ mask v = .ok m) ∨ ∃ part, Blames v part ∧ mask v = .error (unknown part) := by
  cases hread : v.entries? with
  | error fault => exact absurd hread (hreads.outer fault)
  | ok read =>
    cases read with
    | none =>
      rw [mask_of_flat hread]
      exact plainMask_cases hread
    | some entries =>
      cases hsome : Entries.find? entries (.text selectorKey) with
      | none => exact .inl ⟨_, .untyped hread hsome, mask_of_untyped hread hsome⟩
      | some inner =>
        cases hinner : inner.entries? with
        | error fault => exact absurd hinner (hreads.inner entries inner hread hsome fault)
        | ok deeper =>
          cases deeper with
          | some deeper => exact .inr ⟨inner, .nested hread hsome hinner, mask_of_nested hread hsome hinner⟩
          | none =>
            rw [mask_of_typed hread hsome hinner]
            rcases plainMask_cases hinner with ⟨m, hselects, hmask⟩ | ⟨part, hblames, hfault⟩
            · exact .inl ⟨m, .typed hread hsome hinner hselects, hmask⟩
            · exact .inr ⟨part, .typed hread hsome hinner hblames, hfault⟩

/-- The part that is to blame holds no integers but those of the value. -/
theorem Blames.integers_subset {v part : Value} (h : Blames v part) : part.integers ⊆ v.integers := by
  have htyped {v inner : Value} {entries : Entries} (hread : v.entries? = .ok (some entries))
      (hsome : Entries.find? entries (.text selectorKey) = some inner) : inner.integers ⊆ v.integers := by
    obtain ⟨entry, hentry, rfl⟩ := Entries.mem_of_find? hsome
    exact Value.integers_subset_of_entries? hread entry hentry
  induction h with
  | scalar => exact List.Subset.refl _
  | item => exact Value.integers_subset_of_mem (List.mem_append_right _ List.mem_cons_self)
  | element _ hmem => exact Value.integers_subset_of_mem hmem
  | nested hread hsome => exact htyped hread hsome
  | typed hread hsome _ _ ih => exact List.Subset.trans ih (htyped hread hsome)

/-- Where the literal of a part exists, being unknown is a misconfiguration that shows it. -/
theorem unknown_of_literal {part : Value} {shown : String} (h : part.literal = .ok shown) :
    unknown part = .misconfigured (.unknownRule shown) := by
  rw [unknown, Value.faultWith, h]

/-- A selector is reduced to a mask exactly where the grammar gives one, and to no other; any other value is refused
with the literal of the part that is to blame. -/
theorem mask_follows_grammar {selector : Value} (hreads : ReadsSafely selector) (hshort : selector.HasShortIntegers) :
    (∀ m, mask selector = .ok m ↔ Selects selector m) ∧
      ((∀ m, ¬ Selects selector m) → ∃ part shown cause, Blames selector part ∧ part.literal = .ok shown ∧
        mask selector = .error (.misconfigured cause) ∧ cause.message = "Unknown type: " ++ shown) := by
  rcases mask_cases hreads with ⟨m, hselects, hmask⟩ | ⟨part, hblames, hfault⟩
  · refine ⟨fun other => ⟨fun hother => ?_, mask_of_selects⟩, fun hnone => absurd hselects (hnone m)⟩
    cases hmask.symm.trans hother
    exact hselects
  · refine ⟨fun m => ⟨fun hmask => ?_, mask_of_selects⟩, fun _ => ?_⟩
    · cases hfault.symm.trans hmask
    · obtain ⟨shown, hshown⟩ := part.literal_of_short fun i hi => hshort i (hblames.integers_subset hi)
      rw [unknown_of_literal hshown] at hfault
      exact ⟨part, shown, .unknownRule shown, hblames, hshown, hfault, rfl⟩

/-- A tuple with flags beyond all rules, under the `type` of an object that is read as a mapping, is refused for the
flags: the names before them are known, and the truth value after them is not reached. The literal of these flags lists
the rules, a composite of them, and the bits beyond. -/
theorem mask_of_object_blames_flags :
    let flags : Value := .flags 4223 .composites
    let items : Entries := [(.text "type", .tuple [.text " Zero", flags, .bool true])]
    let selector : Value := .object 0 ⟨"Config", none, none, some (.returns (.list [.text "type"])), some items⟩
    flags.literal = .ok "<EmptyType.BOOLEAN|INTEGER|FLOAT|STRING|ZERO|EMPTY_ARRAY|NULL|PHP|4096: 4223>" ∧
      ReadsSafely selector ∧ selector.HasShortIntegers ∧ (∀ m, ¬ Selects selector m) ∧
      ∃ part shown cause, Blames selector part ∧ part.literal = .ok shown ∧
        mask selector = .error (.misconfigured cause) ∧ cause.message = "Unknown type: " ++ shown := by
  intro flags items selector
  have hdigits : Value.IsShortInteger (4223 : Nat) := (by decide : (Number.digits 4223).length ≤ 4300)
  have hliteral : flags.literal =
      .ok "<EmptyType.BOOLEAN|INTEGER|FLOAT|STRING|ZERO|EMPTY_ARRAY|NULL|PHP|4096: 4223>" := by
    rw [Value.literal, Value.intText_of_short hdigits]
    rfl
  have hread : selector.entries? = .ok (some items) := rfl
  have hreads : ReadsSafely selector := by
    refine ⟨fun fault hfault => ?_, fun entries inner hentries hsome fault hfault => ?_⟩
    · cases hread.symm.trans hfault
    · cases hread.symm.trans hentries
      cases hsome
      cases hfault
  have hshort : selector.HasShortIntegers := by
    have hintegers : selector.integers = [((4223 : Nat) : Int)] := rfl
    rw [Value.HasShortIntegers, hintegers, List.forall_mem_singleton]
    exact hdigits
  have hfault : mask selector = .error (unknown flags) := rfl
  have hnone : ∀ m, ¬ Selects selector m := fun m hselects => by
    cases hfault.symm.trans (((mask_follows_grammar hreads hshort).1 m).mpr hselects)
  exact ⟨hliteral, hreads, hshort, hnone, (mask_follows_grammar hreads hshort).2 hnone⟩

end Emptiness.Selector
