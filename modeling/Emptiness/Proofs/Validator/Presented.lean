import Emptiness.Proofs.Validator.Notation
import Emptiness.Proofs.Value.Elements
import Emptiness.Proofs.Value.Reading

/-!
# Mappings in every form

The same entries may be presented as a mapping of any kind, or by an object that lists their keys and gives the value
under each of them. All of these are read as the same entries in the same order, and nothing else about the form counts:
neither for the rules that are selected, nor for what a record is split into, nor for the validator that is built from
it.
-/

namespace Emptiness

namespace Value

/-- The value lists these keys when it is gone through, and then it ends, however many may be asked for. -/
def Lists (listed : Value) (keys : List Value) : Prop :=
  ∀ limit, keys.length ≤ limit → listed.elements limit = .ok ⟨keys, none⟩

/-- The value presents these entries: it is a mapping of them, or it lists their keys in this order and gives the value
under each of them. -/
inductive Presents : Value → Entries → Prop
  | mapping (kind : MappingKind) (entries : Entries) : Presents (.mapping kind entries) entries
  | object {identity : Nat} {members : Members Value} {items entries : Entries} {listed : Value}
      (hitems : members.items = some items) (hkeys : members.keys = some (.returns listed))
      (hlisted : listed.Lists (entries.map (·.1))) (hgives : ∀ entry ∈ entries, itemAt items entry.1 = .ok entry.2) :
      Presents (.object identity members) entries

/-- An object is asked for enough of the keys that are listed: if it has items under all of them, then they are no more
than its items. -/
theorem Lists.elements_eq {listed : Value} {keys : List Value} (h : listed.Lists keys) {items : Entries}
    (hgives : ∀ key ∈ keys, ∃ value, itemAt items key = .ok value) :
    listed.elements (items.length + 1) = .ok ⟨keys, none⟩ := by
  cases listed with
  | range stop =>
    -- only of a range no more is listed than is asked for
    have hkeys : keys = (List.range (min keys.length stop.toNat)).map fun n => .int (n : Nat) :=
      (congrArg Elements.items (Except.ok.inj (h keys.length (Nat.le_refl _)))).symm
    have hlength : keys.length = min keys.length stop.toNat := by simpa using congrArg List.length hkeys
    have hle : keys.length ≤ items.length := by
      refine @le_length_of_consecutive items 0 _ fun n hn => ?_
      have hmem : Value.int (n : Nat) ∈ keys := by
        rw [hkeys]
        exact List.mem_map.mpr ⟨n, List.mem_range.mpr (hlength ▸ hn), rfl⟩
      obtain ⟨value, hvalue⟩ := hgives _ hmem
      rw [Nat.zero_add]
      exact sameKey_of_itemAt hvalue
    exact h _ (Nat.le_succ_of_le hle)
  | null | bool | int | float | text | sequence | mapping | octets | decimal => exact h keys.length (Nat.le_refl _)
  | moment | flags | exception | validator | object => exact h keys.length (Nat.le_refl _)

/-- Entries under different keys are read one after the other, in the order in which their keys are listed. -/
theorem readKeys_of_distinct {items done entries : Entries} (h : Entries.Distinct (done ++ entries))
    (hgives : ∀ entry ∈ entries, itemAt items entry.1 = .ok entry.2) :
    readKeys items done (entries.map (·.1)) = .ok (done ++ entries) := by
  induction entries generalizing done with
  | nil => rw [List.append_nil, List.map_nil, readKeys]
  | cons entry rest ih =>
    rw [List.forall_mem_cons] at hgives
    have hnew : ∀ old ∈ done, old.1.sameKey entry.1 = false := fun old hold =>
      (List.pairwise_append.mp h).2.2 old hold entry List.mem_cons_self
    have hput : done.put entry.1 entry.2 = done ++ [entry] := by
      rw [Entries.put_eq]
      exact putUnder_of_new hnew entry.2
    rw [List.append_cons] at h
    rw [List.map_cons, readKeys, hgives.1, List.append_cons]
    simp only [bind, Except.bind, hput]
    exact ih h hgives.2

/-- Whatever presents entries under different keys is read as these entries in their order. -/
theorem Presents.entries?_eq {given : Value} {entries : Entries} (h : given.Presents entries)
    (hdistinct : entries.Distinct) : given.entries? = .ok (some entries) := by
  cases h with
  | mapping kind => rfl
  | object hitems hkeys hlisted hgives =>
    have hgiven : ∀ key ∈ entries.map (·.1), ∃ value, itemAt _ key = .ok value :=
      List.forall_mem_map.mpr fun entry hentry => ⟨entry.2, hgives entry hentry⟩
    have hread : readKeys _ [] (entries.map (·.1)) = .ok entries := readKeys_of_distinct hdistinct hgives
    rw [entries?_object _ hitems hkeys, hlisted.elements_eq hgiven, Except.bind, hread]
    rfl

end Value

/-- The rules that a record selects depend on its entries only. -/
theorem Selector.mask_congr {first second : Value} {entries : Entries} (hfirst : first.entries? = .ok (some entries))
    (hsecond : second.entries? = .ok (some entries)) : mask first = mask second := by
  simp only [mask, hfirst, hsecond, bind, Except.bind]

/-- What a record is split into depends on its entries only. -/
theorem Options.split_congr {first second : Value} {entries : Entries} (hfirst : first.entries? = .ok (some entries))
    (hsecond : second.entries? = .ok (some entries)) : split first = split second := by
  simp only [split, hfirst, hsecond, bind, Except.bind]

namespace Validator

/-- Whatever presents the same entries under different keys, in the same order, is treated alike: it is read as these
entries, selects the same rules or is refused with the same fault, is split into the same parts, and makes the same
validator or fails in the same way, whatever is given by name beside it. -/
theorem presented_alike {entries : Entries} (hdistinct : entries.Distinct) {first second : Value}
    (hfirst : first.Presents entries) (hsecond : second.Presents entries) :
    first.entries? = .ok (some entries) ∧ second.entries? = .ok (some entries) ∧
      Selector.mask first = Selector.mask second ∧ Options.split first = Options.split second ∧
      ∀ named : Options, ofArguments (some first) named = ofArguments (some second) named := by
  have hread := hfirst.entries?_eq hdistinct
  have hread' := hsecond.entries?_eq hdistinct
  have hsplit := Options.split_congr hread hread'
  refine ⟨hread, hread', Selector.mask_congr hread hread', hsplit, fun named => ?_⟩
  have hmerge (further : Options) : Options.merge first further = Options.merge second further := by
    rw [Options.merge, hsplit, Options.merge]
  rw [ofArguments, ofArguments, Option.isSome_some, Option.isSome_some]
  split
  case h_1 => rfl
  case h_2 =>
    rw [Option.getD_some, Option.getD_some, build, build, Configuration.build_congr (hmerge _)]

/-- An object that lists its keys as those of a mapping, among items in another order and more of them, and a mapping
proxy with the same entries: the selector within the selector is refused alike, and taken apart alike. -/
theorem presented_alike_of_object :
    let entries : Entries := [(.text "level", .int 1), (.text "type", .dict [(.text "type", .text "zero")]),
      (.null, .text "x")]
    let items : Entries := [(.text "gone", .null), (.null, .text "x"), (.text "level", .int 1),
      (.text "type", .dict [(.text "type", .text "zero")])]
    let listed : Value := .dict [(.text "level", .null), (.text "type", .null), (.null, .null)]
    let first : Value := .object 0 ⟨"Config", none, none, some (.returns listed), some items⟩
    let second : Value := .mapping .proxy entries
    let built := ofConfiguration ⟨Rule.zero.bit, [], false, [(.text "level", .int 1), (.text "None", .text "x")]⟩
    entries.Distinct ∧ first.Presents entries ∧ second.Presents entries ∧
      Selector.mask first = Selector.mask second ∧ Options.split first = Options.split second ∧
      ofArguments (some second) [] = .ok built ∧ ofArguments (some first) [] = .ok built := by
  intro entries items listed first second built
  have hdistinct : entries.Distinct := by
    rw [Entries.Distinct]
    decide
  have hgives : ∀ entry ∈ entries, Value.itemAt items entry.1 = .ok entry.2 := by
    simp only [entries, List.forall_mem_cons, List.not_mem_nil, false_imp_iff, implies_true, and_true]
    exact ⟨rfl, rfl, rfl⟩
  have hfirst : first.Presents entries := .object rfl rfl (fun _ _ => rfl) hgives
  have hsecond : second.Presents entries := .mapping .proxy entries
  have hmade : ofArguments (some second) [] = .ok built := rfl
  obtain ⟨-, -, hmask, hsplit, hsame⟩ := presented_alike hdistinct hfirst hsecond
  exact ⟨hdistinct, hfirst, hsecond, hmask, hsplit, hmade, (hsame []).trans hmade⟩

end Validator

end Emptiness
