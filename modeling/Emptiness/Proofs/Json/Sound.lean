import Emptiness.Proofs.Fault
import Emptiness.Proofs.Json.Text
import Emptiness.Proofs.Number.Numeral
import Emptiness.Proofs.Value.Entries
import Emptiness.Word

/-!
# Documents that are read

A reader gives only documents whose whole numbers have short numerals, whose texts have all their pairs joined, and
whose objects have no name twice. The value that such a document stands for is shown as the document again, so what a
word stands for can be shown unchanged.
-/

namespace Emptiness

namespace Json

/-- A document whose whole numbers have short numerals, in whose texts and names all pairs are joined, and whose objects
have no name twice, at any depth. -/
inductive Sound : Json → Prop
  | null : Sound .null
  | bool (b : Bool) : Sound (.bool b)
  | int {i : Int} (h : i.natAbs < Number.numeralBound) : Sound (.int i)
  | float (x : Number.Binary64) : Sound (.float x)
  | text {s : Text} (h : IsJoined s) : Sound (.text s)
  | array {items : List Json} (h : ∀ item ∈ items, Sound item) : Sound (.array items)
  | object {members : List (Text × Json)} (hnames : (members.map (·.1)).Nodup)
      (hjoined : ∀ member ∈ members, IsJoined member.1) (h : ∀ member ∈ members, Sound member.2) :
      Sound (.object members)

/-- A string is a sound document. -/
theorem Sound.string (s : String) : Sound (.string s) :=
  .text (isJoined_ofString s)

/-- Members are put under their names. -/
theorem put_eq (members : List (Text × Json)) (name : Text) (item : Json) :
    put members name item = putUnderKey members name item := by
  induction members with
  | nil => rfl
  | cons first rest ih => rw [put, putUnderKey_cons, ih]

/-- A member whose name has all its pairs joined and whose document is sound. -/
def SoundMember (member : Text × Json) : Prop :=
  IsJoined member.1 ∧ member.2.Sound

/-- An object of sound members is sound, though names may be repeated. -/
theorem ofMembers_sound {members : List (Text × Json)} (h : ∀ member ∈ members, SoundMember member) :
    (ofMembers members).Sound := by
  have hall (done : List (Text × Json)) (hnames : (done.map (·.1)).Nodup) (hjoined : ∀ member ∈ done, IsJoined member.1)
      (hdone : ∀ member ∈ done, Sound member.2) :
      Sound (.object (members.foldl (fun done member => put done member.1 member.2) done)) := by
    induction members generalizing done with
    | nil => exact .object hnames hjoined hdone
    | cons member rest ih =>
      rw [List.forall_mem_cons] at h
      rw [List.foldl_cons, put_eq]
      exact ih h.2 _ (nodup_putUnderKey hnames _ _) (forall_key_putUnder IsJoined _ hjoined h.1.1)
        (forall_value_putUnder Sound _ hdone h.1.2)
  exact hall [] List.nodup_nil nofun nofun

/-- What is read before the point of a number are digits. -/
theorem isDigit_of_readWhole? {source whole rest : List Char} (h : readWhole? source = some (whole, rest)) :
    ∀ c ∈ whole, c.isDigit = true := by
  unfold readWhole? at h
  split at h
  · cases h
    exact List.forall_mem_singleton.mpr rfl
  · dsimp only at h
    split at h
    · cases h
    · cases h
      exact List.all_eq_true.mp List.all_takeWhile

/-- A number that is read is sound: a whole number of too many digits is not read. -/
theorem readNumber_sound {source tail : List Char} {d : Json} (h : readNumber source = .ok (d, tail)) : d.Sound := by
  unfold readNumber at h
  dsimp only at h
  split at h
  case h_1 => cases h
  case h_2 whole rest hwhole =>
    split at h
    case isTrue =>
      split at h
      case isTrue => cases h
      case isFalse hlength =>
        cases h
        have hbound := Number.ofDigits_lt_numeralBound (isDigit_of_readWhole? hwhole) (Nat.le_of_not_lt hlength)
        refine .int ?_
        split
        · rwa [Int.natAbs_neg]
        · exact hbound
    case isFalse =>
      cases h
      exact .float _

/-- A word or a number that is read is sound. -/
theorem readAtom_sound {source tail : List Char} {d : Json} (h : readAtom source = .ok (d, tail)) : d.Sound := by
  unfold readAtom at h
  split at h
  case h_1 found hfound =>
    cases h
    obtain ⟨⟨word, item⟩, hword, hafter⟩ := List.exists_of_findSome?_eq_some hfound
    obtain ⟨rest, -, hpair⟩ := Option.map_eq_some_iff.mp hafter
    cases hpair
    have hwords : ∀ entry ∈ words, entry.2.Sound := by
      simp only [words, List.forall_mem_cons, List.not_mem_nil, false_imp_iff, implies_true, and_true]
      exact ⟨.null, .bool true, .bool false, .float _, .float _, .float _⟩
    exact hwords _ hword
  case h_2 => exact readNumber_sound h

/-- Whatever the fuel, documents that are read are sound, also as items of an array and as members of an object. -/
theorem read_sound_of_fuel (fuel : Nat) :
    (∀ source d tail, readItem fuel source = .ok (d, tail) → d.Sound) ∧
      (∀ source items tail, readItems fuel source = .ok (items, tail) → ∀ item ∈ items, item.Sound) ∧
      ∀ source members tail, readMembers fuel source = .ok (members, tail) →
        ∀ member ∈ members, SoundMember member := by
  induction fuel with
  | zero => exact ⟨nofun, nofun, nofun⟩
  | succ fuel ih =>
    obtain ⟨hitem, hitems, hmembers⟩ := ih
    refine ⟨?_, ?_, ?_⟩
    · intro source d tail h
      unfold readItem at h
      split at h
      case h_1 => 
        obtain ⟨⟨s, rest⟩, hread, hpair⟩ := map_eq_ok h
        cases hpair
        exact .text (isJoined_of_readText hread)
      case h_2 =>
        split at h
        · cases h
          exact .array nofun
        · obtain ⟨⟨items, rest⟩, hread, hpair⟩ := map_eq_ok h
          cases hpair
          exact .array (hitems _ _ _ hread)
      case h_3 =>
        split at h
        · cases h
          exact .object List.nodup_nil nofun nofun
        · obtain ⟨⟨members, rest⟩, hread, hpair⟩ := map_eq_ok h
          cases hpair
          exact ofMembers_sound (hmembers _ _ _ hread)
      case h_4 => exact readAtom_sound h
    · intro source items tail h
      unfold readItems at h
      obtain ⟨⟨item, rest⟩, hfirst, h⟩ := bind_eq_ok h
      dsimp only at h
      split at h
      · cases h
        exact List.forall_mem_singleton.mpr (hitem _ _ _ hfirst)
      · obtain ⟨⟨more, last⟩, hmore, h⟩ := bind_eq_ok h
        cases h
        exact List.forall_mem_cons.mpr ⟨hitem _ _ _ hfirst, hitems _ _ _ hmore⟩
      · cases h
    · intro source members tail h
      unfold readMembers at h
      split at h
      · obtain ⟨⟨name, rest⟩, hname, h⟩ := bind_eq_ok h
        have hjoined := isJoined_of_readText hname
        dsimp only at h
        split at h
        · obtain ⟨⟨item, rest⟩, hfirst, h⟩ := bind_eq_ok h
          dsimp only at h
          split at h
          · cases h
            exact List.forall_mem_singleton.mpr ⟨hjoined, hitem _ _ _ hfirst⟩
          · obtain ⟨⟨more, last⟩, hmore, h⟩ := bind_eq_ok h
            cases h
            exact List.forall_mem_cons.mpr ⟨⟨hjoined, hitem _ _ _ hfirst⟩, hmembers _ _ _ hmore⟩
          · cases h
        · cases h
      · cases h

/-- A document that is read is sound. -/
theorem read_sound {source : String} {d : Json} (h : read source = .ok d) : d.Sound := by
  obtain ⟨⟨item, rest⟩, hitem, h⟩ := bind_eq_ok h
  dsimp only at h
  split at h
  · cases h
    exact (read_sound_of_fuel _).1 _ _ _ hitem
  · cases h

/-- The values of documents one by one. -/
theorem toValues_eq_map (items : List Json) : toValues items = items.map toValue := by
  induction items with
  | nil => rfl
  | cons item rest ih => rw [toValues, ih, List.map_cons]

/-- The entries of members one by one. -/
theorem toEntries_eq_map (members : List (Text × Json)) :
    toEntries members = members.map fun member => (.text member.1, member.2.toValue) := by
  induction members with
  | nil => rfl
  | cons member rest ih => rw [toEntries, ih, List.map_cons]

/-- Documents that are shown by their values one by one are shown by the run of their values. -/
theorem ofValues_map_toValue {items : List Json} (h : ∀ item ∈ items, ofValue item.toValue = .ok item) :
    ofValues (items.map toValue) = .ok items := by
  induction items with
  | nil => rfl
  | cons item rest ih =>
    rw [List.forall_mem_cons] at h
    rw [List.map_cons, ofValues, h.1, ih h.2]
    rfl

/-- Members whose documents are shown by their values are shown by the run of their entries. -/
theorem ofEntries_map_toValue {members : List (Text × Json)}
    (h : ∀ member ∈ members, ofValue member.2.toValue = .ok member.2) :
    ofEntries (members.map fun member => (.text member.1, member.2.toValue)) = .ok members := by
  induction members with
  | nil => rfl
  | cons member rest ih =>
    rw [List.forall_mem_cons] at h
    rw [List.map_cons, ofEntries, h.1, ih h.2]
    rfl

/-- The value that a sound document stands for is shown as the document again. -/
theorem ofValue_toValue {d : Json} (h : d.Sound) : ofValue d.toValue = .ok d := by
  induction h with
  | null | bool | float | text => rfl
  | int h => rw [toValue, ofValue, ofInt, if_pos h]
  | array _ ih => rw [toValue, toValues_eq_map, ofValue, ofValues_map_toValue ih]; rfl
  | object _ _ _ ih => rw [toValue, toEntries_eq_map, ofValue, ofEntries_map_toValue ih]; rfl

end Json

/-- What a word stands for is the value of a sound document. -/
theorem exists_document_of_wordValue {word : String} {raw : Bool} {v : Value} (h : wordValue word raw = .ok v) :
    ∃ d : Json, d.Sound ∧ d.toValue = v := by
  unfold wordValue at h
  split at h
  case isTrue =>
    cases h
    exact ⟨.text word, .text (Json.isJoined_ofString word), rfl⟩
  case isFalse =>
    split at h
    case h_1 d hread =>
      cases h
      exact ⟨d, Json.read_sound hread, rfl⟩
    case h_2 =>
      cases h
      exact ⟨.text word, .text (Json.isJoined_ofString word), rfl⟩
    case h_3 => cases h

end Emptiness
