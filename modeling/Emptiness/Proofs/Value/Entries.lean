import Emptiness.Proofs.Keyed
import Emptiness.Value.Key

/-!
# Keys and values of entries

Only text is the same key as text, so an entry whose key is a text is found under that text and no other key. Putting
an entry adds no key but the one it is put under, and no value but the one that is put; keys that differ stay different,
and entries under different keys are put in their order. What is put under a text is found there, and what is found
under another text stays the same. So entries under different texts may be put in any order, if their own order does
not matter.
-/

namespace Emptiness

/-- Only a text is the same key as a text. -/
theorem Value.sameKey_text {key : Value} {s : Text} : key.sameKey (.text s) = true ↔ key = .text s := by
  cases key with
  | text t => simp [Value.sameKey]
  | bool | int | float | decimal | flags => simp [Value.sameKey, Value.number?, Value.integer?]
  | sequence kind items => cases kind <;> simp [Value.sameKey]
  | null | mapping | octets | range | moment | exception | validator | object => simp [Value.sameKey]

/-- A text is the same key as nothing but itself. -/
theorem Value.text_sameKey {key : Value} {s : Text} : Value.sameKey (.text s) key = true ↔ key = .text s := by
  cases key with
  | text t =>
    rw [Value.sameKey, beq_iff_eq, Value.text.injEq]
    exact eq_comm
  | null | bool | int | float | sequence | mapping | octets | range => simp [Value.sameKey]
  | decimal | moment | flags | exception | validator | object => simp [Value.sameKey]

/-- Entries are put under keys that may be the same though they are written differently. -/
theorem Entries.put_eq (entries : Entries) (key value : Value) :
    entries.put key value = putUnder Value.sameKey entries key value := by
  induction entries with
  | nil => rfl
  | cons first rest ih => rw [Entries.put, putUnder, ih]

/-- What holds of all keys and of the key that is put holds of all keys afterwards. -/
theorem Entries.forall_put (P : Value → Prop) {entries : Entries} {key : Value} (value : Value)
    (hentries : ∀ entry ∈ entries, P entry.1) (hkey : P key) : ∀ entry ∈ entries.put key value, P entry.1 := by
  rw [Entries.put_eq]
  exact forall_key_putUnder P value hentries hkey

/-- What holds of all values and of the value that is put holds of all values afterwards. -/
theorem Entries.forall_value_put (P : Value → Prop) {entries : Entries} (key : Value) {value : Value}
    (hentries : ∀ entry ∈ entries, P entry.2) (hvalue : P value) : ∀ entry ∈ entries.put key value, P entry.2 := by
  rw [Entries.put_eq]
  exact forall_value_putUnder P key hentries hvalue

/-- No key of an entry is the same as that of a later one. -/
def Entries.Distinct (entries : Entries) : Prop :=
  entries.Pairwise fun earlier later => earlier.1.sameKey later.1 = false

/-- Putting an entry keeps the keys different. -/
theorem Entries.distinct_put {entries : Entries} (h : entries.Distinct) (key value : Value) :
    (entries.put key value).Distinct := by
  rw [Entries.put_eq]
  exact pairwise_putUnder h key value

/-- Entries under different keys are put in their order. -/
theorem Entries.putAll_of_distinct {entries more : Entries} (h : Entries.Distinct (entries ++ more)) :
    entries.putAll more = entries ++ more := by
  simp only [Entries.putAll, Entries.put_eq]
  exact foldl_putUnder h

/-- What is found under a key is the value of an entry. -/
theorem Entries.mem_of_find? {entries : Entries} {key value : Value} (h : entries.find? key = some value) :
    ∃ entry ∈ entries, entry.2 = value := by
  obtain ⟨entry, hentry, hvalue⟩ := Option.map_eq_some_iff.mp h
  exact ⟨entry, List.mem_of_find?_eq_some hentry, hvalue⟩

/-- A key is found in one list of entries, or else in the one that follows. -/
theorem Entries.find?_append (entries more : Entries) (key : Value) :
    Entries.find? (entries ++ more) key = (entries.find? key).or (more.find? key) := by
  rw [find?, List.find?_append, Option.map_or]
  rfl

/-- The first entry under a key is found. -/
theorem Entries.find?_cons (known old : Value) (rest : Entries) (key : Value) :
    Entries.find? ((known, old) :: rest) key = if known.sameKey key then some old else rest.find? key := by
  rw [find?, List.find?_cons]
  cases known.sameKey key <;> rfl

/-- A value that is put under a text is found under it. -/
theorem Entries.find?_put_self (entries : Entries) (s : Text) (value : Value) :
    (entries.put (.text s) value).find? (.text s) = some value := by
  induction entries with
  | nil => rw [put, find?_cons, if_pos (Value.sameKey_text.mpr rfl)]
  | cons first rest ih =>
    obtain ⟨known, old⟩ := first
    rw [put]
    split
    case isTrue hknown => rw [find?_cons, if_pos hknown]
    case isFalse hknown => rw [find?_cons, if_neg hknown, ih]

/-- A value that is put under another key does not change what is found under a text. -/
theorem Entries.find?_put_of_ne (entries : Entries) {key : Value} {s : Text} (h : key ≠ .text s) (value : Value) :
    (entries.put key value).find? (.text s) = entries.find? (.text s) := by
  induction entries with
  | nil => rw [put, find?_cons, if_neg (mt Value.sameKey_text.mp h)]
  | cons first rest ih =>
    obtain ⟨known, old⟩ := first
    rw [put]
    split
    case isTrue hknown =>
      have hother : ¬ known.sameKey (.text s) = true := by
        intro hsame
        rw [Value.sameKey_text.mp hsame] at hknown
        exact h (Value.text_sameKey.mp hknown)
      rw [find?_cons, find?_cons, if_neg hother, if_neg hother]
    case isFalse => rw [find?_cons, find?_cons, ih]

/-- The entries under other keys. -/
def Entries.without (entries : Entries) (key : Value) : Entries :=
  entries.filter fun entry => !entry.1.sameKey key

/-- An entry under another key stays. -/
theorem Entries.without_cons_of_ne {key : Value} {s : Text} (h : key ≠ .text s) (value : Value) (rest : Entries) :
    without ((key, value) :: rest) (.text s) = (key, value) :: rest.without (.text s) := by
  have hother : key.sameKey (.text s) = false := Bool.eq_false_iff.mpr (mt Value.sameKey_text.mp h)
  exact List.filter_cons_of_pos (by rw [hother, Bool.not_false])

/-- An entry under the key goes. -/
theorem Entries.without_cons_self (s : Text) (value : Value) (rest : Entries) :
    without ((.text s, value) :: rest) (.text s) = rest.without (.text s) := by
  have hsame : Value.sameKey (.text s) (.text s) = true := Value.sameKey_text.mpr rfl
  exact List.filter_cons_of_neg (by rw [hsame, Bool.not_true]; exact Bool.false_ne_true)

/-- Putting a value under a text takes the place of what was there, up to the order of the entries. -/
theorem Entries.put_perm {entries : Entries} (h : entries.Distinct) (s : Text) (value : Value) :
    (entries.put (.text s) value).Perm ((.text s, value) :: entries.without (.text s)) := by
  induction entries with
  | nil => exact .refl _
  | cons first rest ih =>
    obtain ⟨known, old⟩ := first
    obtain ⟨hfirst, hrest⟩ := List.pairwise_cons.mp h
    rw [put]
    split
    case isTrue hknown =>
      cases Value.sameKey_text.mp hknown
      -- no later key is the text again, since the keys differ
      have hlater : Entries.without rest (.text s) = rest := by
        refine List.filter_eq_self.mpr fun entry hentry => ?_
        have hother : entry.1 ≠ .text s := by
          intro hsame
          have hfound := hfirst entry hentry
          rw [hsame, Value.sameKey_text.mpr rfl] at hfound
          cases hfound
        rw [Bool.eq_false_iff.mpr (mt Value.sameKey_text.mp hother), Bool.not_false]
      rw [without_cons_self, hlater]
    case isFalse hknown =>
      rw [without_cons_of_ne (mt Value.sameKey_text.mpr hknown)]
      exact ((ih hrest).cons _).trans (.swap _ _ _)

/-- Entries that are the same up to their order stay so when a value is put under a text. -/
theorem Entries.put_perm_of_perm {entries other : Entries} (hperm : entries.Perm other) (h : entries.Distinct)
    (hother : other.Distinct) (s : Text) (value : Value) :
    (entries.put (.text s) value).Perm (other.put (.text s) value) :=
  (put_perm h s value).trans (((hperm.filter _).cons _).trans (put_perm hother s value).symm)

/-- Two values under different texts take the place of what was there, up to the order of the entries. -/
theorem Entries.put_put_perm {entries : Entries} (h : entries.Distinct) {s t : Text} (hne : s ≠ t)
    (first second : Value) :
    ((entries.put (.text s) first).put (.text t) second).Perm
      ((.text t, second) :: (.text s, first) :: (entries.without (.text s)).without (.text t)) := by
  have hafter := put_perm (distinct_put h (.text s) first) t second
  have hbefore := (put_perm h s first).filter fun entry => !entry.1.sameKey (.text t)
  have hkept := without_cons_of_ne (mt Value.text.inj hne) first (entries.without (.text s))
  rw [without] at hkept
  rw [hkept] at hbefore
  exact hafter.trans (hbefore.cons _)

/-- Values under different texts may be put in either order, up to the order of the entries. -/
theorem Entries.put_comm_perm {entries : Entries} (h : entries.Distinct) {s t : Text} (hne : s ≠ t)
    (first second : Value) :
    ((entries.put (.text s) first).put (.text t) second).Perm
      ((entries.put (.text t) second).put (.text s) first) := by
  have hcomm : (entries.without (.text s)).without (.text t) = (entries.without (.text t)).without (.text s) := by
    rw [without, without, List.filter_filter, without, without, List.filter_filter]
    simp only [Bool.and_comm]
  have hleft := put_put_perm h hne first second
  have hright := put_put_perm h hne.symm second first
  rw [hcomm] at hleft
  exact hleft.trans ((List.Perm.swap _ _ _).trans hright.symm)

end Emptiness
