import Emptiness.Proofs.Json.Number
import Emptiness.Proofs.Json.Sound
import Emptiness.Proofs.Json.Text

/-!
# Documents are read as they were written

A document without floats is read back from what is written of it, at every depth, up to where it ends. An array or an
object is read item by item: between two items stand a comma and the beginning of a line, which the reader skips. What
is written of a document is at least as long as the fuel that reading it takes.
-/

namespace Emptiness

namespace Value

mutual

/-- The value is a float, or a sequence or a mapping that holds one at any depth. -/
def holdsFloat : Value → Bool
  | .float _ => true
  | .sequence _ items => itemsHoldFloat items
  | .mapping _ entries => entriesHoldFloat entries
  | _ => false

/-- One of the values is a float or holds one. -/
def itemsHoldFloat : List Value → Bool
  | [] => false
  | item :: rest => holdsFloat item || itemsHoldFloat rest

/-- One of the keys and values is a float or holds one. -/
def entriesHoldFloat : List (Value × Value) → Bool
  | [] => false
  | (key, value) :: rest => holdsFloat key || holdsFloat value || entriesHoldFloat rest

end

/-- Values hold a float if one of them does. -/
theorem itemsHoldFloat_eq_any (items : List Value) : itemsHoldFloat items = items.any holdsFloat := by
  induction items with
  | nil => rfl
  | cons item rest ih => rw [itemsHoldFloat, ih, List.any_cons]

/-- Entries hold a float if a key or a value of one of them does. -/
theorem entriesHoldFloat_eq_any (entries : Entries) :
    entriesHoldFloat entries = entries.any fun entry => entry.1.holdsFloat || entry.2.holdsFloat := by
  induction entries with
  | nil => rfl
  | cons entry rest ih => rw [entriesHoldFloat, ih, List.any_cons]

end Value

namespace Json

/-- The text begins neither with a blank nor with the bracket that ends an array. -/
def BeginsItem (text : List Char) : Prop :=
  ∃ c more, text = c :: more ∧ isSpace c = false ∧ c ≠ ']'

/-- What is written of the document, at any depth, is read back as the document, up to where it ends. -/
structure ReadsBack (d : Json) : Prop where
  begins : ∀ depth, BeginsItem (write depth d)
  reads : ∀ (depth fuel : Nat) (rest : List Char), (write depth d).length ≤ fuel → Text.Stops continuesNumber rest →
    readItem fuel (write depth d ++ rest) = .ok (d, rest)

variable {depth fuel : Nat} {rest : List Char}

/-- What begins with no blank is not shortened. -/
theorem skipSpace_cons {c : Char} (h : isSpace c = false) (rest : List Char) : skipSpace (c :: rest) = c :: rest := by
  simp [skipSpace, h]

/-- The beginning of a line is skipped. -/
theorem skipSpace_newLine (depth : Nat) (rest : List Char) : skipSpace (newLine depth ++ rest) = skipSpace rest := by
  have hblank (n : Nat) : skipSpace (List.replicate n ' ' ++ rest) = skipSpace rest := by
    induction n with
    | zero => rfl
    | succ n ih => exact ih
  exact hblank (2 * depth)

/-- The beginning of a document is not skipped. -/
theorem BeginsItem.skipSpace_append {text : List Char} (h : BeginsItem text) (rest : List Char) :
    skipSpace (text ++ rest) = text ++ rest := by
  obtain ⟨c, more, rfl, hspace, -⟩ := h
  exact skipSpace_cons hspace (more ++ rest)

/-- Where a line begins, every document ends. -/
theorem stops_newLine (depth : Nat) (rest : List Char) : Text.Stops continuesNumber (newLine depth ++ rest) :=
  Text.stops_cons.mpr rfl

/-- What is written of a text goes on after the closing quote. -/
theorem writeText_append (s : Text) (rest : List Char) :
    writeText s ++ rest = '"' :: (s.flatMap writePoint ++ '"' :: rest) := by
  simp [writeText]

/-- An item before the closing bracket is the last one. -/
theorem readItems_last {source after : List Char} {item : Json} (hitem : readItem fuel source = .ok (item, after))
    (hclose : skipSpace after = ']' :: rest) : readItems (fuel + 1) source = .ok ([item], rest) := by
  rw [readItems, hitem]
  simp only [bind, Except.bind, hclose]
  rfl

/-- An item before a comma is followed by the others. -/
theorem readItems_more {source after more : List Char} {item : Json} {items : List Json}
    (hitem : readItem fuel source = .ok (item, after)) (hcomma : skipSpace after = ',' :: more)
    (hmore : readItems fuel (skipSpace more) = .ok (items, rest)) :
    readItems (fuel + 1) source = .ok (item :: items, rest) := by
  rw [readItems, hitem]
  simp only [bind, Except.bind, hcomma, hmore]
  rfl

/-- A member before the closing brace is the last one. -/
theorem readMembers_last {source after : List Char} {name : Text} {item : Json} (hname : IsJoined name)
    (hitem : readItem fuel source = .ok (item, after)) (hsource : skipSpace source = source)
    (hclose : skipSpace after = '\x7d' :: rest) :
    readMembers (fuel + 1) (writeText name ++ ':' :: ' ' :: source) = .ok ([(name, item)], rest) := by
  have hblank : skipSpace (' ' :: source) = source := hsource
  rw [writeText_append, readMembers, readText_writeText_iff.mpr hname]
  simp only [bind, Except.bind, skipSpace_cons (c := ':') rfl, hblank, hitem, hclose]
  rfl

/-- A member before a comma is followed by the others. -/
theorem readMembers_more {source after more : List Char} {name : Text} {item : Json} {members : List (Text × Json)}
    (hname : IsJoined name) (hitem : readItem fuel source = .ok (item, after)) (hsource : skipSpace source = source)
    (hcomma : skipSpace after = ',' :: more) (hmore : readMembers fuel (skipSpace more) = .ok (members, rest)) :
    readMembers (fuel + 1) (writeText name ++ ':' :: ' ' :: source) = .ok ((name, item) :: members, rest) := by
  have hblank : skipSpace (' ' :: source) = source := hsource
  rw [writeText_append, readMembers, readText_writeText_iff.mpr hname]
  simp only [bind, Except.bind, skipSpace_cons (c := ':') rfl, hblank, hitem, hcomma, hmore]
  rfl

/-- The items of an array are read back if each of them is. -/
theorem readItems_write {item : Json} {items : List Json} (hitem : item.ReadsBack)
    (hitems : ∀ other ∈ items, other.ReadsBack) (outer : Nat) (rest : List Char)
    (hfuel : (write depth item ++ writeItems depth items).length < fuel) :
    readItems fuel (write depth item ++ (writeItems depth items ++ (newLine outer ++ ']' :: rest))) =
      .ok (item :: items, rest) := by
  induction items generalizing item fuel with
  | nil =>
    obtain ⟨fuel, rfl⟩ := Nat.exists_eq_add_one_of_ne_zero (Nat.ne_zero_of_lt hfuel)
    rw [writeItems, List.append_nil] at hfuel
    refine readItems_last (hitem.reads depth fuel _ (Nat.le_of_lt_succ hfuel) (stops_newLine outer _)) ?_
    rw [writeItems, List.nil_append, skipSpace_newLine, skipSpace_cons rfl]
  | cons next more ih =>
    obtain ⟨fuel, rfl⟩ := Nat.exists_eq_add_one_of_ne_zero (Nat.ne_zero_of_lt hfuel)
    rw [List.forall_mem_cons] at hitems
    simp only [writeItems, List.append_assoc, List.cons_append, List.length_append, List.length_cons] at hfuel ⊢
    have hshorter : (write depth next ++ writeItems depth more).length < fuel := by
      rw [List.length_append]
      omega
    refine readItems_more (hitem.reads depth fuel _ (by omega) (Text.stops_cons.mpr rfl)) (skipSpace_cons rfl _) ?_
    rw [skipSpace_newLine, (hitems.1.begins depth).skipSpace_append]
    exact ih hitems.1 hitems.2 hshorter

/-- The members of an object are read back if each of their documents is. -/
theorem readMembers_write {name : Text} {item : Json} {members : List (Text × Json)} (hname : IsJoined name)
    (hitem : item.ReadsBack) (hmembers : ∀ member ∈ members, IsJoined member.1 ∧ member.2.ReadsBack) (outer : Nat)
    (rest : List Char)
    (hfuel : (write depth item ++ writeMembers depth members).length < fuel) :
    readMembers fuel (writeText name ++ ':' :: ' ' :: (write depth item ++ (writeMembers depth members ++
      (newLine outer ++ '\x7d' :: rest)))) = .ok ((name, item) :: members, rest) := by
  induction members generalizing name item fuel with
  | nil =>
    obtain ⟨fuel, rfl⟩ := Nat.exists_eq_add_one_of_ne_zero (Nat.ne_zero_of_lt hfuel)
    rw [writeMembers, List.append_nil] at hfuel
    refine readMembers_last hname (hitem.reads depth fuel _ (Nat.le_of_lt_succ hfuel) (stops_newLine outer _))
      ((hitem.begins depth).skipSpace_append _) ?_
    rw [writeMembers, List.nil_append, skipSpace_newLine, skipSpace_cons rfl]
  | cons next more ih =>
    obtain ⟨fuel, rfl⟩ := Nat.exists_eq_add_one_of_ne_zero (Nat.ne_zero_of_lt hfuel)
    rw [List.forall_mem_cons] at hmembers
    simp only [writeMembers, List.append_assoc, List.cons_append, List.length_append, List.length_cons] at hfuel ⊢
    have hshorter : (write depth next.2 ++ writeMembers depth more).length < fuel := by
      rw [List.length_append]
      omega
    refine readMembers_more hname (hitem.reads depth fuel _ (by omega) (Text.stops_cons.mpr rfl))
      ((hitem.begins depth).skipSpace_append _) (skipSpace_cons rfl _) ?_
    rw [skipSpace_newLine, writeText_append, skipSpace_cons rfl, ← writeText_append]
    exact ih hmembers.1.1 hmembers.1.2 hmembers.2 hshorter

/-- Members under different names are the members of their object. -/
theorem ofMembers_of_nodup {members : List (Text × Json)} (h : (members.map (·.1)).Nodup) :
    ofMembers members = .object members := by
  simp only [ofMembers, put_eq]
  exact congrArg Json.object (foldl_putUnderKey h)

/-- What is written is never empty, so there is fuel to read it. -/
theorem readsBack_of_succ {d : Json} (hbegins : ∀ depth, BeginsItem (write depth d))
    (hreads : ∀ (depth fuel : Nat) (rest : List Char), (write depth d).length ≤ fuel + 1 →
      Text.Stops continuesNumber rest → readItem (fuel + 1) (write depth d ++ rest) = .ok (d, rest)) :
    d.ReadsBack := by
  refine ⟨hbegins, fun depth fuel rest hfuel hrest => ?_⟩
  cases fuel with
  | zero =>
    obtain ⟨c, more, hcons, -⟩ := hbegins depth
    rw [hcons] at hfuel
    cases hfuel
  | succ fuel => exact hreads depth fuel rest hfuel hrest

/-- A numeral begins with neither a blank nor a mark of what is no number. -/
theorem exists_numeral_cons (i : Int) :
    ∃ c more, Number.numeral i = c :: more ∧ isSpace c = false ∧ c ∉ ['"', '[', ']', '\x7b', '\x7d'] := by
  obtain ⟨first, more, hfirst, hdigit | hminus⟩ := numeral_cases i
  · exact ⟨first, more, hdigit, not_mark_of_isDigit hfirst⟩
  · exact ⟨'-', first :: more, hminus, rfl, by decide⟩

/-- A whole number is read back. -/
theorem readsBack_int {i : Int} (h : i.natAbs < Number.numeralBound) : ReadsBack (.int i) := by
  obtain ⟨c, more, hcons, hspace, hmarks⟩ := exists_numeral_cons i
  simp only [List.mem_cons, List.not_mem_nil, or_false, not_or] at hmarks
  obtain ⟨hquote, hbracket, hclose, hbrace, -⟩ := hmarks
  refine readsBack_of_succ (fun _ => ⟨c, more, hcons, hspace, hclose⟩) (fun depth fuel rest _ hrest => ?_)
  have hread := readAtom_numeral h hrest
  rw [hcons] at hread
  rw [write, hcons, List.cons_append, readItem]
  · exact hread
  · exact fun _ hsame => hquote (List.cons.inj hsame).1
  · exact fun _ hsame => hbracket (List.cons.inj hsame).1
  · exact fun _ hsame => hbrace (List.cons.inj hsame).1

/-- A text is read back. -/
theorem readsBack_text {s : Text} (h : IsJoined s) : ReadsBack (.text s) := by
  refine readsBack_of_succ (fun _ => ⟨'"', _, rfl, rfl, by decide⟩) (fun depth fuel rest _ _ => ?_)
  rw [write, writeText_append, readItem, readText_writeText_iff.mpr h]
  rfl

/-- An array of items that are read back is read back. -/
theorem readsBack_array {items : List Json} (h : ∀ item ∈ items, item.ReadsBack) : ReadsBack (.array items) := by
  cases items with
  | nil => exact readsBack_of_succ (fun _ => ⟨'[', _, rfl, rfl, by decide⟩) (fun _ _ _ _ _ => rfl)
  | cons item items =>
    rw [List.forall_mem_cons] at h
    refine readsBack_of_succ (fun _ => ⟨'[', _, rfl, rfl, by decide⟩) (fun depth fuel rest hfuel _ => ?_)
    simp only [write, List.append_assoc, List.cons_append, List.nil_append, List.length_append, List.length_cons]
      at hfuel ⊢
    have hshorter : (write (depth + 1) item ++ writeItems (depth + 1) items).length < fuel := by
      rw [List.length_append]
      omega
    have hread := readItems_write h.1 h.2 depth rest hshorter
    obtain ⟨c, more, hcons, hspace, hclose⟩ := h.1.begins (depth + 1)
    rw [readItem, skipSpace_newLine, (h.1.begins (depth + 1)).skipSpace_append]
    rw [hcons, List.cons_append] at hread ⊢
    split
    case h_1 hsame => exact absurd (List.cons.inj hsame).1 hclose
    case h_2 =>
      rw [hread]
      rfl

/-- An object of documents that are read back is read back. -/
theorem readsBack_object {members : List (Text × Json)} (hnames : (members.map (·.1)).Nodup)
    (h : ∀ member ∈ members, IsJoined member.1 ∧ member.2.ReadsBack) : ReadsBack (.object members) := by
  cases members with
  | nil => exact readsBack_of_succ (fun _ => ⟨'\x7b', _, rfl, rfl, by decide⟩) (fun _ _ _ _ _ => rfl)
  | cons first members =>
    rw [List.forall_mem_cons] at h
    refine readsBack_of_succ (fun _ => ⟨'\x7b', _, rfl, rfl, by decide⟩) (fun depth fuel rest hfuel _ => ?_)
    simp only [write, List.append_assoc, List.cons_append, List.nil_append, List.length_append, List.length_cons]
      at hfuel ⊢
    have hshorter : (write (depth + 1) first.2 ++ writeMembers (depth + 1) members).length < fuel := by
      rw [List.length_append]
      omega
    have hread := readMembers_write h.1.1 h.1.2 h.2 depth rest hshorter
    rw [writeText_append] at hread ⊢
    rw [readItem, skipSpace_newLine, skipSpace_cons rfl]
    split
    case h_1 hsame => exact absurd (List.cons.inj hsame).1 (by decide)
    case h_2 =>
      rw [hread, ← ofMembers_of_nodup hnames]
      rfl

/-- A sound document without floats is read back. -/
theorem Sound.readsBack {d : Json} (h : d.Sound) (hexact : d.toValue.holdsFloat = false) : d.ReadsBack := by
  induction h with
  | null => exact readsBack_of_succ (fun _ => ⟨'n', _, rfl, rfl, by decide⟩) (fun _ _ _ _ _ => rfl)
  | bool b =>
    cases b with
    | false => exact readsBack_of_succ (fun _ => ⟨'f', _, rfl, rfl, by decide⟩) (fun _ _ _ _ _ => rfl)
    | true => exact readsBack_of_succ (fun _ => ⟨'t', _, rfl, rfl, by decide⟩) (fun _ _ _ _ _ => rfl)
  | int h => exact readsBack_int h
  | float x => cases hexact
  | text h => exact readsBack_text h
  | array _ ih =>
    simp only [toValue, toValues_eq_map, Value.holdsFloat, Value.itemsHoldFloat_eq_any, List.any_map,
      List.any_eq_false, Function.comp_apply, Bool.not_eq_true] at hexact
    exact readsBack_array fun item hmem => ih item hmem (hexact item hmem)
  | object hnames hjoined _ ih =>
    simp only [toValue, toEntries_eq_map, Value.holdsFloat, Value.entriesHoldFloat_eq_any, List.any_map,
      List.any_eq_false, Function.comp_apply, Bool.false_or, Bool.not_eq_true] at hexact
    exact readsBack_object hnames fun member hmem => ⟨hjoined member hmem, ih member hmem (hexact member hmem)⟩

end Json

end Emptiness
