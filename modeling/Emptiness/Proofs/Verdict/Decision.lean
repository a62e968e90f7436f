import Emptiness.Proofs.Mask
import Emptiness.Proofs.Verdict.Finding

/-!
# The documented decision

What a value counts as, told kind by kind and with the bits of the mask by number: no table of rules, no shapes and
no order of asking. An object is measured first and written out only if its size did not decide; either of the two
may fail. Judging agrees with this decision on every value and every mask, and so it never fails.
-/

namespace Emptiness

/-- A value is empty by a rule if the rule's bit is set and the condition holds, and otherwise not empty. -/
def emptyBy (rule : Rule) (bit : Nat) (mask : Mask) (condition : Bool) : Verdict :=
  if mask.meets bit && condition then .empty rule .isEmpty else .notEmpty

/-- What a text counts as: blank text, the text `0` and the empty text have a bit each. -/
def decideString (s : Text) (mask : Mask) : Verdict :=
  if mask.meets 128 && (s != "" && s.all CodePoint.isBlank) then .empty .space .isEmpty
  else if mask.meets 16 && s == "0" then .empty .zero .isEmpty
  else if mask.meets 8 && s == "" then .empty .string .isEmpty
  else .notEmpty

/-- What an object counts as by its text, if its type has one of its own. -/
def decideByText (v : Value) (mask : Mask) : Verdict :=
  if mask.meets 512 && v.isStringable then
    match v.written with
    | .error _ => .empty .objectString .invalid
    | .ok shown => if shown == "" then .empty .objectString .isEmpty else .notEmpty
  else .notEmpty

/-- What an object counts as: by its size, if its type has one, and by its text if the size does not decide. -/
def decideObject (v : Value) (mask : Mask) : Verdict :=
  if mask.meets 1024 && v.isCountable then
    match v.size with
    | .error _ => .empty .objectCount .invalid
    | .ok 0 => .empty .objectCount .isEmpty
    | .ok (_ + 1) => decideByText v mask
  else decideByText v mask

/-- What any value counts as under a mask. -/
def decision (v : Value) (mask : Mask) : Verdict :=
  match v with
  | .sequence .list items => emptyBy .array 32 mask items.isEmpty
  | .sequence .tuple items => emptyBy .array 32 mask items.isEmpty
  | .mapping .dict entries => emptyBy .array 32 mask entries.isEmpty
  | .text s => decideString s mask
  | .null => emptyBy .null 64 mask true
  | .float x => emptyBy .float 4 mask x.isZero
  | .int i => emptyBy .integer 2 mask (i == 0)
  | .flags n _ => emptyBy .integer 2 mask (n == 0)
  | .bool b => emptyBy .boolean 1 mask (!b)
  | object => decideObject object mask

/-- A rule that can tell whether the value is empty gives its verdict if its bit is set. -/
theorem Rule.verdict?_of_holds {rule : Rule} {v : Value} {mask : Mask} {isEmpty : Bool}
    (hshape : v.shape ∈ rule.shapes) (hholds : rule.holds v = .ok isEmpty) :
    rule.verdict? v mask = if mask.meets rule.bit && isEmpty then some (.empty rule .isEmpty) else none := by
  rw [Rule.verdict?, Rule.finding, if_pos (List.contains_iff_mem.mpr hshape), hholds, Mask.has_eq_meets]
  cases mask.meets rule.bit <;> cases isEmpty <;> rfl

/-- Where a single rule looks at a shape, it decides alone. -/
theorem judge_of_single (rule : Rule) {v : Value} {isEmpty : Bool} (mask : Mask)
    (hrules : Rule.forShape v.shape = [rule]) (hshape : v.shape ∈ rule.shapes) (hholds : rule.holds v = .ok isEmpty) :
    judge v mask = .ok (emptyBy rule rule.bit mask isEmpty) := by
  rw [judge_eq_forShape, hrules, firstVerdict_cons, Rule.verdict?_of_holds hshape hholds, emptyBy]
  cases mask.meets rule.bit && isEmpty <;> rfl

/-- Text is blank if it is not empty and all its code points are white space. -/
theorem allBlank_eq (s : Text) : Text.allBlank s = (s != "" && s.all CodePoint.isBlank) := by
  cases s with
  | nil => rfl
  | cons point rest => rfl

/-- Three rules look at text; the first of them that is in the mask and holds decides. -/
theorem judge_text (s : Text) (mask : Mask) : judge (.text s) mask = .ok (decideString s mask) := by
  have hblank : Rule.space.holds (.text s) = .ok (s != "" && s.all CodePoint.isBlank) :=
    congrArg Except.ok (allBlank_eq s)
  have hspace : Rule.space.verdict? (.text s) mask =
      if mask.meets 128 && (s != "" && s.all CodePoint.isBlank) then some (.empty .space .isEmpty) else none :=
    Rule.verdict?_of_holds List.mem_cons_self hblank
  have hzero : Rule.zero.verdict? (.text s) mask =
      if mask.meets 16 && s == "0" then some (.empty .zero .isEmpty) else none :=
    Rule.verdict?_of_holds List.mem_cons_self rfl
  have hstring : Rule.string.verdict? (.text s) mask =
      if mask.meets 8 && s == "" then some (.empty .string .isEmpty) else none :=
    Rule.verdict?_of_holds List.mem_cons_self rfl
  rw [judge_eq_forShape]
  change Except.ok (firstVerdict [.space, .zero, .string] (.text s) mask) = _
  rw [firstVerdict_cons, hspace, firstVerdict_cons, hzero, firstVerdict_cons, hstring, decideString]
  split
  · rfl
  · split
    · rfl
    · split <;> rfl

/-- The rule about sizes gives a verdict on an object whose type has one: the size is zero or cannot be had. -/
theorem Rule.verdict?_objectCount {v : Value} (mask : Mask) (hshape : v.shape = .object) :
    Rule.objectCount.verdict? v mask =
      if mask.meets 1024 && v.isCountable then
        match v.size with
        | .error _ => some (.empty .objectCount .invalid)
        | .ok 0 => some (.empty .objectCount .isEmpty)
        | .ok (_ + 1) => none
      else none := by
  have hlooks : v.shape ∈ Rule.objectCount.shapes := List.mem_singleton.mpr hshape
  have hbit : mask.has .objectCount = mask.meets 1024 := Mask.has_eq_meets mask .objectCount
  rw [Rule.verdict?, Rule.finding, if_pos (List.contains_iff_mem.mpr hlooks), hbit, Rule.holds, Value.probeSize]
  cases mask.meets 1024 with
  | false => rfl
  | true =>
    cases v.isCountable with
    | false => rfl
    | true =>
      rcases v.size with fault | _ | n <;> rfl

/-- The rule about texts gives a verdict on an object whose type has one: the text is empty or cannot be had. -/
theorem Rule.verdict?_objectString {v : Value} (mask : Mask) (hshape : v.shape = .object) :
    Rule.objectString.verdict? v mask =
      if mask.meets 512 && v.isStringable then
        match v.written with
        | .error _ => some (.empty .objectString .invalid)
        | .ok shown => if shown == "" then some (.empty .objectString .isEmpty) else none
      else none := by
  have hlooks : v.shape ∈ Rule.objectString.shapes := List.mem_singleton.mpr hshape
  have hbit : mask.has .objectString = mask.meets 512 := Mask.has_eq_meets mask .objectString
  rw [Rule.verdict?, Rule.finding, if_pos (List.contains_iff_mem.mpr hlooks), hbit, Rule.holds, Value.probeText]
  cases mask.meets 512 with
  | false => rfl
  | true =>
    cases v.isStringable with
    | false => rfl
    | true =>
      rcases v.written with fault | _ | ⟨point, rest⟩ <;> rfl

/-- An object is measured first, and written out only if its size does not decide; being an object decides nothing. -/
theorem judge_object {v : Value} (mask : Mask) (hshape : v.shape = .object) :
    judge v mask = .ok (decideObject v mask) := by
  have hobject : Rule.object.verdict? v mask = none := by
    rw [Rule.verdict?_of_holds (List.mem_singleton.mpr hshape) rfl, Bool.and_false]
    rfl
  have htext : firstVerdict [.objectString, .object] v mask = decideByText v mask := by
    rw [firstVerdict_cons, firstVerdict_cons, hobject, Rule.verdict?_objectString mask hshape, decideByText]
    cases mask.meets 512 && v.isStringable with
    | false => rfl
    | true =>
      rcases v.written with fault | shown
      · rfl
      · by_cases hshown : shown = "" <;> simp [hshown, firstVerdict]
  rw [judge_eq_forShape, hshape]
  change Except.ok (firstVerdict (.objectCount :: [.objectString, .object]) v mask) = _
  rw [firstVerdict_cons, htext, Rule.verdict?_objectCount mask hshape, decideObject]
  cases mask.meets 1024 && v.isCountable with
  | false => rfl
  | true => rcases v.size with fault | _ | n <;> rfl

/-- An integer read as a decimal is zero only if it is zero. -/
theorem isZero_ofInt (i : Int) : (Number.Decimal.ofInt i).isZero = (i == 0) := by
  rw [Number.Decimal.ofInt, Number.Decimal.isZero, Bool.eq_iff_iff, beq_iff_eq, beq_iff_eq]
  exact Int.natAbs_eq_zero

/-- A double precision number read as a decimal is zero exactly if it is zero of either sign. -/
theorem isZero_ofBinary64 (x : Number.Binary64) : (Number.Decimal.ofBinary64 x).isZero = x.isZero := by
  rcases x with _ | negative | ⟨negative, significand, k | k⟩
  · rfl
  · rfl
  · simp [Number.Decimal.ofBinary64, Number.Decimal.isZero, Number.Binary64.isZero]
  · simp [Number.Decimal.ofBinary64, Number.Decimal.isZero, Number.Binary64.isZero]

/-- The integer rule compares integers with zero. -/
theorem equalsZero_int (i : Int) : (Value.int i).equalsZero = .ok (i == 0) :=
  congrArg Except.ok (isZero_ofInt i)

/-- The integer rule compares flags with zero. -/
theorem equalsZero_flags (n : Nat) (naming : FlagNaming) : (Value.flags n naming).equalsZero = .ok (n == 0) := by
  have hzero : ((n : Int) == 0) = (n == 0) := by
    rw [Bool.eq_iff_iff, beq_iff_eq, beq_iff_eq]
    exact Int.natCast_eq_zero
  exact congrArg Except.ok ((isZero_ofInt n).trans hzero)

/-- The float rule compares double precision numbers with zero. -/
theorem equalsZero_float (x : Number.Binary64) : (Value.float x).equalsZero = .ok x.isZero := by
  have hzero := isZero_ofBinary64 x
  rcases x with _ | negative | ⟨negative, significand, k | k⟩ <;> exact congrArg Except.ok hzero

/-- Judging any value by any mask gives the documented decision, and never fails. -/
theorem judge_eq_decision (v : Value) (mask : Mask) : judge v mask = .ok (decision v mask) := by
  cases v with
  | text s => exact judge_text s mask
  | null => exact judge_of_single .null mask rfl List.mem_cons_self rfl
  | bool b => cases b <;> exact judge_of_single .boolean mask rfl List.mem_cons_self rfl
  | int i => exact judge_of_single .integer mask rfl List.mem_cons_self (equalsZero_int i)
  | flags n naming => exact judge_of_single .integer mask rfl List.mem_cons_self (equalsZero_flags n naming)
  | float x => exact judge_of_single .float mask rfl List.mem_cons_self (equalsZero_float x)
  | sequence kind items =>
    have hsize : Except.ok (items.length == 0) = (.ok items.isEmpty : Except Fault Bool) := by cases items <;> rfl
    cases kind with
    | list | tuple => exact judge_of_single .array mask rfl List.mem_cons_self hsize
    | set | frozenset => exact judge_object mask rfl
  | mapping kind entries =>
    have hsize : Except.ok (entries.length == 0) = (.ok entries.isEmpty : Except Fault Bool) := by cases entries <;> rfl
    cases kind with
    | dict => exact judge_of_single .array mask rfl List.mem_cons_self hsize
    | userDict | proxy => exact judge_object mask rfl
  | octets | range | decimal | moment | exception | validator | object => exact judge_object mask rfl

-- A size that cannot be had decides before an empty text does, but only where the mask asks for sizes.
example :
    let broken : Value := .object 0 ⟨"Broken", some (.raises .negativeSize), some (.returns (.text "")), none, none⟩
    judge broken (-1) = .ok (.empty .objectCount .invalid) ∧ judge broken 512 = .ok (.empty .objectString .isEmpty) :=
  ⟨rfl, rfl⟩

end Emptiness
