import Emptiness.Proofs.RuleName
import Emptiness.Proofs.Verdict.Decision
import Emptiness.Proofs.Verdict.Order

/-!
# What composite masks mean

A rule that looks at a plain value finds exactly those empty that are told here without shapes and in no order. The
mask of a list of rules then finds what any of these rules finds. So the composite of native falsity finds the values
that count as false, and besides them the text `0`; all rules together find blank text too; and the default finds
false, null, collections without items and text without visible characters. None but the full mask probes objects, so
under the other two an object is never empty, whatever its size and its text are and even if it fails to tell them.
-/

namespace Emptiness

/-- It is decided whether the value is empty under the mask, and it is so exactly if the condition holds. -/
def EmptyExactlyIf (v : Value) (mask : Mask) (condition : Prop) : Prop :=
  ∃ isEmpty : Bool, isEmptyUnder v mask = .ok isEmpty ∧ (isEmpty = true ↔ condition)

/-- The value is empty where the condition holds. -/
theorem EmptyExactlyIf.of_holds {v : Value} {mask : Mask} {condition : Prop} (h : EmptyExactlyIf v mask condition)
    (hcondition : condition) : isEmptyUnder v mask = .ok true := by
  obtain ⟨isEmpty, hdecided, hiff⟩ := h
  rw [hdecided, hiff.mpr hcondition]

/-- The value is not empty where the condition does not hold. -/
theorem EmptyExactlyIf.of_not_holds {v : Value} {mask : Mask} {condition : Prop} (h : EmptyExactlyIf v mask condition)
    (hcondition : ¬ condition) : isEmptyUnder v mask = .ok false := by
  obtain ⟨isEmpty, hdecided, hiff⟩ := h
  have hnot : isEmpty = false := Bool.eq_false_of_not_eq_true fun htrue => hcondition (hiff.mp htrue)
  rw [hdecided, hnot]

/-- The value is a text and all its characters are white space; it may have none. -/
def Value.IsBlankText (v : Value) : Prop :=
  ∃ s, v = .text s ∧ ∀ point ∈ s, point.isBlank = true

/-- The value is null, a truth value, an integer, a float, a text, a list, a tuple or a plain mapping. -/
inductive Value.IsPlain : Value → Prop
  | null : IsPlain .null
  | bool (b : Bool) : IsPlain (.bool b)
  | int (i : Int) : IsPlain (.int i)
  | flags (n : Nat) (naming : FlagNaming) : IsPlain (.flags n naming)
  | float (x : Number.Binary64) : IsPlain (.float x)
  | text (s : Text) : IsPlain (.text s)
  | list (items : List Value) : IsPlain (.list items)
  | tuple (items : List Value) : IsPlain (.tuple items)
  | dict (entries : Entries) : IsPlain (.dict entries)

/-- What a rule finds empty among plain values. -/
def Rule.FindsEmpty (v : Value) : Rule → Prop
  | boolean => v = .bool false
  | integer => v = .int 0 ∨ ∃ naming, v = .flags 0 naming
  | float => ∃ x, v = .float x ∧ x.isZero = true
  | string => v = .text ""
  | zero => v = .text "0"
  | array => v = .list [] ∨ v = .tuple [] ∨ v = .dict []
  | null => v = .null
  | space => v ≠ .text "" ∧ v.IsBlankText
  | object | objectString | objectCount => False

/-- A mask contains exactly the rules that it is made of. -/
theorem Mask.has_maskOf (rules : List Rule) (rule : Rule) :
    Mask.has (RuleName.maskOf rules : Nat) rule = true ↔ rule ∈ rules := by
  rw [Mask.has_eq_testBit]
  refine (RuleName.testBit_maskOf rules rule.place).trans ⟨?_, fun hrule => ⟨rule, hrule, rfl⟩⟩
  rintro ⟨other, hother, hplace⟩
  rwa [← Rule.place_injective hplace]

/-- Under the mask of some rules a value is empty exactly if one of them finds it so. -/
theorem isEmptyUnder_maskOf_iff (v : Value) (rules : List Rule) :
    isEmptyUnder v (RuleName.maskOf rules : Nat) = .ok true ↔ ∃ rule ∈ rules, (rule.finding v).isSome := by
  simp only [isEmptyUnder_iff, Mask.has_maskOf]

/-- A rule that can tell whether a value of its shape is empty finds it so exactly if it is. -/
theorem Rule.finds_iff_of_holds {rule : Rule} {v : Value} {isEmpty : Bool} (hshape : v.shape ∈ rule.shapes)
    (hholds : rule.holds v = .ok isEmpty) : (rule.finding v).isSome ↔ isEmpty = true := by
  rw [Rule.finding, if_pos (List.contains_iff_mem.mpr hshape), hholds]
  cases isEmpty <;> decide

/-- What a rule finds empty has a shape that the rule looks at. -/
theorem Rule.mem_forShape_of_findsEmpty {rule : Rule} {v : Value} (h : rule.FindsEmpty v) :
    rule ∈ Rule.forShape v.shape := by
  cases rule with
  | boolean | string | zero | null =>
    obtain rfl := h
    decide
  | integer =>
    obtain rfl | ⟨naming, rfl⟩ := h
    · decide
    · exact List.mem_cons_self
  | float =>
    obtain ⟨x, rfl, -⟩ := h
    exact List.mem_cons_self
  | array =>
    obtain rfl | rfl | rfl := h
    · decide
    · decide
    · decide
  | space =>
    obtain ⟨-, s, rfl, -⟩ := h
    exact List.mem_cons_self
  | object | objectString | objectCount => exact h.elim

/-- About a plain value, the rules find what they are said to find. -/
theorem Rule.finds_iff {v : Value} (hplain : v.IsPlain) (rule : Rule) :
    (rule.finding v).isSome ↔ rule.FindsEmpty v := by
  by_cases hrule : rule ∈ Rule.forShape v.shape
  case neg =>
    exact iff_of_false (fun h => hrule (Rule.mem_forShape_of_finds h))
      fun h => hrule (Rule.mem_forShape_of_findsEmpty h)
  cases hplain with
  | null =>
    obtain rfl := List.mem_singleton.mp hrule
    exact iff_of_true rfl rfl
  | bool b =>
    obtain rfl := List.mem_singleton.mp hrule
    cases b <;> simp [Rule.finding, Rule.holds, Rule.FindsEmpty, Rule.shapes, Value.shape]
  | int i =>
    obtain rfl := List.mem_singleton.mp hrule
    have hholds : Rule.integer.holds (.int i) = .ok (i == 0) := equalsZero_int i
    rw [Rule.finds_iff_of_holds List.mem_cons_self hholds]
    simp [Rule.FindsEmpty]
  | flags n naming =>
    obtain rfl := List.mem_singleton.mp hrule
    have hholds : Rule.integer.holds (.flags n naming) = .ok (n == 0) := equalsZero_flags n naming
    rw [Rule.finds_iff_of_holds List.mem_cons_self hholds]
    simp [Rule.FindsEmpty]
  | float x =>
    obtain rfl := List.mem_singleton.mp hrule
    have hholds : Rule.float.holds (.float x) = .ok x.isZero := equalsZero_float x
    rw [Rule.finds_iff_of_holds List.mem_cons_self hholds]
    simp [Rule.FindsEmpty]
  | text s =>
    have hlooks : rule = .space ∨ rule = .zero ∨ rule = .string := by simpa [Rule.forShape, Value.shape] using hrule
    rcases hlooks with rfl | rfl | rfl
    · rw [Rule.finds_iff_of_holds List.mem_cons_self rfl, allBlank_eq]
      simp [Rule.FindsEmpty, Value.IsBlankText]
    · rw [Rule.finds_iff_of_holds List.mem_cons_self rfl]
      simp [Rule.FindsEmpty, Rule.isText]
    · rw [Rule.finds_iff_of_holds List.mem_cons_self rfl]
      simp [Rule.FindsEmpty, Rule.isText]
  | list items | tuple items | dict entries =>
    obtain rfl := List.mem_singleton.mp hrule
    rw [Rule.finds_iff_of_holds List.mem_cons_self rfl]
    simp [Rule.FindsEmpty]

/-- Under a mask a plain value is empty exactly if a rule of the mask finds it empty. -/
theorem emptyExactlyIf_of_finds {v : Value} (hplain : v.IsPlain) {mask : Mask} {condition : Prop}
    (hcondition : (∃ rule, mask.has rule = true ∧ rule.FindsEmpty v) ↔ condition) :
    EmptyExactlyIf v mask condition := by
  have hiff := isEmptyUnder_iff v mask
  refine ⟨_, isEmptyUnder_eq v mask, ?_⟩
  rw [isEmptyUnder_eq, Except.ok.injEq] at hiff
  rw [hiff, ← hcondition]
  simp only [Rule.finds_iff hplain]

/-- Under the mask of some rules a plain value is empty exactly if one of the rules finds it empty. -/
theorem emptyExactlyIf_maskOf {v : Value} (hplain : v.IsPlain) {rules : List Rule} {condition : Prop}
    (hcondition : (∃ rule ∈ rules, rule.FindsEmpty v) ↔ condition) :
    EmptyExactlyIf v (RuleName.maskOf rules : Nat) condition := by
  refine emptyExactlyIf_of_finds hplain ?_
  simpa only [Mask.has_maskOf] using hcondition

/-- An object is not empty under the mask of rules that do not probe objects. -/
theorem isEmptyUnder_maskOf_of_object {v : Value} (hshape : v.shape = .object) {rules : List Rule}
    (hcount : Rule.objectCount ∉ rules) (hstring : Rule.objectString ∉ rules) :
    isEmptyUnder v (RuleName.maskOf rules : Nat) = .ok false := by
  have hnot : isEmptyUnder v (RuleName.maskOf rules : Nat) ≠ .ok true := by
    rw [Ne, isEmptyUnder_maskOf_iff]
    rintro ⟨rule, hrule, hfinds⟩
    rcases Rule.eq_or_eq_of_finds hshape hfinds with rfl | rfl
    · exact hcount hrule
    · exact hstring hrule
  rw [isEmptyUnder_eq] at hnot ⊢
  exact congrArg Except.ok (Bool.eq_false_of_not_eq_true fun h => hnot (congrArg Except.ok h))

/-- A plain value counts as false exactly if a rule about native falsity finds it empty, the one about the text `0`
aside. -/
theorem Value.truth_eq_false_iff {v : Value} (hplain : v.IsPlain) :
    v.truth = .ok false ↔
      ∃ rule ∈ [Rule.boolean, .integer, .float, .string, .array, .null], rule.FindsEmpty v := by
  cases hplain <;> simp [Value.truth, Rule.FindsEmpty, Text.ofString_empty]

/-- The rules of native falsity find what counts as false, and the text `0`. -/
theorem exists_php_findsEmpty_iff {v : Value} (hplain : v.IsPlain) :
    (∃ rule ∈ RuleName.php.rules, rule.FindsEmpty v) ↔ v.truth = .ok false ∨ v = .text "0" := by
  have hzero : v = .text "0" ↔ ∃ rule ∈ [Rule.zero], rule.FindsEmpty v := by simp [Rule.FindsEmpty]
  have hperm : RuleName.php.rules.Perm ([Rule.boolean, .integer, .float, .string, .array, .null] ++ [Rule.zero]) := by
    decide
  rw [Value.truth_eq_false_iff hplain, hzero]
  simp only [hperm.mem_iff, List.mem_append, or_and_right, exists_or]

/-- All rules find what those of native falsity find, and blank text. -/
theorem exists_all_findsEmpty_iff {v : Value} (hplain : v.IsPlain) :
    (∃ rule ∈ RuleName.all.rules, rule.FindsEmpty v) ↔
      (v.truth = .ok false ∨ v = .text "0") ∨ v ≠ .text "" ∧ v.IsBlankText := by
  have hothers : v ≠ .text "" ∧ v.IsBlankText ↔
      ∃ rule ∈ [Rule.space, .object, .objectString, .objectCount], rule.FindsEmpty v := by simp [Rule.FindsEmpty]
  have hperm : RuleName.all.rules.Perm
      (RuleName.php.rules ++ [Rule.space, .object, .objectString, .objectCount]) := by decide
  rw [← exists_php_findsEmpty_iff hplain, hothers]
  simp only [hperm.mem_iff, List.mem_append, or_and_right, exists_or]

/-- The rules that apply by default find false, null, what has no items, and text that is empty or blank. -/
theorem exists_default_findsEmpty_iff (v : Value) :
    (∃ rule ∈ [Rule.boolean, .string, .array, .null, .space, .object], rule.FindsEmpty v) ↔
      v = .bool false ∨ v = .null ∨ (v = .list [] ∨ v = .tuple [] ∨ v = .dict []) ∨ v.IsBlankText := by
  have hempty : v = .text "" → v.IsBlankText := by
    rintro rfl
    exact ⟨"", rfl, nofun⟩
  have hblank : v.IsBlankText ↔ v = .text "" ∨ v ≠ .text "" ∧ v.IsBlankText :=
    ⟨fun h => (Classical.em _).imp_right fun hne => ⟨hne, h⟩, fun h => h.elim hempty (·.2)⟩
  rw [hblank]
  simp only [List.exists_mem_cons_iff, List.not_mem_nil, false_and, exists_false, Rule.FindsEmpty, or_false]
  tauto

/-- Under the composite of native falsity a plain value is empty exactly if it counts as false or is the text `0`; under
all rules, if it does or if it is blank text; and under the rules that apply by default, if it is false, null, a
collection without items, or text that is empty or blank. No object is empty under the first or the last of them,
whatever becomes of its size and its text. -/
theorem isEmptyUnder_composite (v : Value) :
    (v.IsPlain →
      EmptyExactlyIf v RuleName.php.mask (v.truth = .ok false ∨ v = .text "0") ∧
      EmptyExactlyIf v RuleName.all.mask
        ((v.truth = .ok false ∨ v = .text "0") ∨ v ≠ .text "" ∧ v.IsBlankText) ∧
      EmptyExactlyIf v defaultMask
        (v = .bool false ∨ v = .null ∨ (v = .list [] ∨ v = .tuple [] ∨ v = .dict []) ∨ v.IsBlankText)) ∧
    (v.shape = .object →
      isEmptyUnder v RuleName.php.mask = .ok false ∧ isEmptyUnder v defaultMask = .ok false) := by
  refine ⟨fun hplain => ⟨?_, ?_, ?_⟩, fun hshape => ⟨?_, ?_⟩⟩
  · exact emptyExactlyIf_maskOf hplain (exists_php_findsEmpty_iff hplain)
  · exact emptyExactlyIf_maskOf hplain (exists_all_findsEmpty_iff hplain)
  · exact emptyExactlyIf_maskOf hplain (exists_default_findsEmpty_iff v)
  · exact isEmptyUnder_maskOf_of_object hshape (by decide) (by decide)
  · exact isEmptyUnder_maskOf_of_object hshape (by decide) (by decide)

/-- A negative zero is empty under the composite of native falsity and not by default. An object that fails to tell its
size and has an empty text is empty under neither. -/
theorem isEmptyUnder_composite_of_zero_and_object :
    let zero : Value := .float (.zero true)
    let broken : Value := .object 0 ⟨"Broken", some (.raises .negativeSize), some (.returns (.text "")), none, none⟩
    zero.IsPlain ∧ zero.truth = .ok false ∧ isEmptyUnder zero RuleName.php.mask = .ok true ∧
      isEmptyUnder zero defaultMask = .ok false ∧ broken.shape = .object ∧
      isEmptyUnder broken RuleName.php.mask = .ok false ∧ isEmptyUnder broken defaultMask = .ok false := by
  intro zero broken
  have hplain : zero.IsPlain := .float _
  have htruth : zero.truth = .ok false := rfl
  obtain ⟨⟨isEmpty, hphp, hiff⟩, -, ⟨isDefault, hdefault, hiff'⟩⟩ := (isEmptyUnder_composite zero).1 hplain
  obtain rfl : isEmpty = true := hiff.mpr (.inl htruth)
  have hnot : isDefault = false := by
    rw [Bool.eq_false_iff, Ne, hiff']
    simp [zero, Value.IsBlankText]
  rw [hnot] at hdefault
  exact ⟨hplain, htruth, hphp, hdefault, rfl, (isEmptyUnder_composite broken).2 rfl⟩

end Emptiness
