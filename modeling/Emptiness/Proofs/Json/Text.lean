import Emptiness.Json.Reader
import Emptiness.Json.Writer
import Emptiness.Proofs.Text.Strings
import Mathlib.Data.List.Chain

/-!
# Texts of documents are read as they were written

Between its quotes a character is written as itself, as an escape by a letter, or as escapes of its code units, one or
two of them; half a surrogate pair is written as the code unit that it is. The reader gives the code units back one by
one, and the two halves of a pair become one character again. So the text is the one that was written, unless a first
half stood before a second in it. No text that is read holds such halves, and no string does.
-/

namespace Emptiness.Json

variable {more tail : List Char} {units : List Nat}

/-- The number of a character is no surrogate. -/
theorem not_surrogate (c : Char) : c.toNat < 0xd800 ∨ 0xdfff < c.toNat :=
  c.valid.imp id And.left

/-- The number of a character is a code point. -/
theorem toNat_lt (c : Char) : c.toNat < 0x110000 := by
  obtain h | h := c.valid
  · exact Nat.lt_trans h (by decide)
  · exact h.2

/-- A hexadecimal digit stands for the number that it was made from. -/
theorem hexValue?_digitChar {n : Nat} (h : n < 16) : hexValue? (Nat.digitChar n) = some n := by
  revert n
  decide

/-- The four hexadecimal digits of a code unit stand for it. -/
theorem hexUnit?_digitChars {unit : Nat} (h : unit < 0x10000) :
    hexUnit? (Nat.digitChar (unit / 0x1000 % 16)) (Nat.digitChar (unit / 0x100 % 16))
      (Nat.digitChar (unit / 0x10 % 16)) (Nat.digitChar (unit % 16)) = some unit := by
  have hdigit (n : Nat) : hexValue? (Nat.digitChar (n % 16)) = some (n % 16) :=
    hexValue?_digitChar (Nat.mod_lt n (by decide))
  have hunit : ((unit / 0x1000 % 16 * 16 + unit / 0x100 % 16) * 16 + unit / 0x10 % 16) * 16 + unit % 16 = unit := by
    omega
  simp only [hexUnit?, hdigit, Option.bind_eq_bind, Option.bind_some, Option.pure_def, hunit]

/-- The escape of a code unit is read as that unit. -/
theorem readUnits_unitEscape {unit : Nat} (hunit : unit < 0x10000) (h : readUnits more = some (units, tail)) :
    readUnits (unitEscape unit ++ more) = some (unit :: units, tail) := by
  simp only [unitEscape, List.cons_append, List.nil_append, readUnits, hexUnit?_digitChars hunit, h]
  simp

/-- The letter of an escape stands for the character that it escapes, and is not the mark of a code unit. -/
theorem letterUnit?_of_letterEscape? {c letter : Char} (h : letterEscape? c = some letter) :
    letterUnit? letter = some c.toNat ∧ letter ≠ 'u' ∧ c.toNat < 0x80 := by
  unfold letterEscape? at h
  split at h
  case isTrue hself =>
    cases h
    rcases (by simpa using hself : c = '"' ∨ c = '\\') with rfl | rfl <;> decide
  case isFalse =>
    repeat
      split at h
      · cases h
        subst c
        decide
    cases h

/-- An escape by a letter is read as the code unit that the letter stands for. -/
theorem readUnits_letter {letter : Char} {unit : Nat} (hletter : letterUnit? letter = some unit) (hmark : letter ≠ 'u')
    (h : readUnits more = some (units, tail)) : readUnits ('\\' :: letter :: more) = some (unit :: units, tail) := by
  rw [readUnits]
  · simp [hletter, h]
  · intro _ _ _ _ _ hu
    exact absurd hu hmark

/-- A character that needs no escape is read as its own code unit. -/
theorem readUnits_plain {c : Char} (hquote : c ≠ '"') (hmark : c ≠ '\\') (hprinted : ¬ c.toNat < 0x20)
    (h : readUnits more = some (units, tail)) : readUnits (c :: more) = some (c.toNat :: units, tail) := by
  rw [readUnits.eq_def]
  simp [hquote, hmark, hprinted, h]

/-- A character is read as its code units. -/
theorem readUnits_writeChar (c : Char) (h : readUnits more = some (units, tail)) :
    readUnits (writeChar c ++ more) = some (unitsOfChar c ++ units, tail) := by
  have hsmall (hc : c.toNat < 0x10000) : unitsOfChar c = [c.toNat] := if_pos hc
  unfold writeChar
  cases hescape : letterEscape? c with
  | some letter =>
    obtain ⟨hunit, hmark, hascii⟩ := letterUnit?_of_letterEscape? hescape
    rw [hsmall (by omega)]
    exact readUnits_letter hunit hmark h
  | none =>
    by_cases hprinted : 0x20 ≤ c.toNat ∧ c.toNat < 0x7f
    · have hquote : c ≠ '"' := by
        rintro rfl
        cases hescape
      have hmark : c ≠ '\\' := by
        rintro rfl
        cases hescape
      rw [hsmall (by omega)]
      simp only [hprinted, and_self, if_true]
      exact readUnits_plain hquote hmark (by omega) h
    · simp only [hprinted, if_false]
      by_cases hc : c.toNat < 0x10000
      · rw [hsmall hc]
        simpa using readUnits_unitEscape hc h
      · have hvalid := toNat_lt c
        have hpair : unitsOfChar c = [0xd800 + (c.toNat - 0x10000) / 0x400, 0xdc00 + (c.toNat - 0x10000) % 0x400] :=
          if_neg hc
        have hlow : 0xdc00 + (c.toNat - 0x10000) % 0x400 < 0x10000 := by omega
        have hhigh : 0xd800 + (c.toNat - 0x10000) / 0x400 < 0x10000 := by omega
        rw [hpair]
        simpa using readUnits_unitEscape hhigh (readUnits_unitEscape hlow h)

/-- A character is no half of a pair. -/
theorem not_half (c : Char) : isHigh c.toNat = false ∧ isLow c.toNat = false := by
  have hcode := not_surrogate c
  simp only [isHigh, isLow, Bool.and_eq_false_iff, decide_eq_false_iff_not]
  omega

/-- A code unit by itself stands for a first or second half exactly if it is one. -/
theorem isHalf_pointOfUnit (unit : Nat) :
    isHigh (pointOfUnit unit).toNat = isHigh unit ∧ isLow (pointOfUnit unit).toNat = isLow unit := by
  unfold pointOfUnit
  split
  case isTrue hhalf =>
    have hunit : (CodePoint.half (Fin.ofNat 0x800 (unit - 0xd800))).toNat = unit := by
      simp only [isHigh, isLow, Bool.or_eq_true, Bool.and_eq_true, decide_eq_true_eq] at hhalf
      simp only [CodePoint.toNat, Fin.ofNat]
      omega
    rw [hunit]
    exact ⟨rfl, rfl⟩
  case isFalse hhalf =>
    simp only [Bool.or_eq_true, not_or, Bool.not_eq_true] at hhalf
    rw [hhalf.1, hhalf.2]
    exact not_half _

/-- Half a pair is what its code unit stands for. -/
theorem pointOfUnit_half (place : Fin 0x800) : pointOfUnit (CodePoint.half place).toNat = .half place := by
  have hplace := place.isLt
  have hhalf : isHigh (0xd800 + place) = true ∨ isLow (0xd800 + place) = true := by
    simp only [isHigh, isLow, Bool.and_eq_true, decide_eq_true_eq]
    omega
  have hself : Fin.ofNat 0x800 (0xd800 + place - 0xd800) = place := by
    apply Fin.ext
    simp only [Fin.ofNat]
    omega
  rw [CodePoint.toNat, pointOfUnit, if_pos (Bool.or_eq_true_iff.mpr hhalf), hself]

/-- A code unit that begins no pair is a code point by itself. -/
theorem joinUnits_cons {unit : Nat} (h : ∀ next ∈ units.head?, (isHigh unit && isLow next) = false) :
    joinUnits (unit :: units) = pointOfUnit unit :: joinUnits units := by
  cases units with
  | nil => rfl
  | cons next rest => rw [joinUnits, if_neg (Bool.eq_false_iff.mp (h next rfl))]

/-- The code units of a character become that character again. -/
theorem joinUnits_unitsOfChar (c : Char) (units : List Nat) :
    joinUnits (unitsOfChar c ++ units) = .scalar c :: joinUnits units := by
  have hcode := not_surrogate c
  have hrange := toNat_lt c
  unfold unitsOfChar
  split
  case isTrue =>
    obtain ⟨hhigh, hlow⟩ := not_half c
    have hself : pointOfUnit c.toNat = .scalar c := by simp [pointOfUnit, hhigh, hlow]
    rw [List.singleton_append, joinUnits_cons fun next _ => by rw [hhigh, Bool.false_and], hself]
  case isFalse hlarge =>
    have hhigh : isHigh (0xd800 + (c.toNat - 0x10000) / 0x400) = true := by
      simp only [isHigh, Bool.and_eq_true, decide_eq_true_eq]
      omega
    have hlow : isLow (0xdc00 + (c.toNat - 0x10000) % 0x400) = true := by
      simp only [isLow, Bool.and_eq_true, decide_eq_true_eq]
      omega
    have hcode : 0x10000 + (c.toNat - 0x10000) / 0x400 * 0x400 + (c.toNat - 0x10000) % 0x400 = c.toNat := by omega
    simp [joinUnits, hhigh, hlow, hcode]

/-- The code units of a code point. -/
def unitsOf : CodePoint → List Nat
  | .scalar c => unitsOfChar c
  | .half place => [(CodePoint.half place).toNat]

/-- A code point is read as its code units. -/
theorem readUnits_writePoint (point : CodePoint) (h : readUnits more = some (units, tail)) :
    readUnits (writePoint point ++ more) = some (unitsOf point ++ units, tail) := by
  cases point with
  | scalar c => exact readUnits_writeChar c h
  | half place =>
    have hplace : (CodePoint.half place).toNat = 0xd800 + place := rfl
    exact readUnits_unitEscape (by omega) h

/-- Code points are read as their code units, up to the quote after them. -/
theorem readUnits_flatMap_writePoint (text : Text) (rest : List Char) :
    readUnits (text.flatMap writePoint ++ '"' :: rest) = some (text.flatMap unitsOf, rest) := by
  induction text with
  | nil =>
    rw [List.flatMap_nil, List.nil_append, readUnits.eq_def]
    rfl
  | cons point text ih => simpa using readUnits_writePoint point ih

/-- The code units of a code point begin with a second half exactly if it is one. -/
theorem isLow_head_unitsOf (point : CodePoint) (units : List Nat) :
    ∀ unit ∈ (unitsOf point ++ units).head?, isLow unit = isLow point.toNat := by
  cases point with
  | half place =>
    rintro _ ⟨⟩
    rfl
  | scalar c =>
    have hrange := toNat_lt c
    rw [unitsOf, unitsOfChar]
    split
    case isTrue =>
      rintro _ ⟨⟩
      rfl
    case isFalse =>
      rintro _ ⟨⟩
      rw [CodePoint.toNat, (not_half c).2]
      simp only [isLow, Bool.and_eq_false_iff, decide_eq_false_iff_not]
      omega

/-- Two code points that are the halves of one character. -/
def IsPair (first second : CodePoint) : Prop :=
  (isHigh first.toNat && isLow second.toNat) = true

/-- All pairs of a text are joined: no first half stands before a second. -/
def IsJoined (text : Text) : Prop :=
  text.IsChain fun first second => ¬ IsPair first second

/-- A character is not the first half of a pair. -/
theorem not_isPair_scalar (c : Char) (second : CodePoint) : ¬ IsPair (.scalar c) second := by
  rw [IsPair, CodePoint.toNat, (not_half c).1, Bool.false_and]
  exact Bool.false_ne_true

/-- There is no half of a pair in a string. -/
theorem isJoined_ofString (s : String) : IsJoined s := by
  rw [IsJoined, Text.ofString, List.isChain_map]
  exact (List.pairwise_of_forall fun c d => not_isPair_scalar c (.scalar d)).isChain

/-- The code units of a text become that text again, if all its pairs are joined. -/
theorem joinUnits_flatMap_unitsOf {text : Text} (h : IsJoined text) : joinUnits (text.flatMap unitsOf) = text := by
  induction text with
  | nil => rfl
  | cons point rest ih =>
    obtain ⟨hfirst, hrest⟩ := List.isChain_cons.mp h
    rw [List.flatMap_cons]
    cases point with
    | scalar c => rw [unitsOf, joinUnits_unitsOfChar, ih hrest]
    | half place =>
      have hunpaired : ∀ next ∈ (rest.flatMap unitsOf).head?,
          (isHigh (CodePoint.half place).toNat && isLow next) = false := by
        intro next hnext
        cases rest with
        | nil => cases hnext
        | cons second more =>
          rw [List.flatMap_cons] at hnext
          rw [isLow_head_unitsOf second _ next hnext]
          exact Bool.eq_false_iff.mpr (hfirst second rfl)
      rw [unitsOf, List.singleton_append, joinUnits_cons hunpaired, pointOfUnit_half, ih hrest]

/-- Code units become a text that begins with a second half only if they begin with one. -/
theorem isLow_head_joinUnits {unit : Nat} {point : CodePoint} (hpoint : point ∈ (joinUnits (unit :: units)).head?)
    (h : isLow point.toNat = true) : isLow unit = true := by
  have hself (hpoint : point ∈ some (pointOfUnit unit)) : isLow unit = true := by
    cases hpoint
    exact (isHalf_pointOfUnit unit).2 ▸ h
  cases units with
  | nil => exact hself hpoint
  | cons next rest =>
    rw [joinUnits] at hpoint
    split at hpoint
    case isFalse => exact hself hpoint
    case isTrue =>
      cases hpoint
      rw [CodePoint.toNat, (not_half _).2] at h
      cases h

/-- Code units become a text whose pairs are joined. -/
theorem isJoined_joinUnits (units : List Nat) : IsJoined (joinUnits units) := by
  fun_induction joinUnits units with
  | case1 => exact .nil
  | case2 unit => exact .singleton _
  | case3 high low rest hpair ih => exact List.isChain_cons.mpr ⟨fun second _ => not_isPair_scalar _ second, ih⟩
  | case4 high low rest hpair ih =>
    refine List.isChain_cons.mpr ⟨fun second hsecond hhalves => hpair ?_, ih⟩
    rw [IsPair, Bool.and_eq_true, (isHalf_pointOfUnit high).1] at hhalves
    exact Bool.and_eq_true_iff.mpr ⟨hhalves.1, isLow_head_joinUnits hsecond hhalves.2⟩

/-- All pairs of a text that is read are joined. -/
theorem isJoined_of_readText {source rest : List Char} {text : Text} (h : readText source = .ok (text, rest)) :
    IsJoined text := by
  unfold readText at h
  split at h
  · cases h
    exact isJoined_joinUnits _
  · cases h

/-- A text is read as it was written between quotes exactly if all its pairs are joined. -/
theorem readText_writeText_iff {text : Text} {rest : List Char} :
    readText (text.flatMap writePoint ++ '"' :: rest) = .ok (text, rest) ↔ IsJoined text := by
  refine ⟨isJoined_of_readText, fun h => ?_⟩
  simp only [readText, readUnits_flatMap_writePoint, joinUnits_flatMap_unitsOf h]

end Emptiness.Json
