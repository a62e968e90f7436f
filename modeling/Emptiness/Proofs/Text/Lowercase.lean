import Emptiness.Proofs.Text.Strings
import Emptiness.Text.Lowercase
import Mathlib.Data.List.Basic

/-!
# Lower case and ASCII

Between the capitals of ASCII and the first capital beyond it no character has another lower case. So a text of small
ASCII letters is its own lower case, which does not take a search through the table of capitals for each letter.

An ASCII character lowers within ASCII, and the lower case of any other holds a character beyond ASCII; the one
exception is the Kelvin sign. Half a surrogate pair is its own lower case. So a text whose lower case is an ASCII text
without a `k` is this text up to the case of its ASCII letters, whichever small form its capital sigmas take.
-/

namespace Emptiness.Text

/-- A character that is among no capitals is its own lower case. -/
theorem lowerChar_of_no_run {c : Char} (hdotted : c ≠ 'İ')
    (hruns : ∀ run ∈ caseRuns, c.toNat < run.first ∨ run.last < c.toNat) : lowerChar c = [c] := by
  have hnone : caseRuns.findSome? (·.lower? c.toNat) = none := by
    rw [List.findSome?_eq_none_iff]
    intro run hrun
    have hoff := hruns run hrun
    rw [CaseRun.lower?, if_neg]
    simp only [Bool.and_eq_true, decide_eq_true_eq]
    omega
  rw [lowerChar, if_neg hdotted, hnone]

/-- Among the characters below the first capital beyond ASCII only the capitals of ASCII have another lower case. -/
theorem lowerChar_of_no_capital {c : Char} (h : c.toNat < 0x41 ∨ 0x5a < c.toNat) (hhigh : c.toNat < 0xc0) :
    lowerChar c = [c] := by
  have hruns : ∀ run ∈ caseRuns, (0x41 ≤ run.first ∧ run.last ≤ 0x5a) ∨ 0xc0 ≤ run.first := by decide +kernel
  apply lowerChar_of_no_run
  · rintro rfl
    revert hhigh
    decide
  · intro run hrun
    have := hruns run hrun
    omega

/-- A text of characters between the capitals of ASCII and the first capital beyond it is its own lower case. -/
theorem lower_of_small {text : List Char} (h : ∀ c ∈ text, 0x5a < c.toNat ∧ c.toNat < 0xc0) :
    lower (text.map .scalar) = text.map .scalar := by
  induction text with
  | nil => rfl
  | cons c rest ih =>
    rw [List.forall_mem_cons] at h
    have hfirst : (CodePoint.scalar c).lower = [.scalar c] := by
      rw [CodePoint.lower, lowerChar_of_no_capital (.inr h.1.1) h.1.2, List.map_singleton]
    have hrest : (rest.map CodePoint.scalar).flatMap CodePoint.lower = rest.map .scalar := ih h.2
    rw [lower, List.map_cons, List.flatMap_cons, hfirst, hrest, List.singleton_append]

/-- What holds of all code points of ASCII holds of their characters. -/
theorem forall_ascii (p : Char → Prop) (hall : ∀ n < 0x80, p (Char.ofNat n)) {c : Char} (h : c.toNat < 0x80) : p c := by
  have hc := hall c.toNat h
  rwa [Char.ofNat_toNat] at hc

/-- What is no capital of ASCII has no small letter in ASCII. -/
theorem toLower_of_no_capital {c : Char} (h : c.toNat < 0x41 ∨ 0x5a < c.toNat) : c.toLower = c := by
  have hcapital : ¬ (c.val ≥ 'A'.val ∧ c.val ≤ 'Z'.val) := by
    intro hcapital
    have hlow : 0x41 ≤ c.toNat := UInt32.le_iff_toNat_le.mp hcapital.1
    have hhigh : c.toNat ≤ 0x5a := UInt32.le_iff_toNat_le.mp hcapital.2
    omega
  exact dif_neg hcapital

/-- An ASCII character lowers within ASCII. -/
theorem lowerChar_of_ascii {c : Char} (h : c.toNat < 0x80) : lowerChar c = [c.toLower] := by
  by_cases hcapital : c.toNat < 0x41 ∨ 0x5a < c.toNat
  · rw [lowerChar_of_no_capital hcapital (by omega), toLower_of_no_capital hcapital]
  · apply forall_ascii (fun c => ¬ (c.toNat < 0x41 ∨ 0x5a < c.toNat) → lowerChar c = [c.toLower]) ?_ h hcapital
    decide +kernel

/-- A code point of a character is the one that the character has. -/
theorem toNat_ofNat_of_valid {n : Nat} (h : n.isValidChar) : (Char.ofNat n).toNat = n := by
  rw [Char.ofNat, dif_pos h]
  rfl

/-- Where a run of capitals leads: to small letters beyond ASCII, unless the capital is in ASCII itself or is the Kelvin
sign. -/
theorem CaseRun.lower?_beyond_ascii {run : CaseRun} (hrun : run ∈ caseRuns) {c small : Nat}
    (h : run.lower? c = some small) (hc : 0x80 ≤ c) : small.isValidChar ∧ (0x80 ≤ small ∨ small = 'k'.toNat) := by
  have hruns : ∀ run ∈ caseRuns, run.last < 0x80 ∨
      (0x80 ≤ run.small ∧ (run.small + (run.last - run.first) < 0xd800 ∨
        (0xe000 ≤ run.small ∧ run.small + (run.last - run.first) < 0x110000))) ∨
      (run.first = run.last ∧ run.small = 'k'.toNat) := by decide +kernel
  have hcases := hruns run hrun
  have hk : 'k'.toNat = 0x6b := rfl
  unfold CaseRun.lower? at h
  split at h
  case isFalse => cases h
  case isTrue hin =>
    simp only [Bool.and_eq_true, decide_eq_true_eq] at hin
    cases h
    unfold Nat.isValidChar
    omega

/-- Beyond ASCII only the Kelvin sign has a lower case within ASCII. -/
theorem exists_mem_lowerChar {c : Char} (h : 0x80 ≤ c.toNat) : ∃ d ∈ lowerChar c, 0x80 ≤ d.toNat ∨ d = 'k' := by
  unfold lowerChar
  split
  · exact ⟨'\u0307', by simp, .inl (by decide)⟩
  · split
    case h_1 small hsmall =>
      obtain ⟨run, hrun, hlower⟩ := List.exists_of_findSome?_eq_some hsmall
      obtain ⟨hvalid, hbeyond⟩ := run.lower?_beyond_ascii hrun hlower h
      refine ⟨Char.ofNat small, List.mem_singleton_self _, ?_⟩
      rw [toNat_ofNat_of_valid hvalid]
      rcases hbeyond with hbeyond | rfl
      · exact .inl hbeyond
      · exact .inr rfl
    case h_2 => exact ⟨c, List.mem_singleton_self c, .inl h⟩

/-- A text and a lower case of it, in which each capital sigma may take the small form that stands at the end of a
word. -/
inductive LowersTo : Text → Text → Prop
  | nil : LowersTo [] []
  | cons {point : CodePoint} {text small : Text} (h : LowersTo text small) :
      LowersTo (point :: text) (point.lower ++ small)
  | finalSigma {text small : Text} (h : LowersTo text small) : LowersTo ('Σ' :: text) ('ς' :: small)

/-- A lower case is one in which no sigma takes its form at the end of a word. -/
theorem lowersTo_lower (text : Text) : LowersTo text (lower text) := by
  induction text with
  | nil => exact .nil
  | cons c rest ih => exact .cons ih

/-- The lower case of a text is an ASCII text without a `k` exactly if the text is this one up to the case of its ASCII
letters. -/
theorem LowersTo.eq_iff {text small : Text} {plain : List Char} (h : LowersTo text small)
    (hplain : ∀ c ∈ plain, c.toNat < 0x80 ∧ c ≠ 'k') :
    small = plain.map .scalar ↔ ∃ core : List Char, text = core.map .scalar ∧ core.map Char.toLower = plain := by
  induction h generalizing plain with
  | nil => simp [eq_comm]
  | @cons point text small _ ih =>
    cases point with
    | half place =>
      -- half a pair is no character, neither in the text nor in its lower case
      refine iff_of_false ?_ ?_
      · intro hsmall
        cases plain <;> cases hsmall
      · rintro ⟨core, htext, -⟩
        cases core <;> cases htext
    | scalar c =>
      by_cases hc : c.toNat < 0x80
      · rw [CodePoint.lower, lowerChar_of_ascii hc, List.map_singleton, List.singleton_append]
        constructor
        · intro hsmall
          obtain ⟨d, rest, rfl, hd, hrest⟩ := List.map_eq_cons_iff.mp hsmall.symm
          obtain ⟨core, rfl, hcore⟩ := (ih (List.forall_mem_cons.mp hplain).2).mp hrest.symm
          cases hd
          exact ⟨c :: core, rfl, congrArg (c.toLower :: ·) hcore⟩
        · rintro ⟨core, htext, rfl⟩
          obtain ⟨d, rest, rfl, hd, rfl⟩ := List.map_eq_cons_iff.mp htext.symm
          cases hd
          have hrest := (ih (List.forall_mem_cons.mp hplain).2).mpr ⟨rest, rfl, rfl⟩
          rw [hrest, List.map_cons, List.map_cons]
      · have hbeyond := Nat.le_of_not_lt hc
        refine iff_of_false ?_ ?_
        · intro hsmall
          obtain ⟨d, hd, hnot⟩ := exists_mem_lowerChar hbeyond
          have hmem : CodePoint.scalar d ∈ plain.map CodePoint.scalar :=
            hsmall ▸ List.mem_append_left small (List.mem_map_of_mem hd)
          have hd := hplain d ((List.mem_map_of_injective scalar_injective).mp hmem)
          rcases hnot with hnot | hnot
          · exact absurd hd.1 (Nat.not_lt.mpr hnot)
          · exact hd.2 hnot
        · rintro ⟨core, htext, rfl⟩
          obtain ⟨d, rest, rfl, hd, -⟩ := List.map_eq_cons_iff.mp htext.symm
          cases hd
          rw [List.map_cons, toLower_of_no_capital (.inr (by omega))] at hplain
          exact hc (hplain c List.mem_cons_self).1
  | finalSigma =>
    refine iff_of_false ?_ ?_
    · intro hsmall
      obtain ⟨d, rest, rfl, hd, -⟩ := List.map_eq_cons_iff.mp hsmall.symm
      cases hd
      exact absurd (hplain 'ς' List.mem_cons_self).1 (by decide)
    · rintro ⟨core, htext, rfl⟩
      obtain ⟨d, rest, rfl, hd, -⟩ := List.map_eq_cons_iff.mp htext.symm
      cases hd
      exact absurd (hplain 'Σ' List.mem_cons_self).1 (by decide)

end Emptiness.Text
