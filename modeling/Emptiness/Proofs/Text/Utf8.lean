import Emptiness.Proofs.Fault
import Emptiness.Proofs.Text.Lowercase
import Emptiness.Text.Utf8
import Mathlib.Algebra.Group.Nat.Defs

/-!
# What UTF-8 decodes

The decoder accepts the octets that encode a text, and answers this text: an incomplete sequence is completed exactly by
the octets that the encoding of a character still has. So octets that it refuses encode no text at all.
-/

namespace Emptiness.Text

/-- The sequence after another one of its octets. -/
def Utf8Pending.next (p : Utf8Pending) (octet : UInt8) : Utf8Pending :=
  ⟨p.first, p.count + 1, p.owed - 1, 0x80, 0xbf, p.bits * 64 + (octet.toNat - 0x80)⟩

/-- The octet may come next in a sequence. -/
def Utf8Pending.Admits (p : Utf8Pending) (octet : UInt8) : Prop :=
  p.low.toNat ≤ octet.toNat ∧ octet.toNat ≤ p.high.toNat

/-- The octets complete a sequence, and it is the one of this character. -/
inductive Utf8Pending.Completes : Utf8Pending → List UInt8 → Char → Prop
  | last {p : Utf8Pending} {octet : UInt8} (howed : p.owed ≤ 1) (hadmits : p.Admits octet) :
      Completes p [octet] (Char.ofNat (p.next octet).bits)
  | more {p : Utf8Pending} {octet : UInt8} {rest : List UInt8} {c : Char} (howed : 1 < p.owed)
      (hadmits : p.Admits octet) (hrest : Completes (p.next octet) rest c) : Completes p (octet :: rest) c

variable {position : Nat} {p : Utf8Pending} {octet : UInt8} {octets rest : List UInt8} {c : Char} {text : List Char}

/-- The decoder looks whether an octet is between the bounds. -/
theorem Utf8Pending.admits_iff : (decide (p.low ≤ octet) && decide (octet ≤ p.high)) = true ↔ p.Admits octet := by
  rw [Bool.and_eq_true, decide_eq_true_iff, decide_eq_true_iff, UInt8.le_iff_toNat_le, UInt8.le_iff_toNat_le, Admits]

/-- The last octet of a sequence ends its character. -/
theorem decodeUtf8From_last (howed : p.owed ≤ 1) (hadmits : p.Admits octet) :
    decodeUtf8From position (some p) (octet :: rest) =
      (decodeUtf8From (position + 1) none rest).map (Char.ofNat (p.next octet).bits :: ·) := by
  rw [decodeUtf8From, if_pos (Utf8Pending.admits_iff.mpr hadmits)]
  simp only [if_pos howed]
  rfl

/-- Any other octet of a sequence leads on. -/
theorem decodeUtf8From_more (howed : 1 < p.owed) (hadmits : p.Admits octet) :
    decodeUtf8From position (some p) (octet :: rest) = decodeUtf8From (position + 1) (some (p.next octet)) rest := by
  rw [decodeUtf8From, if_pos (Utf8Pending.admits_iff.mpr hadmits)]
  simp only [if_neg (Nat.not_le_of_lt howed)]
  rfl

/-- Only an octet that a sequence admits is accepted in it. -/
theorem admits_of_decodeUtf8From (h : decodeUtf8From position (some p) (octet :: rest) = .ok text) :
    p.Admits octet := by
  rw [decodeUtf8From] at h
  split at h
  case isTrue htest => exact Utf8Pending.admits_iff.mp htest
  case isFalse => cases h

/-- The octets that complete a sequence are decoded as its character. -/
theorem Utf8Pending.Completes.decodeUtf8From_eq (h : p.Completes octets c) (position : Nat) (rest : List UInt8) :
    decodeUtf8From position (some p) (octets ++ rest) =
      (decodeUtf8From (position + octets.length) none rest).map (c :: ·) := by
  induction h generalizing position with
  | last howed hadmits => exact decodeUtf8From_last howed hadmits
  | @more p octet front c howed hadmits _ ih =>
    have hposition : position + 1 + front.length = position + (octet :: front).length := by
      rw [List.length_cons]
      omega
    rw [List.cons_append, decodeUtf8From_more howed hadmits, ih, hposition]

/-- What is decoded inside a sequence begins with octets that complete it. -/
theorem exists_completes (h : decodeUtf8From position (some p) octets = .ok text) :
    ∃ front rest c, octets = front ++ rest ∧ p.Completes front c := by
  induction octets generalizing position p with
  | nil => cases h
  | cons octet rest ih =>
    have hadmits := admits_of_decodeUtf8From h
    by_cases howed : p.owed ≤ 1
    · exact ⟨[octet], rest, _, rfl, .last howed hadmits⟩
    · rw [decodeUtf8From_more (by omega) hadmits] at h
      obtain ⟨front, tail, c, rfl, hcompletes⟩ := ih h
      exact ⟨octet :: front, tail, c, rfl, .more (by omega) hadmits hcompletes⟩

/-! ## Sequences of characters -/

/-- One octet completes a sequence that owes one. -/
theorem Utf8Pending.completes_last_iff (howed : p.owed ≤ 1) :
    p.Completes rest c ↔ ∃ x, rest = [x] ∧ p.Admits x ∧ c = Char.ofNat (p.next x).bits := by
  constructor
  · intro h
    cases h with
    | @last _ x _ hadmits => exact ⟨x, rfl, hadmits, rfl⟩
    | more hmore => omega
  · rintro ⟨x, rfl, hadmits, hc⟩
    rw [hc]
    exact .last howed hadmits

/-- A sequence that owes more octets is completed by one of them and by what completes it after that. -/
theorem Utf8Pending.completes_more_iff (howed : 1 < p.owed) :
    p.Completes rest c ↔ ∃ x more, rest = x :: more ∧ p.Admits x ∧ (p.next x).Completes more c := by
  constructor
  · intro h
    cases h with
    | last hlast => omega
    | more _ hadmits hrest => exact ⟨_, _, rfl, hadmits, hrest⟩
  · rintro ⟨x, more, rfl, hadmits, hrest⟩
    exact .more howed hadmits hrest

/-- A lower bound that is raised under a condition. -/
theorem ite_toNat_le_iff {q : Prop} [Decidable q] {raised least : UInt8} {n : Nat} (h : least.toNat ≤ raised.toNat) :
    (if q then raised else least).toNat ≤ n ↔ least.toNat ≤ n ∧ (q → raised.toNat ≤ n) := by
  split
  case isTrue hq => exact ⟨fun hn => ⟨Nat.le_trans h hn, fun _ => hn⟩, fun hn => hn.2 hq⟩
  case isFalse hq => exact ⟨fun hn => ⟨hn, fun hq' => absurd hq' hq⟩, And.left⟩

/-- An upper bound that is lowered under a condition. -/
theorem le_ite_toNat_iff {q : Prop} [Decidable q] {lowered most : UInt8} {n : Nat} (h : lowered.toNat ≤ most.toNat) :
    n ≤ (if q then lowered else most).toNat ↔ n ≤ most.toNat ∧ (q → n ≤ lowered.toNat) := by
  split
  case isTrue hq => exact ⟨fun hn => ⟨Nat.le_trans hn h, fun _ => hn⟩, fun hn => hn.2 hq⟩
  case isFalse hq => exact ⟨fun hn => ⟨hn, fun hq' => absurd hq' hq⟩, And.left⟩

/-- A character of two octets. -/
theorem utf8EncodeChar_two {a x : UInt8} (ha : 0xc2 ≤ a.toNat) (ha' : a.toNat < 0xe0) (hx : 0x80 ≤ x.toNat)
    (hx' : x.toNat ≤ 0xbf) :
    String.utf8EncodeChar (Char.ofNat ((a.toNat - 0xc0) * 64 + (x.toNat - 0x80))) = [a, x] := by
  generalize hn : (a.toNat - 0xc0) * 64 + (x.toNat - 0x80) = n
  have hval : (Char.ofNat n).val.toNat = n := toNat_ofNat_of_valid (.inl (by omega))
  have hfirst : n / 64 % 32 + 0xc0 = a.toNat := by omega
  have hlast : n % 64 + 0x80 = x.toNat := by omega
  rw [String.utf8EncodeChar, hval]
  simp only [if_neg (show ¬ n ≤ 127 by omega), if_pos (show n ≤ 2047 by omega)]
  rw [hfirst, hlast, UInt8.ofNat_toNat, UInt8.ofNat_toNat]

/-- A character of three octets; the bounds of the second exclude overlong forms and surrogates. -/
theorem utf8EncodeChar_three {a x y : UInt8} (ha : 0xe0 ≤ a.toNat) (ha' : a.toNat < 0xf0) (hx : 0x80 ≤ x.toNat)
    (hx' : x.toNat ≤ 0xbf) (hlow : a.toNat = 0xe0 → 0xa0 ≤ x.toNat) (hhigh : a.toNat = 0xed → x.toNat ≤ 0x9f)
    (hy : 0x80 ≤ y.toNat) (hy' : y.toNat ≤ 0xbf) :
    String.utf8EncodeChar
      (Char.ofNat (((a.toNat - 0xe0) * 64 + (x.toNat - 0x80)) * 64 + (y.toNat - 0x80))) = [a, x, y] := by
  generalize hn : ((a.toNat - 0xe0) * 64 + (x.toNat - 0x80)) * 64 + (y.toNat - 0x80) = n
  have hvalid : n.isValidChar := by
    rw [Nat.isValidChar]
    omega
  have hval : (Char.ofNat n).val.toNat = n := toNat_ofNat_of_valid hvalid
  have hfirst : n / 4096 % 16 + 0xe0 = a.toNat := by omega
  have hmiddle : n / 64 % 64 + 0x80 = x.toNat := by omega
  have hlast : n % 64 + 0x80 = y.toNat := by omega
  rw [String.utf8EncodeChar, hval]
  simp only [if_neg (show ¬ n ≤ 127 by omega), if_neg (show ¬ n ≤ 2047 by omega), if_pos (show n ≤ 65535 by omega)]
  rw [hfirst, hmiddle, hlast, UInt8.ofNat_toNat, UInt8.ofNat_toNat, UInt8.ofNat_toNat]

/-- A character of four octets; the bounds of the second exclude overlong forms and all that is no character. -/
theorem utf8EncodeChar_four {a x y z : UInt8} (ha : 0xf0 ≤ a.toNat) (ha' : a.toNat < 0xf5) (hx : 0x80 ≤ x.toNat)
    (hx' : x.toNat ≤ 0xbf) (hlow : a.toNat = 0xf0 → 0x90 ≤ x.toNat) (hhigh : a.toNat = 0xf4 → x.toNat ≤ 0x8f)
    (hy : 0x80 ≤ y.toNat) (hy' : y.toNat ≤ 0xbf) (hz : 0x80 ≤ z.toNat) (hz' : z.toNat ≤ 0xbf) :
    String.utf8EncodeChar
      (Char.ofNat ((((a.toNat - 0xf0) * 64 + (x.toNat - 0x80)) * 64 + (y.toNat - 0x80)) * 64 + (z.toNat - 0x80))) =
        [a, x, y, z] := by
  generalize hn : (((a.toNat - 0xf0) * 64 + (x.toNat - 0x80)) * 64 + (y.toNat - 0x80)) * 64 + (z.toNat - 0x80) = n
  have hvalid : n.isValidChar := by
    rw [Nat.isValidChar]
    omega
  have hval : (Char.ofNat n).val.toNat = n := toNat_ofNat_of_valid hvalid
  have hfirst : n / 262144 % 8 + 0xf0 = a.toNat := by omega
  have hsecond : n / 4096 % 64 + 0x80 = x.toNat := by omega
  have hthird : n / 64 % 64 + 0x80 = y.toNat := by omega
  have hlast : n % 64 + 0x80 = z.toNat := by omega
  rw [String.utf8EncodeChar, hval]
  simp only [if_neg (show ¬ n ≤ 127 by omega), if_neg (show ¬ n ≤ 2047 by omega), if_neg (show ¬ n ≤ 65535 by omega)]
  rw [hfirst, hsecond, hthird, hlast, UInt8.ofNat_toNat, UInt8.ofNat_toNat, UInt8.ofNat_toNat, UInt8.ofNat_toNat]

/-- The octets that complete a sequence which an octet begins are those of a character after the first. -/
theorem utf8EncodeChar_of_completes (hstart : utf8Start? octet = some p) (h : p.Completes rest c) :
    String.utf8EncodeChar c = octet :: rest := by
  unfold utf8Start? at hstart
  dsimp only at hstart
  split at hstart
  · cases hstart
  -- one case for each number of octets that a first one may owe
  split at hstart
  · cases hstart
    obtain ⟨x, rfl, ⟨hx, hx'⟩, hc⟩ := (Utf8Pending.completes_last_iff (Nat.le_refl 1)).mp h
    rw [hc]
    exact utf8EncodeChar_two (by omega) (by omega) hx hx'
  split at hstart
  · cases hstart
    obtain ⟨x, _, rfl, ⟨hx, hx'⟩, h⟩ := (Utf8Pending.completes_more_iff (show 1 < 2 by decide)).mp h
    obtain ⟨y, rfl, ⟨hy, hy'⟩, hc⟩ := (Utf8Pending.completes_last_iff (Nat.le_refl 1)).mp h
    obtain ⟨hx, hlow⟩ := (ite_toNat_le_iff (by decide)).mp hx
    obtain ⟨hx', hhigh⟩ := (le_ite_toNat_iff (by decide)).mp hx'
    rw [hc]
    exact utf8EncodeChar_three (by omega) (by omega) hx hx' hlow hhigh hy hy'
  split at hstart
  · cases hstart
    obtain ⟨x, _, rfl, ⟨hx, hx'⟩, h⟩ := (Utf8Pending.completes_more_iff (show 1 < 3 by decide)).mp h
    obtain ⟨y, _, rfl, ⟨hy, hy'⟩, h⟩ := (Utf8Pending.completes_more_iff (show 1 < 2 by decide)).mp h
    obtain ⟨z, rfl, ⟨hz, hz'⟩, hc⟩ := (Utf8Pending.completes_last_iff (Nat.le_refl 1)).mp h
    obtain ⟨hx, hlow⟩ := (ite_toNat_le_iff (by decide)).mp hx
    obtain ⟨hx', hhigh⟩ := (le_ite_toNat_iff (by decide)).mp hx'
    rw [hc]
    exact utf8EncodeChar_four (by omega) (by omega) hx hx' hlow hhigh hy hy' hz hz'
  · cases hstart

/-- Every number below 256 is one of an octet. -/
theorem exists_octet {n : Nat} (h : n < 0x100) : ∃ octet : UInt8, octet.toNat = n :=
  ⟨UInt8.ofNat n, UInt8.toNat_ofNat_of_lt h⟩

/-- An octet inside a sequence, with six bits of a number. -/
def tailOctet (n : Nat) : UInt8 :=
  UInt8.ofNat (n % 64 + 0x80)

/-- An octet inside a sequence has its bits above a mark. -/
theorem toNat_tailOctet (n : Nat) : (tailOctet n).toNat = n % 64 + 0x80 :=
  UInt8.toNat_ofNat_of_lt (Nat.add_lt_add_right (Nat.lt_trans (Nat.mod_lt n (by decide)) (by decide)) 0x80)

/-- A sequence that has gathered the leading bits of a number is completed by octets with the others. -/
theorem exists_completes_of_bits {n owed : Nat} (howed : p.owed = owed + 1) (hbits : n / 64 ^ (owed + 1) = p.bits)
    (hadmits : p.Admits (tailOctet (n / 64 ^ owed))) : ∃ rest, p.Completes rest (Char.ofNat n) := by
  -- each octet moves six bits of `n` to those gathered; only the second octet of all has bounds of its own
  induction owed generalizing p with
  | zero =>
    have hlast := Utf8Pending.Completes.last (by omega) hadmits
    have hnext : (p.next (tailOctet (n / 64 ^ 0))).bits = n := by
      rw [Utf8Pending.next, toNat_tailOctet]
      dsimp only
      omega
    rw [hnext] at hlast
    exact ⟨_, hlast⟩
  | succ owed ih =>
    have hnext : n / 64 ^ (owed + 1) = (p.next (tailOctet (n / 64 ^ (owed + 1)))).bits := by
      have hsplit : n / 64 ^ (owed + 1 + 1) = n / 64 ^ (owed + 1) / 64 := by rw [Nat.pow_succ, Nat.div_div_eq_div_mul]
      rw [Utf8Pending.next, toNat_tailOctet]
      dsimp only
      omega
    have hmore : (p.next (tailOctet (n / 64 ^ (owed + 1)))).Admits (tailOctet (n / 64 ^ owed)) := by
      rw [Utf8Pending.Admits, toNat_tailOctet]
      constructor
      · exact Nat.le_add_left _ _
      · change n / 64 ^ owed % 64 + 0x80 ≤ 0xbf
        omega
    obtain ⟨rest, hrest⟩ := ih (by rw [Utf8Pending.next, howed, Nat.add_sub_cancel]) hnext hmore
    exact ⟨_, .more (by omega) hadmits hrest⟩

/-- The first octet of two. -/
theorem utf8Start?_two (h : 0xc2 ≤ octet.toNat) (h' : octet.toNat < 0xe0) :
    utf8Start? octet = some ⟨octet, 1, 1, 0x80, 0xbf, octet.toNat - 0xc0⟩ := by
  simp only [utf8Start?]
  rw [if_neg (by omega), if_pos h']

/-- The first octet of three. -/
theorem utf8Start?_three (h : 0xe0 ≤ octet.toNat) (h' : octet.toNat < 0xf0) :
    utf8Start? octet = some ⟨octet, 1, 2, if octet.toNat = 0xe0 then 0xa0 else 0x80,
      if octet.toNat = 0xed then 0x9f else 0xbf, octet.toNat - 0xe0⟩ := by
  simp only [utf8Start?]
  rw [if_neg (by omega), if_neg (by omega), if_pos h']

/-- The first octet of four. -/
theorem utf8Start?_four (h : 0xf0 ≤ octet.toNat) (h' : octet.toNat < 0xf5) :
    utf8Start? octet = some ⟨octet, 1, 3, if octet.toNat = 0xf0 then 0x90 else 0x80,
      if octet.toNat = 0xf4 then 0x8f else 0xbf, octet.toNat - 0xf0⟩ := by
  simp only [utf8Start?]
  rw [if_neg (by omega), if_neg (by omega), if_neg (by omega), if_pos h']

/-- Every code point beyond ASCII has a first octet, and a second one that may follow it. -/
theorem exists_start {n : Nat} (hvalid : n.isValidChar) (hascii : 0x80 ≤ n) :
    ∃ octet p owed, utf8Start? octet = some p ∧ p.owed = owed + 1 ∧ n / 64 ^ (owed + 1) = p.bits ∧
      p.Admits (tailOctet (n / 64 ^ owed)) := by
  rw [Nat.isValidChar] at hvalid
  by_cases htwo : n < 0x800
  · obtain ⟨octet, hoctet⟩ := exists_octet (show n / 64 + 0xc0 < 0x100 by omega)
    refine ⟨octet, _, 0, utf8Start?_two (by omega) (by omega), rfl, ?_, ?_⟩
    · rw [hoctet, Nat.add_sub_cancel, Nat.pow_one]
    · rw [Utf8Pending.Admits, toNat_tailOctet]
      refine ⟨Nat.le_add_left _ _, ?_⟩
      change n / 64 ^ 0 % 64 + 0x80 ≤ 0xbf
      omega
  by_cases hthree : n < 0x10000
  · obtain ⟨octet, hoctet⟩ := exists_octet (show n / 4096 + 0xe0 < 0x100 by omega)
    refine ⟨octet, _, 1, utf8Start?_three (by omega) (by omega), rfl, ?_, ?_⟩
    · rewrite [hoctet, Nat.add_sub_cancel]
      rfl
    · rw [Utf8Pending.Admits, toNat_tailOctet]
      dsimp only
      rw [ite_toNat_le_iff (by decide), le_ite_toNat_iff (by decide), hoctet]
      change (0x80 ≤ n / 64 ^ 1 % 64 + 0x80 ∧ (n / 4096 + 0xe0 = 0xe0 → 0xa0 ≤ n / 64 ^ 1 % 64 + 0x80)) ∧
        n / 64 ^ 1 % 64 + 0x80 ≤ 0xbf ∧ (n / 4096 + 0xe0 = 0xed → n / 64 ^ 1 % 64 + 0x80 ≤ 0x9f)
      omega
  · obtain ⟨octet, hoctet⟩ := exists_octet (show n / 262144 + 0xf0 < 0x100 by omega)
    refine ⟨octet, _, 2, utf8Start?_four (by omega) (by omega), rfl, ?_, ?_⟩
    · rewrite [hoctet, Nat.add_sub_cancel]
      rfl
    · rw [Utf8Pending.Admits, toNat_tailOctet]
      dsimp only
      rw [ite_toNat_le_iff (by decide), le_ite_toNat_iff (by decide), hoctet]
      change (0x80 ≤ n / 4096 % 64 + 0x80 ∧ (n / 262144 + 0xf0 = 0xf0 → 0x90 ≤ n / 4096 % 64 + 0x80)) ∧
        n / 4096 % 64 + 0x80 ≤ 0xbf ∧ (n / 262144 + 0xf0 = 0xf4 → n / 4096 % 64 + 0x80 ≤ 0x8f)
      omega

/-- A character beyond ASCII is encoded as an octet that begins a sequence, and the octets that complete it. -/
theorem exists_sequence (hascii : 0x80 ≤ c.toNat) :
    ∃ octet p rest, utf8Start? octet = some p ∧ p.Completes rest c ∧ String.utf8EncodeChar c = octet :: rest := by
  obtain ⟨octet, p, owed, hstart, howed, hbits, hadmits⟩ := exists_start c.valid hascii
  obtain ⟨rest, hrest⟩ := exists_completes_of_bits howed hbits hadmits
  have hchar : Char.ofNat c.val.toNat = c := c.ofNat_toNat
  rw [hchar] at hrest
  exact ⟨octet, p, rest, hstart, hrest, utf8EncodeChar_of_completes hstart hrest⟩

/-! ## Texts -/

/-- The octets are the UTF-8 of a text. -/
def Encodes (octets : List UInt8) (text : List Char) : Prop :=
  octets = text.flatMap String.utf8EncodeChar

/-- An octet of ASCII is decoded as its character. -/
theorem decodeUtf8From_of_ascii (hascii : octet < 0x80) :
    decodeUtf8From position none (octet :: rest) =
      (decodeUtf8From (position + 1) none rest).map (Char.ofNat octet.toNat :: ·) := by
  rw [decodeUtf8From, if_pos hascii]

/-- An octet that begins a sequence leads into it. -/
theorem decodeUtf8From_start (hascii : ¬ octet < 0x80) (hstart : utf8Start? octet = some p) :
    decodeUtf8From position none (octet :: rest) = decodeUtf8From (position + 1) (some p) rest := by
  rw [decodeUtf8From, if_neg hascii, hstart]

/-- An ASCII character is encoded as one octet. -/
theorem utf8EncodeChar_of_ascii (hascii : c.toNat < 0x80) : String.utf8EncodeChar c = [UInt8.ofNat c.toNat] :=
  if_pos (Nat.le_of_lt_succ hascii)

/-- The octet that begins a sequence is beyond ASCII. -/
theorem not_ascii_of_start (hstart : utf8Start? octet = some p) : ¬ octet < 0x80 := by
  intro hascii
  rw [UInt8.lt_iff_toNat_lt] at hascii
  have hsmall : octet.toNat < 0xc2 := Nat.lt_trans hascii (by decide)
  rw [utf8Start?, if_pos hsmall] at hstart
  cases hstart

/-- The octets of a character are decoded as this character. -/
theorem decodeUtf8From_utf8EncodeChar (c : Char) (position : Nat) (rest : List UInt8) :
    ∃ next, decodeUtf8From position none (String.utf8EncodeChar c ++ rest) =
      (decodeUtf8From next none rest).map (c :: ·) := by
  by_cases hascii : c.toNat < 0x80
  · have hoctet : (UInt8.ofNat c.toNat).toNat = c.toNat := UInt8.toNat_ofNat_of_lt (Nat.lt_trans hascii (by decide))
    have hlt : UInt8.ofNat c.toNat < 0x80 := by
      rw [UInt8.lt_iff_toNat_lt, hoctet]
      exact hascii
    refine ⟨position + 1, ?_⟩
    rw [utf8EncodeChar_of_ascii hascii, List.singleton_append, decodeUtf8From_of_ascii hlt, hoctet, Char.ofNat_toNat]
  · obtain ⟨octet, p, front, hstart, hcompletes, hencode⟩ := exists_sequence (Nat.le_of_not_lt hascii)
    refine ⟨position + 1 + front.length, ?_⟩
    rw [hencode, List.cons_append, decodeUtf8From_start (not_ascii_of_start hstart) hstart,
      hcompletes.decodeUtf8From_eq]

/-- What is decoded between characters is nothing, or it begins with the octets of a character. -/
theorem eq_nil_or_exists_utf8EncodeChar (h : decodeUtf8From position none octets = .ok text) :
    octets = [] ∨ ∃ c rest, octets = String.utf8EncodeChar c ++ rest := by
  cases octets with
  | nil => exact .inl rfl
  | cons octet rest =>
    refine .inr ?_
    by_cases hascii : octet < 0x80
    · have hsmall : octet.toNat < 0x80 := UInt8.lt_iff_toNat_lt.mp hascii
      have hval : (Char.ofNat octet.toNat).toNat = octet.toNat :=
        toNat_ofNat_of_valid (.inl (Nat.lt_trans hsmall (by decide)))
      refine ⟨Char.ofNat octet.toNat, rest, ?_⟩
      rw [utf8EncodeChar_of_ascii (by rw [hval]; exact hsmall), hval, UInt8.ofNat_toNat]
      rfl
    · cases hstart : utf8Start? octet with
      | none =>
        rw [decodeUtf8From, if_neg hascii, hstart] at h
        cases h
      | some p =>
        rw [decodeUtf8From_start hascii hstart] at h
        obtain ⟨front, tail, c, rfl, hcompletes⟩ := exists_completes h
        refine ⟨c, tail, ?_⟩
        rw [utf8EncodeChar_of_completes hstart hcompletes]
        rfl

/-- Between characters, the decoder gives a text exactly if the octets encode it. -/
theorem decodeUtf8From_eq_ok_iff :
    decodeUtf8From position none octets = .ok text ↔ Encodes octets text := by
  rw [Encodes]
  constructor
  · intro h
    induction text generalizing position octets with
    | nil =>
      rcases eq_nil_or_exists_utf8EncodeChar h with rfl | ⟨c, rest, rfl⟩
      · rfl
      · obtain ⟨next, hdecode⟩ := decodeUtf8From_utf8EncodeChar c position rest
        rw [hdecode] at h
        obtain ⟨more, -, htext⟩ := map_eq_ok h
        cases htext
    | cons first text ih =>
      rcases eq_nil_or_exists_utf8EncodeChar h with rfl | ⟨c, rest, rfl⟩
      · cases h
      · obtain ⟨next, hdecode⟩ := decodeUtf8From_utf8EncodeChar c position rest
        rw [hdecode] at h
        obtain ⟨more, hmore, htext⟩ := map_eq_ok h
        cases htext
        rw [ih hmore, List.flatMap_cons]
  · rintro rfl
    induction text generalizing position with
    | nil => rfl
    | cons c text ih =>
      obtain ⟨next, hdecode⟩ := decodeUtf8From_utf8EncodeChar c position (text.flatMap String.utf8EncodeChar)
      rw [List.flatMap_cons, hdecode, ih]
      rfl

/-- The octets of a file are decoded exactly if they encode a text, and as this text. -/
theorem decodeUtf8_eq_ok_iff : decodeUtf8 octets = .ok text ↔ Encodes octets text :=
  decodeUtf8From_eq_ok_iff

/-- Octets are refused exactly if they encode no text. -/
theorem exists_decodeUtf8_error_iff :
    (∃ cause, decodeUtf8 octets = .error cause) ↔ ∀ text, ¬ Encodes octets text := by
  simp only [← decodeUtf8_eq_ok_iff]
  cases decodeUtf8 octets with
  | ok text => exact iff_of_false (fun ⟨_, h⟩ => nomatch h) fun h => h text rfl
  | error cause => exact iff_of_true ⟨cause, rfl⟩ fun _ h => nomatch h

end Emptiness.Text
