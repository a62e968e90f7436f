/-!
# UTF-8

Octets are decoded by a small automaton: either between characters, or inside a sequence of which a number of
octets is still owed. The first continuation octet of some sequences is restricted, which excludes overlong
forms, surrogates and everything above U+10FFFF. A failure names the octets that cannot be decoded.
-/

namespace Emptiness.Text

/-- Why octets are not UTF-8. -/
inductive Utf8Reason where
  | invalidStart
  | invalidContinuation
  | unexpectedEnd
  deriving DecidableEq, Repr

/-- Octets that cannot be decoded: where they begin, how many they are, the first of them, and why. -/
structure Utf8Fault where
  position : Nat
  count : Nat
  first : UInt8
  reason : Utf8Reason
  deriving DecidableEq, Repr

/-- A sequence of octets that is not complete: the octets read, how many are owed, the bounds of the next one,
and the bits gathered. -/
structure Utf8Pending where
  first : UInt8
  count : Nat
  owed : Nat
  low : UInt8
  high : UInt8
  bits : Nat

/-- The sequence that an octet beyond ASCII begins. -/
def utf8Start? (octet : UInt8) : Option Utf8Pending :=
  let n := octet.toNat
  if n < 0xc2 then none
  else if n < 0xe0 then some ⟨octet, 1, 1, 0x80, 0xbf, n - 0xc0⟩
  else if n < 0xf0 then
    some ⟨octet, 1, 2, if n = 0xe0 then 0xa0 else 0x80, if n = 0xed then 0x9f else 0xbf, n - 0xe0⟩
  else if n < 0xf5 then
    some ⟨octet, 1, 3, if n = 0xf0 then 0x90 else 0x80, if n = 0xf4 then 0x8f else 0xbf, n - 0xf0⟩
  else none

/-- Decode octets from a position on; `pending` is the sequence that the position lies in. -/
def decodeUtf8From (position : Nat) : Option Utf8Pending → List UInt8 → Except Utf8Fault (List Char)
  | none, [] => .ok []
  | some p, [] => .error ⟨position - p.count, p.count, p.first, .unexpectedEnd⟩
  | none, octet :: rest =>
    if octet < 0x80 then
      (decodeUtf8From (position + 1) none rest).map (Char.ofNat octet.toNat :: ·)
    else match utf8Start? octet with
      | some p => decodeUtf8From (position + 1) (some p) rest
      | none => .error ⟨position, 1, octet, .invalidStart⟩
  | some p, octet :: rest =>
    if p.low ≤ octet && octet ≤ p.high then
      let bits := p.bits * 64 + (octet.toNat - 0x80)
      if p.owed ≤ 1 then
        (decodeUtf8From (position + 1) none rest).map (Char.ofNat bits :: ·)
      else
        decodeUtf8From (position + 1)
          (some { p with count := p.count + 1, owed := p.owed - 1, low := 0x80, high := 0xbf, bits := bits }) rest
    else .error ⟨position - p.count, p.count, p.first, .invalidContinuation⟩

/-- The characters that the octets stand for. -/
def decodeUtf8 (octets : List UInt8) : Except Utf8Fault (List Char) :=
  decodeUtf8From 0 none octets

/-- The beginning of a text that takes at most `limit` octets; the replacement character stands for one that is cut
through. -/
def clipUtf8 (limit : Nat) : List Char → List Char
  | [] => []
  | c :: rest =>
    if c.utf8Size ≤ limit then c :: clipUtf8 (limit - c.utf8Size) rest
    else if limit = 0 then []
    else ['\ufffd']

/-- The wording of a reason. -/
def Utf8Reason.text : Utf8Reason → String
  | .invalidStart => "invalid start byte"
  | .invalidContinuation => "invalid continuation byte"
  | .unexpectedEnd => "unexpected end of data"

/-- Two hexadecimal digits. -/
def hexOctet (octet : UInt8) : String :=
  String.ofList [Nat.digitChar (octet.toNat / 16), Nat.digitChar (octet.toNat % 16)]

/-- The wording of a failure. -/
def Utf8Fault.message (fault : Utf8Fault) : String :=
  let start := toString fault.position
  let place :=
    if fault.count ≤ 1 then "byte 0x" ++ hexOctet fault.first ++ " in position " ++ start
    else "bytes in position " ++ start ++ "-" ++ toString (fault.position + fault.count - 1)
  "'utf-8' codec can't decode " ++ place ++ ": " ++ fault.reason.text

end Emptiness.Text
