import Emptiness.Proofs.Json.Recognition
import Emptiness.Proofs.Text.Trim
import Mathlib.Logic.Relation

/-!
# What surrounds a document

A phrase is spelled by the characters before the rest of a text, and the rest is not looked at. So a document is spelled
by the text without the blanks around it, and nothing else matters: further blanks around a text neither make it a
document nor spoil it. Nor do they change what is read: a document is read as the same one, and if the text runs into a
numeral that is too long, it still does with blanks around it.
-/

namespace Emptiness.Json

variable {source middle rest : List Char}

/-! ## The rest of a text -/

/-- The text and its rest are related by the characters before the rest: whatever stands after these, it is related. -/
def HoldsBefore (relates : List Char → List Char → Prop) (source rest : List Char) : Prop :=
  ∃ front, source = front ++ rest ∧ ∀ other, relates (front ++ other) other

/-- What holds by the characters before the rest also holds if the rest goes on. -/
theorem HoldsBefore.append_rest {relates : List Char → List Char → Prop} (h : HoldsBefore relates source rest)
    (more : List Char) : relates (source ++ more) (rest ++ more) := by
  obtain ⟨front, rfl, hfront⟩ := h
  rw [List.append_assoc]
  exact hfront _

/-- What holds for another reason holds by the same characters. -/
theorem HoldsBefore.imp {relates other : List Char → List Char → Prop} (h : HoldsBefore relates source rest)
    (himp : ∀ {a b}, relates a b → other a b) : HoldsBefore other source rest := by
  obtain ⟨front, hsource, hfront⟩ := h
  exact ⟨front, hsource, fun more => himp (hfront more)⟩

/-- Of two parts in a row the second one stands in what the first one leaves. -/
theorem HoldsBefore.comp {first second : List Char → List Char → Prop} (h : HoldsBefore first source middle)
    (hnext : HoldsBefore second middle rest) : HoldsBefore (Relation.Comp first second) source rest := by
  obtain ⟨front, rfl, hfront⟩ := h
  obtain ⟨next, rfl, hnext⟩ := hnext
  refine ⟨front ++ next, (List.append_assoc _ _ _).symm, fun other => ⟨next ++ other, ?_, hnext other⟩⟩
  rw [List.append_assoc]
  exact hfront _

/-- Characters that stand before every text belong to the front. -/
theorem HoldsBefore.append {relates : List Char → List Char → Prop} (start : List Char)
    (h : HoldsBefore (fun a b => relates (start ++ a) b) source rest) : HoldsBefore relates (start ++ source) rest := by
  obtain ⟨front, rfl, hfront⟩ := h
  refine ⟨start ++ front, (List.append_assoc _ _ _).symm, fun other => ?_⟩
  rw [List.append_assoc]
  exact hfront other

/-- A character that stands before every text belongs to the front. -/
theorem HoldsBefore.cons {relates : List Char → List Char → Prop} (c : Char)
    (h : HoldsBefore (fun a b => relates (c :: a) b) source rest) : HoldsBefore relates (c :: source) rest :=
  h.append [c]

/-- A margin is a margin of every text. -/
theorem Margin.holdsBefore (h : Margin source rest) : HoldsBefore Margin source rest := by
  obtain ⟨blanks, hblanks, rfl⟩ := h
  exact ⟨blanks, rfl, fun other => ⟨blanks, hblanks, rfl⟩⟩

/-- So is a margin before a mark. -/
theorem Margin.holdsBefore_mark {mark : Char} (h : Margin source (mark :: rest)) :
    HoldsBefore (fun a b => Margin a (mark :: b)) source rest := by
  obtain ⟨blanks, hblanks, rfl⟩ := h
  refine ⟨blanks ++ [mark], List.append_cons _ _ _, fun other => ⟨blanks, hblanks, ?_⟩⟩
  rw [← List.append_cons]

/-- A quoted text ends with its quote, whatever follows. -/
theorem SpellsUnits.holdsBefore {units : List Nat} (h : SpellsUnits units source rest) :
    HoldsBefore (SpellsUnits units) source rest := by
  induction h with
  | close => exact ⟨['"'], rfl, fun _ => .close⟩
  | plain hquote hmark hprinted _ ih =>
    obtain ⟨front, rfl, hfront⟩ := ih
    exact ⟨_ :: front, rfl, fun other => .plain hquote hmark hprinted (hfront other)⟩
  | letter hletter _ ih =>
    obtain ⟨front, rfl, hfront⟩ := ih
    exact ⟨'\\' :: _ :: front, rfl, fun other => .letter hletter (hfront other)⟩
  | @hex a b c d _ _ _ _ hunit _ ih =>
    obtain ⟨front, rfl, hfront⟩ := ih
    exact ⟨'\\' :: 'u' :: a :: b :: c :: d :: front, rfl, fun other => .hex hunit (hfront other)⟩

/-- Digits are no blanks. -/
theorem isSpace_of_isDigit {c : Char} (h : c.isDigit = true) : isSpace c = false :=
  (not_mark_of_isDigit h).1

/-- A fraction is spelled by its point and its digits. -/
theorem SpellsFraction.exists_front {fraction : List Char} (h : SpellsFraction fraction source rest) :
    ∃ front, source = front ++ rest ∧ (∀ c ∈ front, isSpace c = false) ∧
      ∀ other, SpellsFraction fraction (front ++ other) other := by
  cases h with
  | absent => exact ⟨[], rfl, nofun, fun _ => .absent⟩
  | point hne hdigits =>
    refine ⟨'.' :: fraction, rfl, ?_, fun other => .point hne hdigits⟩
    exact List.forall_mem_cons.mpr ⟨rfl, fun c hc => isSpace_of_isDigit (hdigits c hc)⟩

/-- An exponent is spelled by its mark, its sign and its digits. -/
theorem SpellsExponent.exists_front {exponent : Option Int} (h : SpellsExponent exponent source rest) :
    ∃ front, source = front ++ rest ∧ (∀ c ∈ front, isSpace c = false) ∧
      ∀ other, SpellsExponent exponent (front ++ other) other := by
  cases h with
  | absent => exact ⟨[], rfl, nofun, fun _ => .absent⟩
  | @marked mark negative sign digits _ hmark hsign hne hdigits =>
    refine ⟨mark :: (sign ++ digits), ?_, ?_, fun other => ?_⟩
    · rw [List.cons_append, List.append_assoc]
    · have hsigns : ∀ entry ∈ signs, entry.2.all (fun c => !isSpace c) = true := by decide
      rw [List.forall_mem_cons, List.forall_mem_append]
      refine ⟨?_, fun c hc => ?_, fun c hc => isSpace_of_isDigit (hdigits c hc)⟩
      · rcases hmark with rfl | rfl <;> rfl
      · have hno : (!isSpace c) = true := List.all_eq_true.mp (hsigns _ hsign) c hc
        rwa [Bool.not_eq_true'] at hno
    · rw [List.cons_append, List.append_assoc]
      exact .marked hmark hsign hne hdigits

/-- So a fraction is spelled by the characters before the rest of the text. -/
theorem SpellsFraction.holdsBefore {fraction : List Char} (h : SpellsFraction fraction source rest) :
    HoldsBefore (SpellsFraction fraction) source rest := by
  obtain ⟨front, hsource, -, hfront⟩ := h.exists_front
  exact ⟨front, hsource, hfront⟩

/-- So is an exponent. -/
theorem SpellsExponent.holdsBefore {exponent : Option Int} (h : SpellsExponent exponent source rest) :
    HoldsBefore (SpellsExponent exponent) source rest := by
  obtain ⟨front, hsource, -, hfront⟩ := h.exists_front
  exact ⟨front, hsource, hfront⟩

/-- A phrase is spelled by the characters before the rest of the text. -/
theorem Spells.holdsBefore {admits : Nat → Prop} {phrase : Phrase} (h : Spells admits phrase source rest) :
    HoldsBefore (Spells admits phrase) source rest := by
  induction h with
  | word hword => exact ⟨_, rfl, fun _ => .word hword⟩
  | @whole negative digits rest hwhole hlength =>
    refine ⟨minus negative ++ digits, (List.append_assoc _ _ _).symm, fun other => ?_⟩
    rw [List.append_assoc]
    exact .whole hwhole hlength
  | @decimal negative whole _ _ _ _ _ hwhole hfraction hexponent hsome =>
    apply HoldsBefore.append (minus negative)
    apply HoldsBefore.append whole
    exact (hfraction.holdsBefore.comp hexponent.holdsBefore).imp
      fun ⟨_, hfraction, hexponent⟩ => .decimal hwhole hfraction hexponent hsome
  | text hunits => exact .cons '"' (hunits.holdsBefore.imp .text)
  | emptyArray hmargin => exact .cons '[' (hmargin.holdsBefore_mark.imp .emptyArray)
  | array hmargin _ ih =>
    exact .cons '[' ((hmargin.holdsBefore.comp ih).imp fun ⟨_, hmargin, hitems⟩ => .array hmargin hitems)
  | emptyObject hmargin => exact .cons '\x7b' (hmargin.holdsBefore_mark.imp .emptyObject)
  | object hmargin _ ih =>
    exact .cons '\x7b' ((hmargin.holdsBefore.comp ih).imp fun ⟨_, hmargin, hmembers⟩ => .object hmargin hmembers)
  | member hname hcolon hmargin _ ih =>
    have hparts := ((hname.holdsBefore.comp hcolon.holdsBefore_mark).comp hmargin.holdsBefore).comp ih
    exact .cons '"' (hparts.imp fun ⟨_, ⟨_, ⟨_, hname, hcolon⟩, hmargin⟩, hitem⟩ => .member hname hcolon hmargin hitem)
  | lastItem _ hclose ih =>
    exact (ih.comp hclose.holdsBefore_mark).imp fun ⟨_, hitem, hclose⟩ => .lastItem hitem hclose
  | moreItems _ hcomma hmargin _ ih ih' =>
    have hparts := ((ih.comp hcomma.holdsBefore_mark).comp hmargin.holdsBefore).comp ih'
    exact hparts.imp fun ⟨_, ⟨_, ⟨_, hitem, hcomma⟩, hmargin⟩, hmore⟩ => .moreItems hitem hcomma hmargin hmore
  | lastMember _ hclose ih =>
    exact (ih.comp hclose.holdsBefore_mark).imp fun ⟨_, hmember, hclose⟩ => .lastMember hmember hclose
  | moreMembers _ hcomma hmargin _ ih ih' =>
    have hparts := ((ih.comp hcomma.holdsBefore_mark).comp hmargin.holdsBefore).comp ih'
    exact hparts.imp fun ⟨_, ⟨_, ⟨_, hmember, hcomma⟩, hmargin⟩, hmore⟩ => .moreMembers hmember hcomma hmargin hmore

/-! ## Blanks around a document -/

/-- The document is spelled in the text with blanks around it, if whole numerals have admitted lengths. -/
def Stands (admits : Nat → Prop) (d : Json) (source : List Char) : Prop :=
  ∃ start rest, Margin source start ∧ Spells admits (.item d) start rest ∧ Margin rest []

/-- A blank does not end a phrase. -/
theorem isSpace_of_endsPhrase {c : Char} (h : endsPhrase c = true) : isSpace c = false := by
  rw [Bool.eq_false_iff]
  intro hspace
  simp only [isSpace, Bool.or_eq_true, decide_eq_true_eq] at hspace
  obtain ((rfl | rfl) | rfl) | rfl := hspace <;> exact absurd h (by decide)

/-- What spells a document has no blanks around it. -/
theorem Spells.trim_eq {admits : Nat → Prop} {phrase : Phrase} (h : Spells admits phrase source []) :
    Text.trim isSpace source = source := by
  apply Text.trim_eq_self h.begins.stops
  obtain ⟨before, last, hsource, hlast⟩ := h.endsBefore
  rw [hsource, List.reverse_append, List.reverse_cons, List.reverse_nil, List.nil_append, List.singleton_append]
  exact Text.stops_cons.mpr (isSpace_of_endsPhrase hlast)

/-- A document stands in a text exactly if the text without the blanks around it spells the document. -/
theorem stands_iff_trim {admits : Nat → Prop} {d : Json} :
    Stands admits d source ↔ Spells admits (.item d) (Text.trim isSpace source) [] := by
  constructor
  · rintro ⟨start, rest, ⟨blanks, hblanks, rfl⟩, hspells, ⟨more, hmore, hrest⟩⟩
    obtain ⟨front, rfl, hfront⟩ := hspells.holdsBefore
    have hcore := hfront []
    rw [List.append_nil] at hcore hrest
    rw [hrest, ← List.append_assoc, Text.trim_append hblanks hmore, hcore.trim_eq]
    exact hcore
  · intro h
    obtain ⟨front, back, hsource, hfront, hback⟩ := Text.exists_margins isSpace source
    have hspells := h.holdsBefore.append_rest back
    rw [List.append_assoc] at hsource
    exact ⟨_, back, ⟨front, hfront, hsource⟩, hspells, ⟨back, hback, (List.append_nil back).symm⟩⟩

variable {front back : List Char}

/-- Further blanks around a text make no difference to the document that stands in it. -/
theorem stands_append {admits : Nat → Prop} {d : Json} (hfront : ∀ c ∈ front, isSpace c = true)
    (hback : ∀ c ∈ back, isSpace c = true) : Stands admits d (front ++ source ++ back) ↔ Stands admits d source := by
  rw [stands_iff_trim, stands_iff_trim, Text.trim_append hfront hback]

/-- A text between blanks is a document exactly if it is one without them. -/
theorem isDocument_append {d : Json} (hfront : ∀ c ∈ front, isSpace c = true) (hback : ∀ c ∈ back, isSpace c = true) :
    IsDocument d (front ++ source ++ back) ↔ IsDocument d source :=
  stands_append hfront hback

/-! ## Blanks after a numeral that is too long -/

/-- What stands before blanks without one of its own stands in the text before them. -/
theorem exists_rest_of_append {part more : List Char} (hpart : ∀ c ∈ part, isSpace c = false)
    (hback : ∀ c ∈ back, isSpace c = true) (h : rest ++ back = part ++ more) : ∃ tail, rest = part ++ tail := by
  rcases List.append_eq_append_iff.mp h with ⟨tail, hsplit, hblanks⟩ | ⟨tail, hsplit, -⟩
  · cases tail with
    | nil => exact ⟨[], by rw [hsplit, List.append_nil, List.append_nil]⟩
    | cons c tail =>
      have hspace : isSpace c = true := hback c (by rw [hblanks]; exact List.mem_cons_self)
      have hnone : isSpace c = false := hpart c (by rw [hsplit]; exact List.mem_append_right _ List.mem_cons_self)
      cases hspace.symm.trans hnone
  · exact ⟨tail, hsplit⟩

/-- A whole number that ends in a text also ends before blanks after the text. -/
theorem NumberEnds.append_blanks (h : NumberEnds rest) (hback : ∀ c ∈ back, isSpace c = true) :
    NumberEnds (rest ++ back) where
  stops := by
    cases rest with
    | nil =>
      intro c hc
      have hspace := hback c (List.mem_of_mem_head? hc)
      rw [Bool.eq_false_iff]
      intro hdigit
      cases hspace.symm.trans (isSpace_of_isDigit hdigit)
    | cons c more => exact Text.stops_cons.mpr (Text.stops_cons.mp h.stops)
  no_fraction fraction more hfraction := by
    obtain ⟨part, hsplit, hpart, hspells⟩ := hfraction.exists_front
    obtain ⟨tail, rfl⟩ := exists_rest_of_append hpart hback hsplit
    exact h.no_fraction fraction tail (hspells tail)
  no_exponent exponent more hexponent := by
    obtain ⟨part, hsplit, hpart, hspells⟩ := hexponent.exists_front
    obtain ⟨tail, rfl⟩ := exists_rest_of_append hpart hback hsplit
    exact h.no_exponent exponent tail (hspells tail)

/-- A text that runs into a numeral that is too long also does with blanks after it. -/
theorem RunsInto.append_blanks {n : Nat} {place : Place} (h : RunsInto n place source)
    (hback : ∀ c ∈ back, isSpace c = true) : RunsInto n place (source ++ back) := by
  induction h with
  | numeral hwhole hlength hlong hends =>
    rw [List.append_assoc, List.append_assoc]
    exact .numeral hwhole hlength hlong (hends.append_blanks hback)
  | array hmargin _ ih => exact .array (hmargin.holdsBefore.append_rest back) ih
  | object hmargin _ ih => exact .object (hmargin.holdsBefore.append_rest back) ih
  | member hname hcolon hmargin _ ih =>
    exact .member (hname.holdsBefore.append_rest back) (hcolon.holdsBefore_mark.append_rest back)
      (hmargin.holdsBefore.append_rest back) ih
  | firstItem _ ih => exact .firstItem ih
  | laterItem hitem hcomma hmargin _ ih =>
    exact .laterItem (hitem.holdsBefore.append_rest back) (hcomma.holdsBefore_mark.append_rest back)
      (hmargin.holdsBefore.append_rest back) ih
  | firstMember _ ih => exact .firstMember ih
  | laterMember hmember hcomma hmargin _ ih =>
    exact .laterMember (hmember.holdsBefore.append_rest back) (hcomma.holdsBefore_mark.append_rest back)
      (hmargin.holdsBefore.append_rest back) ih

/-- Blanks around a text do not keep it from running into a numeral that is too long. -/
theorem ReachesLongNumeral.append_blanks {n : Nat} (h : ReachesLongNumeral n source)
    (hfront : ∀ c ∈ front, isSpace c = true) (hback : ∀ c ∈ back, isSpace c = true) :
    ReachesLongNumeral n (front ++ source ++ back) := by
  obtain ⟨start, ⟨blanks, hblanks, rfl⟩, hruns⟩ := h
  refine ⟨start ++ back, ⟨front ++ blanks, List.forall_mem_append.mpr ⟨hfront, hblanks⟩, ?_⟩, hruns.append_blanks hback⟩
  simp only [List.append_assoc]

/-- A document is read alike, or refused alike, with blanks around it and without. -/
theorem IsDocument.read_append {d : Json} {front text back : String} (h : IsDocument d text.toList)
    (hfront : ∀ c ∈ front.toList, isSpace c = true) (hback : ∀ c ∈ back.toList, isSpace c = true) :
    Json.read (front ++ text ++ back) = Json.read text := by
  have htext : (front ++ text ++ back).toList = front.toList ++ text.toList ++ back.toList := by
    rw [String.toList_append, String.toList_append]
  obtain ⟨start, rest, hmargin, hspells, hrest⟩ := h
  rcases hspells.short_or_runsInto (hrest.stops_number nofun) with hshort | ⟨n, hruns⟩
  · have hstands : Stands IsShort d text.toList := ⟨start, rest, hmargin, hshort, hrest⟩
    have hread : Json.read (front ++ text ++ back) = .ok d := by
      apply read_eq_ok_iff.mpr
      rw [htext]
      exact (stands_append hfront hback).mpr hstands
    exact hread.trans (read_eq_ok_iff.mpr hstands).symm
  · have hlong : ReachesLongNumeral n text.toList := ⟨start, hmargin, hruns⟩
    have hread : Json.read (front ++ text ++ back) = .error (.numeralTooLong n) := by
      apply read_eq_long_iff.mpr
      rw [htext]
      exact hlong.append_blanks hfront hback
    exact hread.trans (read_eq_long_iff.mpr hlong).symm

end Emptiness.Json
