import Emptiness.Proofs.Json.Parsing

/-!
# Which texts are read as documents

A text is read exactly if it is a document of short numerals with blanks around it. It is refused for a numeral that is
too long exactly if it runs into one, whatever comes after the numeral; this happens in documents, and in texts that are
none as well. Every other text that is a document is read as this document, and the rest is malformed.
-/

namespace Emptiness.Json

variable {source rest : List Char}

/-- The place where a phrase is spelled. -/
def Phrase.place : Phrase → Place
  | .item _ => .item
  | .member _ => .member
  | .items _ => .items
  | .members _ => .members

/-- Given fuel for twice the length of the text, a numeral of `n` digits is reported as too long there. -/
def Place.Reports (n : Nat) : Place → List Char → Prop
  | .item, source => ∀ fuel, 2 * source.length ≤ fuel → readItem fuel source = .error (.numeralTooLong n)
  | .member, source => ∀ fuel, 2 * source.length ≤ fuel → readMember fuel source = .error (.numeralTooLong n)
  | .items, source => ∀ fuel, 2 * source.length < fuel → readItems fuel source = .error (.numeralTooLong n)
  | .members, source => ∀ fuel, 2 * source.length < fuel → readMembers fuel source = .error (.numeralTooLong n)

/-- A numeral that the text runs into is reported. -/
theorem RunsInto.reported {n : Nat} {place : Place} (h : RunsInto n place source) : place.Reports n source := by
  induction h with
  | @numeral negative digits rest hwhole hlength hlong hends =>
    intro fuel hfuel
    subst hlength
    rw [readItem_number hwhole hfuel, readNumber_whole negative hwhole hends, if_pos (Nat.not_le.mp hlong)]
  | array hmargin hitems ih => exact fun fuel hfuel => readItem_array hmargin hitems.begins ih hfuel
  | object hmargin hmembers ih => exact fun fuel hfuel => readItem_object hmargin hmembers.begins ih hfuel
  | member hname hcolon hmargin hitem ih =>
    exact fun fuel hfuel => readMember_named hname hcolon hmargin hitem.begins ih hfuel
  | firstItem hitem ih => exact fun fuel hfuel => readsItems.first_fault ih hfuel
  | laterItem hitem hcomma hmargin hmore ih =>
    have hread := hitem.isReadAt (hcomma.stops_number (Text.stops_cons.mpr rfl))
    exact fun fuel hfuel => readsItems.more hread hitem.endsBefore hcomma hmargin hmore.begins ih hfuel
  | firstMember hmember ih => exact fun fuel hfuel => readsMembers.first_fault ih hfuel
  | laterMember hmember hcomma hmargin hmore ih =>
    have hread := hmember.isReadAt (hcomma.stops_number (Text.stops_cons.mpr rfl))
    exact fun fuel hfuel => readsMembers.more hread hmember.endsBefore hcomma hmargin hmore.begins ih hfuel

/-- What is spelled is spelled where more lengths are admitted. -/
theorem Spells.mono {admits further : Nat → Prop} (hadmits : ∀ length, admits length → further length)
    {phrase : Phrase} (h : Spells admits phrase source rest) : Spells further phrase source rest := by
  induction h with
  | word hword => exact .word hword
  | whole hwhole hlength => exact .whole hwhole (hadmits _ hlength)
  | decimal hwhole hfraction hexponent hsome => exact .decimal hwhole hfraction hexponent hsome
  | text hunits => exact .text hunits
  | emptyArray hmargin => exact .emptyArray hmargin
  | array hmargin _ ih => exact .array hmargin ih
  | emptyObject hmargin => exact .emptyObject hmargin
  | object hmargin _ ih => exact .object hmargin ih
  | member hname hcolon hmargin _ ih => exact .member hname hcolon hmargin ih
  | lastItem _ hclose ih => exact .lastItem ih hclose
  | moreItems _ hcomma hmargin _ ih ih' => exact .moreItems ih hcomma hmargin ih'
  | lastMember _ hclose ih => exact .lastMember ih hclose
  | moreMembers _ hcomma hmargin _ ih ih' => exact .moreMembers ih hcomma hmargin ih'

/-- What is spelled with numerals of any length is spelled with short ones, or the text runs into one that is too long. -/
theorem Spells.short_or_runsInto {admits : Nat → Prop} {phrase : Phrase} (h : Spells admits phrase source rest)
    (hends : phrase.Ends rest) : Spells IsShort phrase source rest ∨ ∃ n, RunsInto n phrase.place source := by
  induction h with
  | word hword => exact .inl (.word hword)
  | @whole negative digits rest hwhole =>
    by_cases hshort : IsShort digits.length
    · exact .inl (.whole hwhole hshort)
    · exact .inr ⟨digits.length, .numeral hwhole rfl hshort (numberEnds_of_stops hends)⟩
  | decimal hwhole hfraction hexponent hsome => exact .inl (.decimal hwhole hfraction hexponent hsome)
  | text hunits => exact .inl (.text hunits)
  | emptyArray hmargin => exact .inl (.emptyArray hmargin)
  | array hmargin _ ih => exact (ih trivial).imp (.array hmargin) fun ⟨n, hn⟩ => ⟨n, .array hmargin hn⟩
  | emptyObject hmargin => exact .inl (.emptyObject hmargin)
  | object hmargin _ ih => exact (ih trivial).imp (.object hmargin) fun ⟨n, hn⟩ => ⟨n, .object hmargin hn⟩
  | member hname hcolon hmargin _ ih =>
    exact (ih hends).imp (.member hname hcolon hmargin) fun ⟨n, hn⟩ => ⟨n, .member hname hcolon hmargin hn⟩
  | lastItem _ hclose ih =>
    have hends := hclose.stops_number (Text.stops_cons.mpr rfl)
    exact (ih hends).imp (.lastItem · hclose) fun ⟨n, hn⟩ => ⟨n, .firstItem hn⟩
  | moreItems _ hcomma hmargin _ ih ih' =>
    have hends := hcomma.stops_number (Text.stops_cons.mpr rfl)
    rcases ih hends with hitem | ⟨n, hn⟩
    · exact (ih' trivial).imp (.moreItems hitem hcomma hmargin) fun ⟨n, hn⟩ => ⟨n, .laterItem hitem hcomma hmargin hn⟩
    · exact .inr ⟨n, .firstItem hn⟩
  | lastMember _ hclose ih =>
    have hends := hclose.stops_number (Text.stops_cons.mpr rfl)
    exact (ih hends).imp (.lastMember · hclose) fun ⟨n, hn⟩ => ⟨n, .firstMember hn⟩
  | moreMembers _ hcomma hmargin _ ih ih' =>
    have hends := hcomma.stops_number (Text.stops_cons.mpr rfl)
    rcases ih hends with hmember | ⟨n, hn⟩
    · exact (ih' trivial).imp (.moreMembers hmember hcomma hmargin)
        fun ⟨n, hn⟩ => ⟨n, .laterMember hmember hcomma hmargin hn⟩
    · exact .inr ⟨n, .firstMember hn⟩

/-- A text is read as a document exactly if the document is spelled in it with short numerals, and blanks around it. -/
theorem read_eq_ok_iff {source : String} {d : Json} :
    read source = .ok d ↔
      ∃ start rest, Margin source.toList start ∧ Spells IsShort (.item d) start rest ∧ Margin rest [] := by
  constructor
  · intro h
    obtain ⟨⟨item, rest⟩, hitem, h⟩ := bind_eq_ok h
    dsimp only at h
    split at h
    case isFalse => cases h
    case isTrue hnil =>
      cases h
      exact ⟨_, rest, margin_skipSpace _, (followsGrammar _).item hitem,
        margin_of_skipSpace_eq (List.isEmpty_iff.mp hnil)⟩
  · rintro ⟨start, rest, hmargin, hspells, hrest⟩
    have hskip := hmargin.skipSpace_eq hspells.begins.stops
    have hread := hspells.isReadAt (hrest.stops_number nofun) (2 * start.length + 2) (Nat.le_add_right _ _)
    have hnil : skipSpace rest = [] := hrest.skipSpace_eq nofun
    rw [read, hskip, hread]
    simp only [bind, Except.bind, hnil]
    rfl

/-- A text is refused for a numeral that is too long exactly if it runs into one. -/
theorem read_eq_long_iff {source : String} {n : Nat} :
    read source = .error (.numeralTooLong n) ↔ ReachesLongNumeral n source.toList := by
  constructor
  · intro h
    obtain hitem | ⟨⟨item, rest⟩, -, h⟩ := bind_eq_error h
    · exact ⟨_, margin_skipSpace _, (followsGrammar _).item_long hitem⟩
    · dsimp only at h
      split at h <;> cases h
  · rintro ⟨start, hmargin, hruns⟩
    have hskip := hmargin.skipSpace_eq hruns.begins.stops
    have hread := hruns.reported (2 * start.length + 2) (Nat.le_add_right _ _)
    rw [read, hskip, hread]
    rfl

/-- What is read as a document is this document. -/
theorem isDocument_of_read {source : String} {d : Json} (h : read source = .ok d) : IsDocument d source.toList := by
  obtain ⟨start, rest, hmargin, hspells, hrest⟩ := read_eq_ok_iff.mp h
  exact ⟨start, rest, hmargin, hspells.mono fun _ _ => trivial, hrest⟩

/-- A document is read as such unless the text runs into a numeral that is too long. -/
theorem IsDocument.read {source : String} {d : Json} (h : IsDocument d source.toList)
    (hlong : ∀ n, ¬ ReachesLongNumeral n source.toList) : read source = .ok d := by
  obtain ⟨start, rest, hmargin, hspells, hrest⟩ := h
  rcases hspells.short_or_runsInto (hrest.stops_number nofun) with hshort | ⟨n, hruns⟩
  · exact read_eq_ok_iff.mpr ⟨start, rest, hmargin, hshort, hrest⟩
  · exact absurd ⟨start, hmargin, hruns⟩ (hlong n)

end Emptiness.Json
