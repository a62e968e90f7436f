import Emptiness.Proofs.Json.Extent

/-!
# What is read is what is spelled

The reader follows the grammar: what it reads is spelled, and what is spelled it reads, given fuel for twice the length of
the text. The one exception is a whole numeral that is too long. It is reported exactly where the text runs into it,
whatever comes after it, so a text that is a document is either read as this document or runs into such a numeral.
-/

namespace Emptiness.Json

variable {α : Type} {fuel : Nat} {source rest : List Char}

/-! ## Series of parts -/

/-- A part of a series, and then either the closing character or a comma and the other parts. -/
def readSeries (close : Char) (first : Except ReadFault (α × List Char))
    (others : List Char → Except ReadFault (List α × List Char)) : Except ReadFault (List α × List Char) := do
  let (part, rest) ← first
  match skipSpace rest with
  | [] => throw .malformed
  | c :: more =>
    if c = close then return ([part], more)
    else if c = ',' then
      let (parts, tail) ← others (skipSpace more)
      return (part :: parts, tail)
    else throw .malformed

/-- A member at the beginning of a text, and what follows it. -/
def readMember (fuel : Nat) (source : List Char) : Except ReadFault ((Text × Json) × List Char) := do
  match source with
  | '"' :: quoted =>
    let (name, rest) ← readText quoted
    match skipSpace rest with
    | ':' :: more =>
      let (item, rest) ← readItem fuel (skipSpace more)
      return ((name, item), rest)
    | _ => throw .malformed
  | _ => throw .malformed

/-- Items are a series that ends with a bracket. -/
theorem readItems_succ (fuel : Nat) (source : List Char) :
    readItems (fuel + 1) source = readSeries ']' (readItem fuel source) (readItems fuel) := by
  rw [readItems, readSeries]
  refine congrArg (readItem fuel source >>= ·) (funext fun read => ?_)
  dsimp only
  split
  · next hclose => simp [hclose]
  · next hcomma => simp [hcomma]
  · next hclose hcomma =>
    split
    · rfl
    · next c more hmore =>
      rw [if_neg, if_neg]
      · rintro rfl
        exact hcomma more hmore
      · rintro rfl
        exact hclose more hmore

/-- Members are a series that ends with a brace. -/
theorem readMembers_succ (fuel : Nat) (source : List Char) :
    readMembers (fuel + 1) source = readSeries '\x7d' (readMember fuel source) (readMembers fuel) := by
  by_cases hquote : ∃ quoted, source = '"' :: quoted
  case neg =>
    have hnone : ∀ quoted, source = '"' :: quoted → False := fun quoted hsource => hquote ⟨quoted, hsource⟩
    rw [readMembers, readMember, readSeries]
    · rfl
    · exact hnone
    · exact hnone
  obtain ⟨quoted, rfl⟩ := hquote
  rw [readMembers, readMember, readSeries]
  cases readText quoted with
  | error fault => rfl
  | ok named =>
    obtain ⟨name, after⟩ := named
    simp only [bind, Except.bind]
    by_cases hcolon : ∃ more, skipSpace after = ':' :: more
    case neg =>
      -- both sides take the branch for everything else
      have hnone : ∀ more, skipSpace after = ':' :: more → False := fun more hmore => hcolon ⟨more, hmore⟩
      simp [throw, throwThe, MonadExceptOf.throw]
    obtain ⟨more, hmore⟩ := hcolon
    simp only [hmore]
    cases readItem fuel (skipSpace more) with
    | error fault => rfl
    | ok read =>
      obtain ⟨item, last⟩ := read
      simp only [pure, Except.pure]
      split
      · next hclose => simp [hclose]
      · next hcomma => simp [hcomma]
      · next hclose hcomma =>
        split
        · rfl
        · next c more hmore =>
          rw [if_neg, if_neg]
          · rintro rfl
            exact hcomma more hmore
          · rintro rfl
            exact hclose more hmore

/-- A series that is read ends with the closing character, right after its first part or after the other parts. -/
theorem readSeries_eq_ok {close : Char} {first : Except ReadFault (α × List Char)}
    {others : List Char → Except ReadFault (List α × List Char)} {parts : List α}
    (h : readSeries close first others = .ok (parts, rest)) :
    ∃ part after, first = .ok (part, after) ∧
      ((skipSpace after = close :: rest ∧ parts = [part]) ∨
        ∃ more following, skipSpace after = ',' :: more ∧ others (skipSpace more) = .ok (following, rest) ∧
          parts = part :: following) := by
  obtain ⟨⟨part, after⟩, hfirst, h⟩ := bind_eq_ok h
  refine ⟨part, after, hfirst, ?_⟩
  dsimp only at h
  split at h
  case h_1 => cases h
  case h_2 c more hmore =>
    split at h
    case isTrue hclose =>
      cases h
      exact .inl ⟨by rw [hmore, hclose], rfl⟩
    case isFalse =>
      split at h
      case isFalse => cases h
      case isTrue hcomma =>
        obtain ⟨⟨following, tail⟩, hothers, h⟩ := bind_eq_ok h
        cases h
        exact .inr ⟨more, following, by rw [hmore, hcomma], hothers, rfl⟩

/-- A numeral that is too long is reported by a series where it stands in the first part or in the other parts. -/
theorem readSeries_eq_long {close : Char} {first : Except ReadFault (α × List Char)}
    {others : List Char → Except ReadFault (List α × List Char)} {n : Nat}
    (h : readSeries close first others = .error (.numeralTooLong n)) :
    first = .error (.numeralTooLong n) ∨
      ∃ part after more, first = .ok (part, after) ∧ skipSpace after = ',' :: more ∧
        others (skipSpace more) = .error (.numeralTooLong n) := by
  obtain hfirst | ⟨⟨part, after⟩, hfirst, h⟩ := bind_eq_error h
  · exact .inl hfirst
  · refine .inr ⟨part, after, ?_⟩
    dsimp only at h
    split at h
    case h_1 => cases h
    case h_2 c more hmore =>
      split at h
      case isTrue => cases h
      case isFalse =>
        split at h
        case isFalse => cases h
        case isTrue hcomma =>
          obtain hothers | ⟨read, -, h⟩ := bind_eq_error h
          · exact ⟨more, hfirst, by rw [hmore, hcomma], hothers⟩
          · cases h

/-! ## What is read is spelled -/

/-- Whatever is read with this fuel is spelled, and a numeral is reported as too long where the text runs into it. -/
structure FollowsGrammar (fuel : Nat) : Prop where
  item {source rest : List Char} {d : Json} (h : readItem fuel source = .ok (d, rest)) :
    Spells IsShort (.item d) source rest
  items {source rest : List Char} {items : List Json} (h : readItems fuel source = .ok (items, rest)) :
    Spells IsShort (.items items) source rest
  members {source rest : List Char} {members : List (Text × Json)}
    (h : readMembers fuel source = .ok (members, rest)) : Spells IsShort (.members members) source rest
  item_long {source : List Char} {n : Nat} (h : readItem fuel source = .error (.numeralTooLong n)) :
    RunsInto n .item source
  items_long {source : List Char} {n : Nat} (h : readItems fuel source = .error (.numeralTooLong n)) :
    RunsInto n .items source
  members_long {source : List Char} {n : Nat} (h : readMembers fuel source = .error (.numeralTooLong n)) :
    RunsInto n .members source

namespace FollowsGrammar

/-- A document that is read with more fuel is spelled if its parts are. -/
theorem item_succ (h : FollowsGrammar fuel) {d : Json} (hread : readItem (fuel + 1) source = .ok (d, rest)) :
    Spells IsShort (.item d) source rest := by
  unfold readItem at hread
  split at hread
  case h_1 quoted =>
    obtain ⟨⟨s, tail⟩, htext, hpair⟩ := map_eq_ok hread
    cases hpair
    obtain ⟨units, hunits, rfl⟩ := spells_of_readText htext
    exact .text hunits
  case h_2 inside =>
    split at hread
    case h_1 tail hclose =>
      cases hread
      exact .emptyArray (margin_of_skipSpace_eq hclose)
    case h_2 =>
      obtain ⟨⟨items, tail⟩, hitems, hpair⟩ := map_eq_ok hread
      cases hpair
      exact .array (margin_skipSpace inside) (h.items hitems)
  case h_3 inside =>
    split at hread
    case h_1 tail hclose =>
      cases hread
      exact .emptyObject (margin_of_skipSpace_eq hclose)
    case h_2 =>
      obtain ⟨⟨members, tail⟩, hmembers, hpair⟩ := map_eq_ok hread
      cases hpair
      exact .object (margin_skipSpace inside) (h.members hmembers)
  case h_4 => exact spells_of_readAtom hread

/-- A numeral that a document with more fuel reports is run into if its parts run into theirs. -/
theorem item_long_succ (h : FollowsGrammar fuel) {n : Nat}
    (hread : readItem (fuel + 1) source = .error (.numeralTooLong n)) : RunsInto n .item source := by
  unfold readItem at hread
  split at hread
  case h_1 quoted => exact absurd (map_eq_error hread) (readText_ne_long quoted n)
  case h_2 inside =>
    split at hread
    case h_1 => cases hread
    case h_2 => exact .array (margin_skipSpace inside) (h.items_long (map_eq_error hread))
  case h_3 inside =>
    split at hread
    case h_1 => cases hread
    case h_2 => exact .object (margin_skipSpace inside) (h.members_long (map_eq_error hread))
  case h_4 => exact runsInto_of_readAtom hread

/-- Items that are read with more fuel are spelled if each of them is. -/
theorem items_succ (h : FollowsGrammar fuel) {items : List Json}
    (hread : readItems (fuel + 1) source = .ok (items, rest)) : Spells IsShort (.items items) source rest := by
  rw [readItems_succ] at hread
  obtain ⟨item, after, hitem, ⟨hclose, rfl⟩ | ⟨more, following, hcomma, hmore, rfl⟩⟩ := readSeries_eq_ok hread
  · exact .lastItem (h.item hitem) (margin_of_skipSpace_eq hclose)
  · exact .moreItems (h.item hitem) (margin_of_skipSpace_eq hcomma) (margin_skipSpace more) (h.items hmore)

/-- A numeral that items with more fuel report is run into if each of them runs into its own. -/
theorem items_long_succ (h : FollowsGrammar fuel) {n : Nat}
    (hread : readItems (fuel + 1) source = .error (.numeralTooLong n)) : RunsInto n .items source := by
  rw [readItems_succ] at hread
  obtain hitem | ⟨item, after, more, hitem, hcomma, hmore⟩ := readSeries_eq_long hread
  · exact .firstItem (h.item_long hitem)
  · exact .laterItem (h.item hitem) (margin_of_skipSpace_eq hcomma) (margin_skipSpace more) (h.items_long hmore)

/-- A member that is read is spelled if its document is. -/
theorem member (h : FollowsGrammar fuel) {m : Text × Json} (hread : readMember fuel source = .ok (m, rest)) :
    Spells IsShort (.member m) source rest := by
  unfold readMember at hread
  split at hread
  case h_2 => cases hread
  case h_1 quoted =>
    obtain ⟨⟨name, after⟩, hname, hread⟩ := bind_eq_ok hread
    obtain ⟨units, hunits, rfl⟩ := spells_of_readText hname
    dsimp only at hread
    split at hread
    case h_2 => cases hread
    case h_1 more hcolon =>
      obtain ⟨⟨item, tail⟩, hitem, hread⟩ := bind_eq_ok hread
      cases hread
      exact .member hunits (margin_of_skipSpace_eq hcolon) (margin_skipSpace more) (h.item hitem)

/-- A numeral that a member reports is run into by the document of the member. -/
theorem member_long (h : FollowsGrammar fuel) {n : Nat}
    (hread : readMember fuel source = .error (.numeralTooLong n)) : RunsInto n .member source := by
  unfold readMember at hread
  split at hread
  case h_2 => cases hread
  case h_1 quoted =>
    obtain hname | ⟨⟨name, after⟩, hname, hread⟩ := bind_eq_error hread
    · exact absurd hname (readText_ne_long quoted n)
    · obtain ⟨units, hunits, rfl⟩ := spells_of_readText hname
      dsimp only at hread
      split at hread
      case h_2 => cases hread
      case h_1 more hcolon =>
        obtain hitem | ⟨read, -, hread⟩ := bind_eq_error hread
        · exact .member hunits (margin_of_skipSpace_eq hcolon) (margin_skipSpace more) (h.item_long hitem)
        · cases hread

/-- Members that are read with more fuel are spelled if each of their documents is. -/
theorem members_succ (h : FollowsGrammar fuel) {members : List (Text × Json)}
    (hread : readMembers (fuel + 1) source = .ok (members, rest)) : Spells IsShort (.members members) source rest := by
  rw [readMembers_succ] at hread
  obtain ⟨m, after, hmember, ⟨hclose, rfl⟩ | ⟨more, following, hcomma, hmore, rfl⟩⟩ := readSeries_eq_ok hread
  · exact .lastMember (h.member hmember) (margin_of_skipSpace_eq hclose)
  · exact .moreMembers (h.member hmember) (margin_of_skipSpace_eq hcomma) (margin_skipSpace more) (h.members hmore)

/-- A numeral that members with more fuel report is run into if each of their documents runs into its own. -/
theorem members_long_succ (h : FollowsGrammar fuel) {n : Nat}
    (hread : readMembers (fuel + 1) source = .error (.numeralTooLong n)) : RunsInto n .members source := by
  rw [readMembers_succ] at hread
  obtain hmember | ⟨m, after, more, hmember, hcomma, hmore⟩ := readSeries_eq_long hread
  · exact .firstMember (h.member_long hmember)
  · exact .laterMember (h.member hmember) (margin_of_skipSpace_eq hcomma) (margin_skipSpace more) (h.members_long hmore)

end FollowsGrammar

/-- The reader follows the grammar, whatever its fuel. -/
theorem followsGrammar (fuel : Nat) : FollowsGrammar fuel := by
  induction fuel with
  | zero => exact ⟨nofun, nofun, nofun, nofun, nofun, nofun⟩
  | succ fuel ih =>
    exact ⟨ih.item_succ, ih.items_succ, ih.members_succ, ih.item_long_succ, ih.items_long_succ, ih.members_long_succ⟩

/-! ## What is spelled is read -/

/-- What may follow a phrase. A number could go on, so a document must end before what would belong to it. -/
def Phrase.Ends : Phrase → List Char → Prop
  | .item _, rest => Text.Stops continuesNumber rest
  | .member _, rest => Text.Stops continuesNumber rest
  | .items _, _ => True
  | .members _, _ => True

/-- Given fuel for twice the length of the text, the phrase is read at its beginning. -/
def Phrase.IsReadAt : Phrase → List Char → List Char → Prop
  | .item d, source, rest => ∀ fuel, 2 * source.length ≤ fuel → readItem fuel source = .ok (d, rest)
  | .member m, source, rest => ∀ fuel, 2 * source.length ≤ fuel → readMember fuel source = .ok (m, rest)
  | .items ds, source, rest => ∀ fuel, 2 * source.length < fuel → readItems fuel source = .ok (ds, rest)
  | .members ms, source, rest => ∀ fuel, 2 * source.length < fuel → readMembers fuel source = .ok (ms, rest)

/-- Whoever can read a phrase has fuel. -/
theorem exists_fuel (hbegins : BeginsPhrase source) (hfuel : 2 * source.length ≤ fuel) : ∃ less, fuel = less + 1 := by
  obtain ⟨c, more, rfl, -⟩ := hbegins
  refine Nat.exists_eq_add_one_of_ne_zero ?_
  rintro rfl
  cases hfuel

/-- A word is read as the document that it is. -/
theorem readItem_word {text : List Char} {d : Json} (h : (text, d) ∈ words) (hfuel : 2 * (text ++ rest).length ≤ fuel) :
    readItem fuel (text ++ rest) = .ok (d, rest) := by
  obtain ⟨fuel, rfl⟩ := exists_fuel (beginsPhrase_word h rest) hfuel
  simp only [words, List.mem_cons, Prod.mk.injEq, List.not_mem_nil, or_false] at h
  obtain ⟨rfl, rfl⟩ | ⟨rfl, rfl⟩ | ⟨rfl, rfl⟩ | ⟨rfl, rfl⟩ | ⟨rfl, rfl⟩ | ⟨rfl, rfl⟩ := h <;> rfl

/-- A number is read as such. -/
theorem readItem_number {negative : Bool} {whole : List Char} (h : IsWhole whole)
    (hfuel : 2 * (minus negative ++ (whole ++ rest)).length ≤ fuel) :
    readItem fuel (minus negative ++ (whole ++ rest)) = readNumber (minus negative ++ (whole ++ rest)) := by
  obtain ⟨fuel, rfl⟩ := exists_fuel (beginsPhrase_number negative h rest) hfuel
  rw [← readAtom_number negative h rest]
  obtain ⟨c, more, hcons, -, hmarks⟩ := exists_number_cons negative h rest
  simp only [List.mem_cons, List.not_mem_nil, or_false, not_or] at hmarks
  rw [hcons, readItem]
  · exact fun _ hsame => hmarks.1 (List.cons.inj hsame).1
  · exact fun _ hsame => hmarks.2.1 (List.cons.inj hsame).1
  · exact fun _ hsame => hmarks.2.2.2.1 (List.cons.inj hsame).1

/-- A quote begins a text. -/
theorem readItem_text {units : List Nat} (hunits : SpellsUnits units source rest)
    (hfuel : 2 * ('"' :: source).length ≤ fuel) :
    readItem fuel ('"' :: source) = .ok (.text (joinUnits units), rest) := by
  obtain ⟨fuel, rfl⟩ := exists_fuel ⟨'"', _, rfl, rfl, by decide, by decide⟩ hfuel
  rw [readItem, hunits.readText_eq]
  rfl

/-- Two brackets make an array of nothing. -/
theorem readItem_emptyArray (hmargin : Margin source (']' :: rest)) (hfuel : 2 * ('[' :: source).length ≤ fuel) :
    readItem fuel ('[' :: source) = .ok (.array [], rest) := by
  obtain ⟨fuel, rfl⟩ := exists_fuel ⟨'[', _, rfl, rfl, by decide, by decide⟩ hfuel
  rw [readItem, hmargin.skipSpace_eq (Text.stops_cons.mpr rfl)]
  rfl

/-- Two braces make an object of nothing. -/
theorem readItem_emptyObject (hmargin : Margin source ('\x7d' :: rest)) (hfuel : 2 * ('\x7b' :: source).length ≤ fuel) :
    readItem fuel ('\x7b' :: source) = .ok (.object [], rest) := by
  obtain ⟨fuel, rfl⟩ := exists_fuel ⟨'\x7b', _, rfl, rfl, by decide, by decide⟩ hfuel
  rw [readItem, hmargin.skipSpace_eq (Text.stops_cons.mpr rfl)]
  rfl

/-- A bracket before items begins an array of them. -/
theorem readItem_array {inside : List Char} {answer : Except ReadFault (List Json × List Char)}
    (hmargin : Margin source inside) (hbegins : BeginsPhrase inside)
    (hitems : ∀ fuel, 2 * inside.length < fuel → readItems fuel inside = answer)
    (hfuel : 2 * ('[' :: source).length ≤ fuel) :
    readItem fuel ('[' :: source) = answer.map fun read => (.array read.1, read.2) := by
  obtain ⟨fuel, rfl⟩ := exists_fuel ⟨'[', _, rfl, rfl, by decide, by decide⟩ hfuel
  have hlength := hmargin.length_le
  rw [List.length_cons] at hfuel
  rw [← hitems fuel (by omega), readItem, hmargin.skipSpace_eq hbegins.stops]
  obtain ⟨c, more, rfl, -, hclose, -⟩ := hbegins
  split
  case h_1 hsame => exact absurd (List.cons.inj hsame).1 hclose
  case h_2 => rfl

/-- A brace before members begins an object of them. -/
theorem readItem_object {inside : List Char} {answer : Except ReadFault (List (Text × Json) × List Char)}
    (hmargin : Margin source inside) (hbegins : BeginsPhrase inside)
    (hmembers : ∀ fuel, 2 * inside.length < fuel → readMembers fuel inside = answer)
    (hfuel : 2 * ('\x7b' :: source).length ≤ fuel) :
    readItem fuel ('\x7b' :: source) = answer.map fun read => (ofMembers read.1, read.2) := by
  obtain ⟨fuel, rfl⟩ := exists_fuel ⟨'\x7b', _, rfl, rfl, by decide, by decide⟩ hfuel
  have hlength := hmargin.length_le
  rw [List.length_cons] at hfuel
  rw [← hmembers fuel (by omega), readItem, hmargin.skipSpace_eq hbegins.stops]
  obtain ⟨c, more, rfl, -, -, hclose⟩ := hbegins
  split
  case h_1 hsame => exact absurd (List.cons.inj hsame).1 hclose
  case h_2 => rfl

/-- A name and a colon before a document make a member. -/
theorem readMember_named {units : List Nat} {after more next : List Char} {answer : Except ReadFault (Json × List Char)}
    (hname : SpellsUnits units source after) (hcolon : Margin after (':' :: more)) (hmargin : Margin more next)
    (hbegins : BeginsPhrase next) (hitem : ∀ fuel, 2 * next.length ≤ fuel → readItem fuel next = answer)
    (hfuel : 2 * ('"' :: source).length ≤ fuel) :
    readMember fuel ('"' :: source) =
      answer.map fun read => ((joinUnits units, read.1), read.2) := by
  have hlength := hname.endsBefore.length_lt
  have hnext := Margin.length_lt_of_mark hcolon hmargin
  rw [List.length_cons] at hfuel
  rw [← hitem fuel (by omega), readMember, hname.readText_eq]
  simp only [bind, Except.bind, hcolon.skipSpace_eq (Text.stops_cons.mpr rfl), hmargin.skipSpace_eq hbegins.stops]
  cases readItem fuel next <;> rfl

/-- All parts of a series are read, each of them with less fuel than what begins with it. -/
structure ReadsSeries (close : Char) (read : Nat → List Char → Except ReadFault (α × List Char))
    (readAll : Nat → List Char → Except ReadFault (List α × List Char)) : Prop where
  succ_eq : ∀ fuel source, readAll (fuel + 1) source = readSeries close (read fuel source) (readAll fuel)
  close_isSpace : isSpace close = false
  comma_ne_close : ',' ≠ close

/-- Items are such a series. -/
theorem readsItems : ReadsSeries ']' readItem readItems :=
  ⟨readItems_succ, rfl, by decide⟩

/-- Members are such a series. -/
theorem readsMembers : ReadsSeries '\x7d' readMember readMembers :=
  ⟨readMembers_succ, rfl, by decide⟩

namespace ReadsSeries

variable {close : Char} {read : Nat → List Char → Except ReadFault (α × List Char)}
  {readAll : Nat → List Char → Except ReadFault (List α × List Char)} {part : α} {after : List Char}

/-- A first part that is not read ends the series. -/
theorem first_fault (h : ReadsSeries close read readAll) {fault : ReadFault}
    (hfirst : ∀ fuel, 2 * source.length ≤ fuel → read fuel source = .error fault)
    (hfuel : 2 * source.length < fuel) : readAll fuel source = .error fault := by
  obtain ⟨fuel, rfl⟩ := Nat.exists_eq_add_one_of_ne_zero (Nat.ne_zero_of_lt hfuel)
  rw [h.succ_eq, hfirst fuel (Nat.le_of_lt_succ hfuel)]
  rfl

/-- A part before the closing character is the last one. -/
theorem last (h : ReadsSeries close read readAll)
    (hfirst : ∀ fuel, 2 * source.length ≤ fuel → read fuel source = .ok (part, after))
    (hclose : Margin after (close :: rest)) (hfuel : 2 * source.length < fuel) :
    readAll fuel source = .ok ([part], rest) := by
  obtain ⟨fuel, rfl⟩ := Nat.exists_eq_add_one_of_ne_zero (Nat.ne_zero_of_lt hfuel)
  have hskip := hclose.skipSpace_eq (Text.stops_cons.mpr h.close_isSpace)
  rw [h.succ_eq, hfirst fuel (Nat.le_of_lt_succ hfuel)]
  simp only [readSeries, bind, Except.bind, hskip, if_true]
  rfl

/-- A part before a comma is followed by the other parts. -/
theorem more (h : ReadsSeries close read readAll) {more next : List Char}
    {answer : Except ReadFault (List α × List Char)}
    (hfirst : ∀ fuel, 2 * source.length ≤ fuel → read fuel source = .ok (part, after))
    (hends : EndsBefore source after) (hcomma : Margin after (',' :: more)) (hmargin : Margin more next)
    (hbegins : BeginsPhrase next) (hothers : ∀ fuel, 2 * next.length < fuel → readAll fuel next = answer)
    (hfuel : 2 * source.length < fuel) :
    readAll fuel source = answer.map fun read => (part :: read.1, read.2) := by
  obtain ⟨fuel, rfl⟩ := Nat.exists_eq_add_one_of_ne_zero (Nat.ne_zero_of_lt hfuel)
  have hlength := hends.length_lt
  have hnext := Margin.length_lt_of_mark hcomma hmargin
  have hskip := hcomma.skipSpace_eq (Text.stops_cons.mpr rfl)
  rw [← hothers fuel (by omega), h.succ_eq, hfirst fuel (Nat.le_of_lt_succ hfuel)]
  simp only [readSeries, bind, Except.bind, hskip, hmargin.skipSpace_eq hbegins.stops, if_neg h.comma_ne_close, if_true]
  cases readAll fuel next <;> rfl

end ReadsSeries

/-- A phrase that is spelled with short numerals is read. -/
theorem Spells.isReadAt {phrase : Phrase} (h : Spells IsShort phrase source rest) (hends : phrase.Ends rest) :
    phrase.IsReadAt source rest := by
  induction h with
  | word hword => exact fun fuel hfuel => readItem_word hword hfuel
  | @whole negative digits rest hwhole hshort =>
    intro fuel hfuel
    rw [readItem_number hwhole hfuel, readNumber_whole negative hwhole (numberEnds_of_stops hends),
      if_neg (Nat.not_lt.mpr hshort)]
  | decimal hwhole hfraction hexponent hsome =>
    intro fuel hfuel
    rw [readItem_number hwhole hfuel, readNumber_decimal _ hwhole hfraction hexponent hsome hends]
  | text hunits => exact fun fuel hfuel => readItem_text hunits hfuel
  | emptyArray hmargin => exact fun fuel hfuel => readItem_emptyArray hmargin hfuel
  | array hmargin hitems ih => exact fun fuel hfuel => readItem_array hmargin hitems.begins (ih trivial) hfuel
  | emptyObject hmargin => exact fun fuel hfuel => readItem_emptyObject hmargin hfuel
  | object hmargin hmembers ih => exact fun fuel hfuel => readItem_object hmargin hmembers.begins (ih trivial) hfuel
  | member hname hcolon hmargin hitem ih =>
    exact fun fuel hfuel => readMember_named hname hcolon hmargin hitem.begins (ih hends) hfuel
  | lastItem hitem hclose ih =>
    have hends := hclose.stops_number (Text.stops_cons.mpr rfl)
    exact fun fuel hfuel => readsItems.last (ih hends) hclose hfuel
  | moreItems hitem hcomma hmargin hmore ih ih' =>
    have hends := hcomma.stops_number (Text.stops_cons.mpr rfl)
    exact fun fuel hfuel =>
      readsItems.more (ih hends) hitem.endsBefore hcomma hmargin hmore.begins (ih' trivial) hfuel
  | lastMember hmember hclose ih =>
    have hends := hclose.stops_number (Text.stops_cons.mpr rfl)
    exact fun fuel hfuel => readsMembers.last (ih hends) hclose hfuel
  | moreMembers hmember hcomma hmargin hmore ih ih' =>
    have hends := hcomma.stops_number (Text.stops_cons.mpr rfl)
    exact fun fuel hfuel =>
      readsMembers.more (ih hends) hmember.endsBefore hcomma hmargin hmore.begins (ih' trivial) hfuel

end Emptiness.Json
