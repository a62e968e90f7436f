import Emptiness.Json.Reader
import Emptiness.Proofs.Text.Span

/-!
# The notation of documents

Which texts are documents, and of which, as a relation: a phrase of the grammar is spelled at the beginning of a text and
leaves the rest of it. The relation knows nothing of a reader: no order in which alternatives are tried, no fuel, and
nothing that ends early. It is taken for a set of lengths that whole numerals may have. Where all lengths are admitted,
it is the notation itself; where only short numerals are, it is what can be read.

A whole numeral that is too long stops a reader even if no document follows, so a text runs into such a numeral if what
stands before it is well-formed so far.
-/

namespace Emptiness.Json

/-- The text consists of blanks and the rest. -/
def Margin (source rest : List Char) : Prop :=
  ∃ blanks, (∀ c ∈ blanks, isSpace c = true) ∧ source = blanks ++ rest

/-- The digits of a whole number: they do not begin with a zero, unless they are a single one. -/
structure IsWhole (digits : List Char) : Prop where
  ne_nil : digits ≠ []
  isDigit : ∀ c ∈ digits, c.isDigit = true
  zero : digits.head? = some '0' → digits = ['0']

/-- A minus sign, or nothing. -/
def minus (negative : Bool) : List Char :=
  if negative then ['-'] else []

/-- The whole number with this sign. -/
def signed (negative : Bool) (n : Nat) : Int :=
  if negative then -n else n

/-- The signs of exponents, and whether they are negative. -/
def signs : List (Bool × List Char) :=
  [(false, []), (false, ['+']), (true, ['-'])]

/-- A point with digits after it, or nothing, and the rest of the text. -/
inductive SpellsFraction : List Char → List Char → List Char → Prop
  | absent {rest : List Char} : SpellsFraction [] rest rest
  | point {digits rest : List Char} (hne : digits ≠ []) (hdigits : ∀ c ∈ digits, c.isDigit = true) :
      SpellsFraction digits ('.' :: (digits ++ rest)) rest

/-- An exponent with its mark and its sign, or nothing, and the rest of the text. -/
inductive SpellsExponent : Option Int → List Char → List Char → Prop
  | absent {rest : List Char} : SpellsExponent none rest rest
  | marked {mark : Char} {negative : Bool} {sign digits rest : List Char} (hmark : mark = 'e' ∨ mark = 'E')
      (hsign : (negative, sign) ∈ signs) (hne : digits ≠ []) (hdigits : ∀ c ∈ digits, c.isDigit = true) :
      SpellsExponent (some (signed negative (Number.ofDigits digits))) (mark :: (sign ++ (digits ++ rest))) rest

/-- A number of digits before the point, digits after it, and an exponent. -/
def decimal (negative : Bool) (whole fraction : List Char) (exponent : Option Int) : Json :=
  .float (.ofDecimal negative (Number.ofDigits (whole ++ fraction)) (exponent.getD 0 - fraction.length))

/-- The code units of a text up to its closing quote, and the rest after the quote. -/
inductive SpellsUnits : List Nat → List Char → List Char → Prop
  | close {rest : List Char} : SpellsUnits [] ('"' :: rest) rest
  | plain {c : Char} {units : List Nat} {source rest : List Char} (hquote : c ≠ '"') (hmark : c ≠ '\\')
      (hprinted : 0x20 ≤ c.toNat) (h : SpellsUnits units source rest) :
      SpellsUnits (c.toNat :: units) (c :: source) rest
  | letter {letter : Char} {unit : Nat} {units : List Nat} {source rest : List Char}
      (hletter : letterUnit? letter = some unit) (h : SpellsUnits units source rest) :
      SpellsUnits (unit :: units) ('\\' :: letter :: source) rest
  | hex {a b c d : Char} {unit : Nat} {units : List Nat} {source rest : List Char}
      (hunit : hexUnit? a b c d = some unit) (h : SpellsUnits units source rest) :
      SpellsUnits (unit :: units) ('\\' :: 'u' :: a :: b :: c :: d :: source) rest

/-- What may be spelled: a document, a member of an object, or all items or members up to the closing bracket. -/
inductive Phrase where
  | item (d : Json)
  | member (m : Text × Json)
  | items (ds : List Json)
  | members (ms : List (Text × Json))

/-- The phrase is spelled at the beginning of a text and leaves the rest, if whole numerals have admitted lengths. -/
inductive Spells (admits : Nat → Prop) : Phrase → List Char → List Char → Prop
  | word {text rest : List Char} {d : Json} (hword : (text, d) ∈ words) : Spells admits (.item d) (text ++ rest) rest
  | whole {negative : Bool} {digits rest : List Char} (hwhole : IsWhole digits) (hlength : admits digits.length) :
      Spells admits (.item (.int (signed negative (Number.ofDigits digits)))) (minus negative ++ (digits ++ rest)) rest
  | decimal {negative : Bool} {whole fraction source after rest : List Char} {exponent : Option Int}
      (hwhole : IsWhole whole) (hfraction : SpellsFraction fraction source after)
      (hexponent : SpellsExponent exponent after rest) (hsome : fraction ≠ [] ∨ exponent ≠ none) :
      Spells admits (.item (decimal negative whole fraction exponent)) (minus negative ++ (whole ++ source)) rest
  | text {units : List Nat} {source rest : List Char} (hunits : SpellsUnits units source rest) :
      Spells admits (.item (.text (joinUnits units))) ('"' :: source) rest
  | emptyArray {source rest : List Char} (hmargin : Margin source (']' :: rest)) :
      Spells admits (.item (.array [])) ('[' :: source) rest
  | array {items : List Json} {source inside rest : List Char} (hmargin : Margin source inside)
      (hitems : Spells admits (.items items) inside rest) : Spells admits (.item (.array items)) ('[' :: source) rest
  | emptyObject {source rest : List Char} (hmargin : Margin source ('\x7d' :: rest)) :
      Spells admits (.item (.object [])) ('\x7b' :: source) rest
  | object {members : List (Text × Json)} {source inside rest : List Char} (hmargin : Margin source inside)
      (hmembers : Spells admits (.members members) inside rest) :
      Spells admits (.item (ofMembers members)) ('\x7b' :: source) rest
  | member {units : List Nat} {d : Json} {source after more next rest : List Char}
      (hname : SpellsUnits units source after) (hcolon : Margin after (':' :: more)) (hmargin : Margin more next)
      (hitem : Spells admits (.item d) next rest) :
      Spells admits (.member (joinUnits units, d)) ('"' :: source) rest
  | lastItem {d : Json} {source after rest : List Char} (hitem : Spells admits (.item d) source after)
      (hclose : Margin after (']' :: rest)) : Spells admits (.items [d]) source rest
  | moreItems {d : Json} {items : List Json} {source after more next rest : List Char}
      (hitem : Spells admits (.item d) source after) (hcomma : Margin after (',' :: more)) (hmargin : Margin more next)
      (hmore : Spells admits (.items items) next rest) : Spells admits (.items (d :: items)) source rest
  | lastMember {m : Text × Json} {source after rest : List Char} (hmember : Spells admits (.member m) source after)
      (hclose : Margin after ('\x7d' :: rest)) : Spells admits (.members [m]) source rest
  | moreMembers {m : Text × Json} {members : List (Text × Json)} {source after more next rest : List Char}
      (hmember : Spells admits (.member m) source after) (hcomma : Margin after (',' :: more))
      (hmargin : Margin more next) (hmore : Spells admits (.members members) next rest) :
      Spells admits (.members (m :: members)) source rest

/-- A numeral that can be read. -/
def IsShort (length : Nat) : Prop :=
  length ≤ Number.digitLimit

instance (length : Nat) : Decidable (IsShort length) :=
  inferInstanceAs (Decidable (length ≤ Number.digitLimit))

/-- A whole number ends where no digit, no fraction and no exponent goes on. -/
structure NumberEnds (rest : List Char) : Prop where
  stops : Text.Stops Char.isDigit rest
  no_fraction : ∀ fraction more, SpellsFraction fraction rest more → fraction = []
  no_exponent : ∀ exponent more, SpellsExponent exponent rest more → exponent = none

/-- Where a phrase may begin. -/
inductive Place where
  | item
  | member
  | items
  | members

/-- Reading from this place on, the text runs into a whole numeral of `n` digits, more than can be read: everything before
it is well-formed, as far as it goes, and can be read. -/
inductive RunsInto (n : Nat) : Place → List Char → Prop
  | numeral {negative : Bool} {digits rest : List Char} (hwhole : IsWhole digits) (hlength : digits.length = n)
      (hlong : ¬ IsShort n) (hends : NumberEnds rest) : RunsInto n .item (minus negative ++ (digits ++ rest))
  | array {source inside : List Char} (hmargin : Margin source inside) (hitems : RunsInto n .items inside) :
      RunsInto n .item ('[' :: source)
  | object {source inside : List Char} (hmargin : Margin source inside) (hmembers : RunsInto n .members inside) :
      RunsInto n .item ('\x7b' :: source)
  | member {units : List Nat} {source after more next : List Char} (hname : SpellsUnits units source after)
      (hcolon : Margin after (':' :: more)) (hmargin : Margin more next) (hitem : RunsInto n .item next) :
      RunsInto n .member ('"' :: source)
  | firstItem {source : List Char} (hitem : RunsInto n .item source) : RunsInto n .items source
  | laterItem {d : Json} {source after more next : List Char} (hitem : Spells IsShort (.item d) source after)
      (hcomma : Margin after (',' :: more)) (hmargin : Margin more next) (hmore : RunsInto n .items next) :
      RunsInto n .items source
  | firstMember {source : List Char} (hmember : RunsInto n .member source) : RunsInto n .members source
  | laterMember {m : Text × Json} {source after more next : List Char}
      (hmember : Spells IsShort (.member m) source after) (hcomma : Margin after (',' :: more))
      (hmargin : Margin more next) (hmore : RunsInto n .members next) : RunsInto n .members source

/-- The text is a document: the document is spelled in it, with blanks around it. -/
def IsDocument (d : Json) (source : List Char) : Prop :=
  ∃ start rest, Margin source start ∧ Spells (fun _ => True) (.item d) start rest ∧ Margin rest []

/-- The text runs into a whole numeral of `n` digits, more than can be read. -/
def ReachesLongNumeral (n : Nat) (source : List Char) : Prop :=
  ∃ start, Margin source start ∧ RunsInto n .item start

end Emptiness.Json
