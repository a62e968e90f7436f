/-!
# Text in print

Printed text passes through a markup language of tags in square brackets. Text is protected from it, so that its
own brackets show; what the protection does not preserve is a backslash before a bracket that begins no tag, which
is lost, and a single backslash at the end, which is doubled. Control characters that move the cursor or ring the
bell are not printed at all.
-/

namespace Emptiness.Text

/-- A bracket with this text after it begins a tag: a name, a sign, and a closing bracket before any other opening
one. -/
def beginsTag : List Char → Bool
  | [] => false
  | c :: rest =>
    (('a' ≤ c && c ≤ 'z') || c = '#' || c = '/' || c = '@') && (rest.takeWhile (· != '[')).contains ']'

/-- Drop each backslash that stands before a bracket that begins no tag. -/
def dropBracketEscapes : List Char → List Char
  | [] => []
  | c :: rest =>
    match rest with
    | '[' :: more =>
      if c = '\\' && !beginsTag more then dropBracketEscapes rest else c :: dropBracketEscapes rest
    | _ => c :: dropBracketEscapes rest

/-- The text ends with a backslash that stands alone. -/
def endsInLoneBackslash (text : List Char) : Bool :=
  match text.reverse with
  | ['\\'] => true
  | '\\' :: c :: _ => c != '\\'
  | _ => false

/-- A control character that is not printed. -/
def isUnprinted (c : Char) : Bool :=
  c = '\x07' || c = '\x08' || c = '\x0b' || c = '\x0c' || c = '\r'

/-- The characters that are printed for a text. -/
def printed (text : String) : List Char :=
  let characters := text.toList
  let shown := dropBracketEscapes characters ++ (if endsInLoneBackslash characters then ['\\'] else [])
  shown.filter fun c => !isUnprinted c

end Emptiness.Text
