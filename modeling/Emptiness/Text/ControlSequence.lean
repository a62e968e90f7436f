/-!
# Control sequences

A terminal takes an escape character, an opening bracket, parameters and a letter as a command. Where output does
not go to a terminal, such sequences are dropped.
-/

namespace Emptiness.Text

/-- A character that can stand between the opening bracket of a control sequence and its final letter. -/
def isParameter (c : Char) : Bool :=
  c.isDigit || c = ';' || c = '?'

/-- The number of characters that complete a control sequence after its opening bracket. -/
def sequenceTail? (text : List Char) : Option Nat :=
  let parameters := text.takeWhile isParameter
  match text.drop parameters.length with
  | c :: _ => if c.isAlpha then some (parameters.length + 1) else none
  | [] => none

/-- Drop the first `skipped` characters, which belong to a control sequence, and all control sequences after them. -/
def dropSequencesFrom : Nat → List Char → List Char
  | _, [] => []
  | skipped + 1, _ :: rest => dropSequencesFrom skipped rest
  | 0, c :: rest =>
    match c, rest with
    | '\x1b', '[' :: more =>
      match sequenceTail? more with
      | some count => dropSequencesFrom (count + 1) rest
      | none => c :: dropSequencesFrom 0 rest
    | _, _ => c :: dropSequencesFrom 0 rest

/-- A text without its control sequences. -/
def dropSequences (text : List Char) : List Char :=
  dropSequencesFrom 0 text

end Emptiness.Text
