/-!
# Similar words

Two words are as similar as the characters that they have in common, counted by matching blocks: the longest common
run first, then the longest common runs on either side of it. A word that is misspelt is answered with the known
words that are similar enough to it.
-/

namespace Emptiness.CommandLine

/-- The length of the common beginning of two texts. -/
def commonLength : List Char → List Char → Nat
  | a :: as, b :: bs => if a = b then commonLength as bs + 1 else 0
  | _, _ => 0

/-- A common run of two texts: where it begins in each, and its length. -/
structure Run where
  first : Nat
  second : Nat
  length : Nat

/-- The longest common run; of several, the first in the first text and then in the second. -/
def longestRun (as bs : List Char) : Run :=
  (List.range as.length).foldl (fun best first =>
    (List.range bs.length).foldl (fun best second =>
      let length := commonLength (as.drop first) (bs.drop second)
      if best.length < length then ⟨first, second, length⟩ else best) best) ⟨0, 0, 0⟩

/-- The characters in all matching blocks; `fuel` bounds their number. -/
def matchingCount : Nat → List Char → List Char → Nat
  | 0, _, _ => 0
  | fuel + 1, as, bs =>
    let run := longestRun as bs
    if run.length = 0 then 0
    else run.length
      + matchingCount fuel (as.take run.first) (bs.take run.second)
      + matchingCount fuel (as.drop (run.first + run.length)) (bs.drop (run.second + run.length))

/-- A known word with the number of characters that it has in common with another word, and with the number of
characters of both. -/
structure Candidate where
  name : String
  common : Nat
  total : Nat

/-- Compare a known word with a given one. -/
def Candidate.of (word name : String) : Candidate :=
  let length := word.length + name.length
  ⟨name, matchingCount (length + 1) name.toList word.toList, length⟩

/-- At least three fifths of the characters belong to matching blocks. -/
def Candidate.isSimilar (candidate : Candidate) : Bool :=
  3 * candidate.total ≤ 10 * candidate.common

/-- The lengths of two words allow them to be similar, as they have no more in common than the shorter one has
characters. -/
def comparableLengths (word name : String) : Bool :=
  3 * (word.length + name.length) ≤ 10 * min word.length name.length

/-- One candidate is to be preferred to another: by similarity, then by name. -/
def Candidate.precedes (a b : Candidate) : Bool :=
  let left := a.common * b.total
  let right := b.common * a.total
  right < left || (left == right && b.name ≤ a.name)

/-- At most three known words that are similar to a word, in alphabetical order. -/
def similarWords (word : String) (known : List String) : List String :=
  let comparable := known.filter (comparableLengths word)
  let candidates := (comparable.map (Candidate.of word)).filter Candidate.isSimilar
  let best := (candidates.mergeSort Candidate.precedes).take 3
  (best.map (·.name)).mergeSort fun a b => decide (a ≤ b)

end Emptiness.CommandLine
