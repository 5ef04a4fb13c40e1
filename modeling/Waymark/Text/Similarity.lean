set_option autoImplicit false

/-! How alike two texts are, from 0 to 1. Characters match if they are equal and not too far apart;
matched characters in another order count half, and texts that are rather alike gain by a common
beginning. -/

namespace Waymark.Text

structure Matchable where
  character : Char
  matched : Bool := false
deriving DecidableEq, Repr

/-- Matches a character with the first free one that is equal among those with an index in a range;
`none` if there is none. -/
def matchIn (wanted : Char) (first stop : Nat) : Nat → List Matchable → Option (List Matchable)
  | _, [] => none
  | index, other :: rest =>
      if stop ≤ index then none
      else if first ≤ index && other.character == wanted && !other.matched then
        some ({ other with matched := true } :: rest)
      else (matchIn wanted first stop (index + 1) rest).map (other :: ·)

/-- Matches the characters of a text in their order; the result has those that were matched, and the
other text with its matched characters. -/
def matchAll (range : Nat) : Nat → List Char → List Matchable → List Char × List Matchable
  | _, [], others => ([], others)
  | index, c :: rest, others =>
      match matchIn c (index - range) (index + range + 1) 0 others with
      | some others =>
          let (matched, others) := matchAll range (index + 1) rest others
          (c :: matched, others)
      | none => matchAll range (index + 1) rest others

/-- The share of matched characters in two texts, less those in another order. -/
def matchScore (a b : List Char) : Float :=
  if a.isEmpty && b.isEmpty then 1
  else
    let range := max a.length b.length / 2 - 1
    let (left, others) := matchAll range 0 a (b.map ({ character := · }))
    let right := (others.filter (·.matched)).map (·.character)
    let displaced := ((left.zip right).countP fun (x, y) => x != y) / 2
    let matched := left.length.toFloat
    if left.isEmpty then 0
    else
      (matched / a.length.toFloat + matched / b.length.toFloat
        + (left.length - displaced).toFloat / matched) / 3

/-- The length of the common beginning of two texts, as far as four characters. -/
def commonLead (a b : List Char) : Nat :=
  (((a.take 4).zip b).takeWhile fun (x, y) => x == y).length

def similarity (a b : String) : Float :=
  let score := matchScore a.toList b.toList
  if 0.7 < score then
    score + 0.1 * (commonLead a.toList b.toList).toFloat * (1 - score)
  else score

/-- Of the candidates that are alike enough the one that is most alike a text, and of several such
ones the last. -/
def mostSimilar? (text : String) (candidates : List String) : Option String :=
  let scored := (candidates.map fun candidate => (candidate, similarity text candidate)).filter
    fun (_, score) => 0.8 < score
  match scored with
  | [] => none
  | first :: rest =>
      some (rest.foldl (fun best next => if next.2 < best.2 then best else next) first).1

end Waymark.Text
