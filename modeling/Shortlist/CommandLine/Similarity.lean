/-!
# Similar words

How similar two words are, between zero and one, by the letters that they share at about the same
place and by how many of these are in another order; and the word of a list that is similar enough
to one that was not understood to be offered in its place.
-/

namespace Shortlist.Similarity

/-- The letters of two words that are shared. -/
structure Shared where
  /-- The shared letters of the first word, in its order. -/
  left : List Char
  /-- The shared letters of the second word, in its order. -/
  right : List Char

/-- Pairs each letter of the first word with the first equal one of the second word that is not
paired yet and is at most `range` places away; the places of the pairs. -/
def pairs (range : Nat) (a b : List Char) : List (Nat × Nat) :=
  (a.zipIdx.foldl (fun (found : List (Nat × Nat)) (c, i) =>
    let free (x : Char × Nat) : Bool :=
      x.1 = c && i ≤ x.2 + range && x.2 ≤ i + range && !found.any (·.2 = x.2)
    match b.zipIdx.find? free with
    | some (_, j) => (i, j) :: found
    | none => found) []).reverse

/-- The letters that two words share. -/
def shared (a b : List Char) : Shared :=
  let ps := pairs (max a.length b.length / 2 - 1) a b
  { left := ps.filterMap fun p => a[p.1]?
    right := (b.zipIdx.filter fun x => ps.any (·.2 = x.2)).map (·.1) }

/-- How similar two words are. -/
def measure (a b : List Char) : Float :=
  if a.isEmpty && b.isEmpty then 1
  else
    let s := shared a b
    let matching := s.left.length
    if matching = 0 then 0
    else
      let moved := ((s.left.zip s.right).filter fun p => p.1 != p.2).length / 2
      let m := matching.toFloat
      (m / a.length.toFloat + m / b.length.toFloat + (matching - moved).toFloat / m) / 3

/-- The most similar word, the last of equally similar ones, if one is similar enough. -/
def mostSimilar? (word : String) (words : List String) : Option String :=
  let best := words.foldl (fun (best : Option (String × Float)) w =>
    let m := measure word.toList w.toList
    if m ≤ 0.7 then best
    else match best with
      | some (_, n) => if n ≤ m then some (w, m) else best
      | none => some (w, m)) none
  best.map (·.1)

end Shortlist.Similarity
