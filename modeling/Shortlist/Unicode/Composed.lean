import Shortlist.Unicode.Composite
import Shortlist.Unicode.Order

/-!
# Composed text

The same text can be written in several ways: with composites or with the pairs that they stand for,
and with marks in different orders. Its composed form takes every character apart, puts the marks in
the order of their classes, and then writes composites wherever it can.
-/

namespace Shortlist.Unicode

/-! ## Syllables of Hangul -/

/-- The first of the syllables, which follow each other by their leading consonant, their vowel and
their trailing consonant. -/
def firstSyllable : Nat := 0xAC00

/-- How many syllables there are. -/
def syllableCount : Nat := 11172

/-- The letters of a syllable. -/
def syllableParts? (n : Nat) : Option (List Nat) :=
  if firstSyllable ≤ n ∧ n < firstSyllable + syllableCount then
    let k := n - firstSyllable
    let trailing := k % 28
    some ([0x1100 + k / 588, 0x1161 + k % 588 / 28] ++
      if trailing = 0 then [] else [0x11A7 + trailing])
  else none

/-- The syllable of two letters, or of a syllable without a trailing consonant and that. -/
def syllable? (a b : Nat) : Option Nat :=
  if 0x1100 ≤ a ∧ a < 0x1113 ∧ 0x1161 ≤ b ∧ b < 0x1176 then
    some (firstSyllable + ((a - 0x1100) * 21 + (b - 0x1161)) * 28)
  else if firstSyllable ≤ a ∧ a < firstSyllable + syllableCount ∧ (a - firstSyllable) % 28 = 0 ∧
      0x11A8 ≤ b ∧ b < 0x11C3 then
    some (a + (b - 0x11A7))
  else none

/-! ## Taking apart -/

/-- How deep composites are nested: none holds one that holds one that holds one. -/
def depth : Nat := 4

/-- The characters that one stands for, where composites are nested at most `fuel` deep. -/
def partsWithin : (fuel : Nat) → Nat → List Nat
  | 0, n => [n]
  | fuel + 1, n =>
    match composites.lookup n with
    | some ms => ms.flatMap (partsWithin fuel)
    | none => ((syllableParts? n).or (replacements.lookup n)).getD [n]

/-- The characters that one stands for. -/
def parts (c : Char) : List Char := (partsWithin depth c.toNat).map Char.ofNat

/-- A mark in front of an ordered text moves behind the marks of lower classes. -/
def place (c : Char) : List Char → List Char
  | [] => [c]
  | d :: rest =>
    if 0 < markClass d ∧ markClass d < markClass c then d :: place c rest else c :: d :: rest

/-- A text taken apart, with its marks in order. -/
def decomposed (cs : List Char) : List Char := (cs.flatMap parts).foldr place []

/-! ## Putting together -/

/-- The character that stands for two. -/
def pair? (a b : Char) : Option Char :=
  ((syllable? a.toNat b.toNat).or
    ((composites.find? (·.2 = [a.toNat, b.toNat])).map (·.1))).map Char.ofNat

/-- Composes what follows a starter with it; `skipped` are the marks between that it did not take,
the last first, and `last` is the class of that one. A mark is kept from the starter by one of the
same or a higher class. -/
def composeOnto (starter : Char) (skipped : List Char) (last : Nat) : List Char → List Char
  | [] => starter :: skipped.reverse
  | c :: cs =>
    let class' := markClass c
    let free := skipped.isEmpty || last < class'
    match if free then pair? starter c else none with
    | some composite => composeOnto composite skipped last cs
    | none =>
      if class' = 0 then starter :: (skipped.reverse ++ composeOnto c [] 0 cs)
      else composeOnto starter (c :: skipped) class' cs

/-- Composes an ordered text; marks before the first starter stay as they are. -/
def compose : List Char → List Char
  | [] => []
  | c :: cs => if markClass c = 0 then composeOnto c [] 0 cs else c :: compose cs

/-- The composed form of a text. -/
def composed (cs : List Char) : List Char := compose (decomposed cs)

end Shortlist.Unicode
