import Shortlist.Text.Digits

/-!
# Labels in ASCII

A label beyond ASCII is written in ASCII letters and digits: its own ASCII characters, a hyphen if
there are any, and then the others in increasing order, each as the number of places that are passed
over from the one before. The numbers are written with the lowest digit first, in a base whose
digits shrink with a *bias* that follows the size of the numbers.
-/

namespace Shortlist.Idna.Punycode

/-- How many digits there are: the letters, and then the ten digits. -/
def base : Nat := 36

/-- The bias of the first number. -/
def firstBias : Nat := 72

/-- The first code point beyond ASCII. -/
def firstCode : Nat := 128

/-- The numbers stay below this limit. -/
def limit : Nat := 0x100000000

/-- The digits below this end a number at its place `k`. -/
def threshold (bias k : Nat) : Nat :=
  if k ≤ bias then 1 else if bias + 26 ≤ k then 26 else k - bias

theorem one_le_threshold (bias k : Nat) : 1 ≤ threshold bias k := by
  unfold threshold
  split
  · omega
  · split <;> omega

/-- Divides a number down until it is small; the places that this takes. -/
def shrink (k delta : Nat) : Nat :=
  if delta ≤ 455 then k + base * delta / (delta + 38) else shrink (k + base) (delta / 35)
termination_by delta

/-- The bias after a number, with `count` characters written. -/
def adapt (delta count : Nat) (first : Bool) : Nat :=
  let delta := if first then delta / 700 else delta / 2
  shrink 0 (delta + delta / count)

/-! ## Writing -/

/-- A digit. -/
def digit (n : Nat) : Char := Char.ofNat (if n < 26 then 0x61 + n else 0x30 + (n - 26))

/-- A number, from its place `k` on. -/
def digits (bias k n : Nat) : List Char :=
  let t := threshold bias k
  if n < t then [digit n]
  else digit (t + (n - t) % (base - t)) :: digits bias (k + base) ((n - t) / (base - t))
termination_by n
decreasing_by
  have := one_le_threshold bias k
  exact Nat.lt_of_le_of_lt (Nat.div_le_self _ _) (by omega)

/-- A label that is being written. -/
structure Writing where
  /-- The code point that comes next. -/
  code : Nat := firstCode
  /-- The places passed over. -/
  delta : Nat := 0
  bias : Nat := firstBias
  /-- How many characters have been written. -/
  count : Nat
  first : Bool := true
  /-- What has been written, the last first. -/
  out : List Char

namespace Writing

/-- Passes one character of the label on the way of the current code point. -/
def pass (w : Writing) (c : Nat) : Writing :=
  if c < w.code then { w with delta := w.delta + 1 }
  else if c = w.code then
    { w with
      delta := 0
      bias := adapt w.delta (w.count + 1) w.first
      count := w.count + 1
      first := false
      out := (digits w.bias base w.delta).reverse ++ w.out }
  else w

/-- Writes all characters of one code point. -/
def sweep (label : List Nat) (w : Writing) (code : Nat) : Writing :=
  let w := { w with code, delta := w.delta + (code - w.code) * (w.count + 1) }
  let w := label.foldl pass w
  { w with code := w.code + 1, delta := w.delta + 1 }

end Writing

/-- A label in ASCII. -/
def encode (label : List Char) : List Char :=
  let codes := label.map (·.toNat)
  let basic := label.filter (·.toNat < firstCode)
  let others := ((codes.filter (firstCode ≤ ·)).mergeSort (· ≤ ·)).eraseDups
  let front := if basic.isEmpty then [] else basic ++ ['-']
  let w := others.foldl (Writing.sweep codes)
    { count := basic.length, out := front.reverse }
  w.out.reverse

/-! ## Reading -/

/-- The value of a digit. -/
def value? (c : Char) : Option Nat :=
  if Text.isDigit c then some (c.toNat - 0x30 + 26)
  else if Text.isLetter c then some ((Text.lowerChar c).toNat - 0x61)
  else none

/-- Reads a number from its place `k` on, onto `n`, where a digit counts `weight`. -/
def readNumber (bias k weight n : Nat) : List Char → Option (Nat × List Char)
  | [] => none
  | c :: cs =>
    match value? c with
    | none => none
    | some d =>
      let n := n + d * weight
      let t := threshold bias k
      let next := weight * (base - t)
      if limit ≤ n then none
      else if d < t then some (n, cs)
      else if limit ≤ next then none
      else readNumber bias (k + base) next n cs

/-- Reads numbers, and puts the characters into the label that they tell; `place` is where the last
one was put. The fuel bounds the numbers. -/
def readInsertions : (fuel : Nat) → (code place bias : Nat) → List Char → List Char →
    Option (List Char)
  | 0, _, _, _, _, _ => none
  | fuel + 1, code, place, bias, label, cs =>
    if cs.isEmpty then some label
    else match readNumber bias base 1 place cs with
      | none => none
      | some (n, cs) =>
        let count := label.length + 1
        let code := code + n / count
        if h : code.isValidChar then
          let place' := n % count
          readInsertions fuel code (place' + 1) (adapt (n - place) count (place = 0))
            (label.insertIdx place' (Char.ofNatAux code h)) cs
        else none

/-- The label that is written in ASCII. -/
def decode (cs : List Char) : Option (List Char) :=
  match cs.reverse.span (· != '-') with
  | (after, '-' :: before) =>
    if before.isEmpty then none
    else readInsertions (cs.length + 1) firstCode 0 firstBias before.reverse after.reverse
  | _ => readInsertions (cs.length + 1) firstCode 0 firstBias [] cs

end Shortlist.Idna.Punycode
