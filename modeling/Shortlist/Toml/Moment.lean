import Shortlist.Text.Digits

/-!
# Dates and times of TOML

A moment is a date, a time of day, or a date and a time behind a `T` or a blank, to which an offset
may belong. Every part has a fixed number of digits and its own range, and a day must exist in its
month. The settings have no moments, so only where one ends is of interest.
-/

namespace Shortlist.Toml

open Shortlist.Text (isDigit numberOf)

/-- Reads a number of `places` digits within bounds. -/
def readPart (places least greatest : Nat) (cs : List Char) : Option (Nat × List Char) :=
  let ds := cs.take places
  let n := numberOf 10 ds
  if ds.length = places ∧ ds.all isDigit ∧ least ≤ n ∧ n ≤ greatest then some (n, cs.drop places)
  else none

/-- What follows a character at the front of a text. -/
def readMark (mark : Char) : List Char → Option (List Char)
  | [] => none
  | c :: r => if c = mark then some r else none

/-- The number of days of a month. -/
def daysIn (year month : Nat) : Nat :=
  if month = 2 then
    if year % 4 = 0 ∧ (year % 100 ≠ 0 ∨ year % 400 = 0) then 29 else 28
  else if month ∈ [4, 6, 9, 11] then 30
  else 31

/-- What follows a date. -/
def readDate (cs : List Char) : Option (List Char) := do
  let (year, cs) ← readPart 4 0 9999 cs
  let (month, cs) ← readPart 2 1 12 (← readMark '-' cs)
  let (_, cs) ← readPart 2 1 (daysIn year month) (← readMark '-' cs)
  return cs

/-- What follows a fraction of a second. -/
def readSecondFraction (cs : List Char) : List Char :=
  match cs with
  | '.' :: d :: r => if isDigit d then r.dropWhile isDigit else cs
  | _ => cs

/-- What follows a time of day. -/
def readTime (cs : List Char) : Option (List Char) := do
  let (_, cs) ← readPart 2 0 23 cs
  let (_, cs) ← readPart 2 0 59 (← readMark ':' cs)
  let (_, cs) ← readPart 2 0 60 (← readMark ':' cs)
  return readSecondFraction cs

/-- What follows an offset. -/
def readOffset : List Char → Option (List Char)
  | 'Z' :: r | 'z' :: r => some r
  | '+' :: r | '-' :: r => do
    let (_, r) ← readPart 2 0 23 r
    let (_, r) ← readPart 2 0 59 (← readMark ':' r)
    return r
  | _ => none

/-- What follows the time behind a date, or the text itself if there is none. -/
def readTimeOfDate (cs : List Char) : List Char :=
  match cs with
  | 'T' :: r | 't' :: r | ' ' :: r =>
    match readTime r with
    | some r => (readOffset r).getD r
    | none => cs
  | _ => cs

/-- What follows a moment. -/
def afterMoment (cs : List Char) : Option (List Char) :=
  match readDate cs with
  | some r => some (readTimeOfDate r)
  | none => readTime cs

/-- Reads a moment: its text, and what follows it. -/
def readMoment (cs : List Char) : Option (String × List Char) :=
  (afterMoment cs).map fun r => (String.ofList (cs.take (cs.length - r.length)), r)

end Shortlist.Toml
