/-!
# Styled text

Texts for a terminal hold control sequences, which give them their style. `plain` is what is left of
a text where it is not shown on a terminal: without the sequences, and without the controls that are
not blanks. It follows the bytes of the text, since a sequence may be cut short by any of them.
-/

namespace Shortlist.CommandLine.Terminal

/-! ## Writing -/

/-- A style, as the numbers that select it. -/
abbrev Style := List Nat

/-- The style of headings. -/
def heading : Style := [1, 4]

/-- The style of the word that tells of a failure. -/
def alarm : Style := [1, 31]

/-- The style of what is typed as it stands. -/
def literal : Style := [1]

/-- The style of what was typed wrongly. -/
def wrong : Style := [33]

/-- The style of what may have been meant. -/
def proposed : Style := [32]

/-- The sequence that selects a number. -/
def select (n : Nat) : String := "\x1b[" ++ toString n ++ "m"

/-- A text in a style, which ends behind it. -/
def styled (s : Style) (text : String) : String :=
  String.join (s.map select) ++ text ++ select 0

/-! ## Reading -/

/-- Where a reader of control sequences stands. -/
inductive State where
  /-- Outside all sequences. -/
  | ground
  /-- Behind the character that begins a sequence, and behind characters that lead its end. -/
  | escape | escapeLead
  /-- In a sequence with numbers. -/
  | control | numbers | controlLead | controlIgnored
  /-- In front of a string for a device, and in one. -/
  | device | deviceNumbers | deviceLead | deviceIgnored | deviceString
  /-- In a string for the system. -/
  | systemString
  /-- In a string that has no meaning. -/
  | otherString
  deriving DecidableEq, Repr

namespace State

/-- The state behind a byte that follows the beginning of a sequence. -/
def ofEscape (b : Nat) : State :=
  if b < 0x20 ∨ 0x7F ≤ b then escape
  else if b < 0x30 then escapeLead
  else if b = 0x50 then device
  else if b = 0x5B then control
  else if b = 0x5D then systemString
  else if b = 0x58 ∨ b = 0x5E ∨ b = 0x5F then otherString
  else ground

/-- The state behind one more byte. -/
def next (s : State) (b : Nat) : State :=
  if b = 0x18 ∨ b = 0x1A then ground
  else if b = 0x1B then escape
  else match s with
    | ground => ground
    | escape => ofEscape b
    | escapeLead => if 0x30 ≤ b ∧ b < 0x7F then ground else escapeLead
    | control =>
      if b < 0x20 ∨ 0x7F ≤ b then control
      else if b < 0x30 then controlLead
      else if b < 0x40 then numbers
      else ground
    | numbers =>
      if b < 0x20 ∨ 0x7F ≤ b then numbers
      else if b < 0x30 then controlLead
      else if b < 0x3C then numbers
      else if b < 0x40 then controlIgnored
      else ground
    | controlLead =>
      if b < 0x30 ∨ 0x7F ≤ b then controlLead
      else if b < 0x40 then controlIgnored
      else ground
    | controlIgnored => if 0x40 ≤ b ∧ b < 0x7F then ground else controlIgnored
    | device =>
      if b < 0x20 ∨ 0x7F ≤ b then device
      else if b < 0x30 then deviceLead
      else if b < 0x40 then deviceNumbers
      else deviceString
    | deviceNumbers =>
      if b < 0x20 ∨ 0x7F ≤ b then deviceNumbers
      else if b < 0x30 then deviceLead
      else if b < 0x3C then deviceNumbers
      else if b < 0x40 then deviceIgnored
      else deviceString
    | deviceLead =>
      if b < 0x30 ∨ 0x7F ≤ b then deviceLead
      else if b < 0x40 then deviceIgnored
      else deviceString
    | deviceIgnored => if b = 0x9C then ground else deviceIgnored
    | deviceString => if b = 0x9C then ground else deviceString
    | systemString => if b = 0x07 then ground else systemString
    | otherString => if b = 0x9C then ground else otherString

/-- Whether controls are obeyed in a state, and not taken as part of a string. -/
def obeys : State → Bool
  | ground | escape | escapeLead | control | numbers | controlLead | controlIgnored => true
  | _ => false

end State

/-- A control that is a blank. -/
def isBlankControl (b : Nat) : Bool := b == 0x09 || b == 0x0A || b == 0x0C || b == 0x0D

/-- Whether a byte in a state is shown. -/
def isShown (s : State) (b : Nat) : Bool :=
  (s.obeys && isBlankControl b) ||
    (s == .ground && ((0x20 ≤ b && b < 0x7F) || (0xC2 ≤ b && b ≤ 0xF4)))

/-- How many bytes follow the first byte of a character. -/
def following (b : Nat) : Nat :=
  if b < 0xC0 then 0 else if b < 0xE0 then 1 else if b < 0xF0 then 2 else 3

mutual

/-- The bytes that are shown, from a place where none is. -/
def hidden (s : State) : List UInt8 → List UInt8
  | [] => []
  | b :: bs =>
    if isShown s b.toNat then b :: shown (s.next b.toNat) (following b.toNat) bs
    else hidden (s.next b.toNat) bs

/-- The bytes that are shown, from a place where the ones before are; the next `rest` belong to the
character before. Bytes are shown until a control is met, whatever sequence was begun before; only a
character beyond ASCII ends that. -/
def shown (s : State) (rest : Nat) : List UInt8 → List UInt8
  | [] => []
  | b :: bs =>
    if 0 < rest then b :: shown s (rest - 1) bs
    else if isShown .ground b.toNat then
      b :: shown (if following b.toNat = 0 then s else .ground) (following b.toNat) bs
    else hidden (s.next b.toNat) bs

end

/-- A text without its control sequences. -/
def plain (s : String) : String :=
  (String.fromUTF8? (hidden .ground s.toUTF8.toList).toByteArray).getD ""

end Shortlist.CommandLine.Terminal
