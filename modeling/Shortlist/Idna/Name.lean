import Shortlist.Idna.Direction
import Shortlist.Idna.Joining
import Shortlist.Idna.Punycode
import Shortlist.Idna.Writing
import Shortlist.Unicode.Composed

/-!
# Names beyond ASCII

A name of a host may be written in any script; where it is looked up, its labels are in ASCII.
`toAscii?` writes each character as names do, composes what comes out, and puts each label that is
beyond ASCII into its ASCII form. It refuses a name that holds a character no name may hold, an
ASCII form that stands for no proper label, and labels that do not keep to their direction.
-/

namespace Shortlist.Idna

/-- A label as it is read and as it is looked up. -/
structure Label where
  shown : List Char
  ascii : List Char

/-- Whether a character is in ASCII. -/
def isAscii (c : Char) : Bool := c.toNat < 0x80

/-- What stands in front of a label's ASCII form. -/
def mark : List Char := "xn--".toList

/-- The greatest length of a label beyond ASCII. -/
def maxShown : Nat := 1000

/-- The greatest length of an ASCII form behind its mark. -/
def maxForm : Nat := 2000

/-- Whether a label beyond ASCII is one that a name may show. -/
def isProper (label : List Char) : Bool :=
  label.length ≤ maxShown && label.all isKept && Unicode.composed label = label &&
    !label.head?.any Unicode.isMark && !mark.isPrefixOf label && joinersFit [] label

/-- The label of an ASCII form; it must not be in ASCII itself. -/
def ofForm? (form : List Char) : Option (List Char) :=
  if !form.all isAscii || form.getLast? = some '-' || maxForm < form.length then none
  else (Punycode.decode form).filter fun shown => !shown.all isAscii && isProper shown

/-- Reads a label. -/
def readLabel (label : List Char) : Option Label :=
  if mark.isPrefixOf label then
    (ofForm? (label.drop mark.length)).map fun shown => { shown, ascii := label }
  else if label.all isAscii then some { shown := label, ascii := label }
  else if isProper label then
    some { shown := label, ascii := mark ++ Punycode.encode label }
  else none

/-- Whether the labels of a name keep to their directions, if they matter. -/
def areOneWay (labels : List Label) : Bool :=
  !labels.any (fun l => l.shown.any runsLeft) || labels.all fun l => isOneWay l.shown

/-- The ASCII form of a name. -/
def toAscii? (name : List Char) : Option (List Char) := do
  let written ← name.mapM write?
  let labels ← ((Unicode.composed written.flatten).splitOn '.').mapM readLabel
  if areOneWay labels then return ['.'].intercalate (labels.map (·.ascii)) else none

end Shortlist.Idna
