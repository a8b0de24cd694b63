/-!
# Blank and control characters

Which characters count as blank space and which as control characters, and the trimming of blank
space from the two ends of a text. Blank space is the Unicode property `White_Space`; control
characters are the general category `Cc`. The two classes overlap (tab, line feed, next line, ...),
so a text is trimmed before it is searched for control characters.

`trim_eq_self_iff` says which texts trimming leaves alone: those with no blank at either end.
-/

namespace Shortlist.Text

/-- The characters with the property `White_Space`. -/
def isBlank (c : Char) : Bool :=
  let n := c.toNat
  (0x9 ≤ n && n ≤ 0xD) || n == 0x20 || n == 0x85 || n == 0xA0 || n == 0x1680 ||
    (0x2000 ≤ n && n ≤ 0x200A) || n == 0x2028 || n == 0x2029 || n == 0x202F || n == 0x205F ||
    n == 0x3000

/-- The control characters: category `Cc`, which is C0, delete and C1. -/
def isControl (c : Char) : Bool :=
  let n := c.toNat
  n < 0x20 || (0x7F ≤ n && n ≤ 0x9F)

/-- A text without the blanks at its front. -/
def trimStart (cs : List Char) : List Char := cs.dropWhile isBlank

/-- A text without the blanks at its end. -/
def trimEnd (cs : List Char) : List Char := (cs.reverse.dropWhile isBlank).reverse

/-- A text without the blanks at either end; the blanks inside it stay. -/
def trim (cs : List Char) : List Char := trimEnd (trimStart cs)

/-- `trim` on strings. -/
def trimString (s : String) : String := String.ofList (trim s.toList)

/-- Length in bytes of the UTF-8 form of a text. -/
def byteLength (cs : List Char) : Nat := cs.foldr (fun c n => c.utf8Size + n) 0

@[simp] theorem trim_nil : trim [] = [] := rfl

@[simp] theorem byteLength_nil : byteLength [] = 0 := rfl

theorem byteLength_cons (c : Char) (cs : List Char) :
    byteLength (c :: cs) = c.utf8Size + byteLength cs := rfl

theorem trimStart_eq_self_iff {cs : List Char} :
    trimStart cs = cs ↔ ∀ c, cs.head? = some c → isBlank c = false := by
  cases cs with
  | nil => simp [trimStart]
  | cons a r =>
    by_cases h : isBlank a = true
    · have hlen : (r.dropWhile isBlank).length ≤ r.length := (List.dropWhile_suffix _).length_le
      simp only [trimStart, List.dropWhile_cons, h, if_true, List.head?_cons, Option.some.injEq]
      constructor
      · intro e
        have := congrArg List.length e
        simp only [List.length_cons] at this
        omega
      · intro e
        have := e a rfl
        simp [h] at this
    · simp [trimStart, h]

theorem trimEnd_eq_self_iff {cs : List Char} :
    trimEnd cs = cs ↔ ∀ c, cs.getLast? = some c → isBlank c = false := by
  rw [← List.head?_reverse, ← trimStart_eq_self_iff, trimEnd, trimStart]
  constructor
  · intro h; rw [← List.reverse_eq_iff]; exact h
  · intro h; rw [List.reverse_eq_iff]; exact h

/-- Trimming leaves a text alone exactly when neither its first nor its last character is blank. -/
theorem trim_eq_self_iff {cs : List Char} :
    trim cs = cs ↔ (∀ c, cs.head? = some c → isBlank c = false) ∧
      (∀ c, cs.getLast? = some c → isBlank c = false) := by
  constructor
  · intro h
    have hs : trimStart cs = cs := by
      have hsuf : trimStart cs <:+ cs := List.dropWhile_suffix _
      have h1 := hsuf.length_le
      have h2 : (trimEnd (trimStart cs)).length ≤ (trimStart cs).length := by
        simpa [trimEnd] using
          (List.dropWhile_suffix (l := (trimStart cs).reverse) isBlank).length_le
      have h3 : (trimEnd (trimStart cs)).length = cs.length := congrArg List.length h
      exact hsuf.eq_of_length (by omega)
    refine ⟨trimStart_eq_self_iff.1 hs, trimEnd_eq_self_iff.1 ?_⟩
    rw [trim, hs] at h
    exact h
  · rintro ⟨h1, h2⟩
    rw [trim, trimStart_eq_self_iff.2 h1, trimEnd_eq_self_iff.2 h2]

end Shortlist.Text
