import Mathlib.Data.List.TakeWhile
import Shortlist.Proofs.Json.Units

/-!
# The grammar of JSON strings

Between its quotes a JSON string is a list of pieces: characters that stand for themselves, short
escapes, and code units by their hexadecimal digits (`Piece`). Its text is the one whose code units
are those of the pieces, one after the other. The reader reads exactly the strings that are made of
pieces, as this text (`readBody_eq_some_iff`); where there is no such text, since a half has no
partner, it refuses the string (`readBody_pieces`). The writer is one that picks a piece for each
character (`exists_piece_escape`), so that what it writes is read back (`read_write`).
-/

namespace Shortlist.Json.Literal

open Shortlist.Text (hexValue? paddedHex)

/-! ## Pieces -/

/-- A piece of a JSON string. -/
inductive Piece where
  /-- A character that stands for itself. -/
  | plain (c : Char) (ok : c ≠ '"' ∧ c ≠ '\\' ∧ 0x20 ≤ c.toNat)
  /-- A character by the letter of its short escape. -/
  | short (letter c : Char) (value : short? letter = some c)
  /-- A code unit by its four hexadecimal digits. -/
  | unit (a b c d : Char) (n : Nat) (value : unit? a b c d = some n)

namespace Piece

/-- How a piece is written. -/
def text : Piece → List Char
  | plain c _ => [c]
  | short letter _ _ => ['\\', letter]
  | unit a b c d _ _ => ['\\', 'u', a, b, c, d]

/-- The code units that a piece stands for. -/
def codes : Piece → List Nat
  | plain c _ | short _ c _ => units c
  | unit _ _ _ _ n _ => [n]

@[simp] theorem text_plain {c : Char} (ok) : (plain c ok).text = [c] := rfl

@[simp] theorem text_short {letter c : Char} (value) :
    (short letter c value).text = ['\\', letter] := rfl

@[simp] theorem text_unit {a b c d : Char} {n : Nat} (value) :
    (unit a b c d n value).text = ['\\', 'u', a, b, c, d] := rfl

@[simp] theorem codes_plain {c : Char} (ok) : (plain c ok).codes = units c := rfl

@[simp] theorem codes_short {letter c : Char} (value) :
    (short letter c value).codes = units c := rfl

@[simp] theorem codes_unit {a b c d : Char} {n : Nat} (value) :
    (unit a b c d n value).codes = [n] := rfl

end Piece

/-- A hexadecimal digit has a value of four bits. -/
theorem hexValue?_lt {c : Char} {n : Nat} (h : hexValue? c = some n) : n < 16 := by
  unfold hexValue? at h
  grind

theorem unit?_lt {a b c d : Char} {n : Nat} (h : unit? a b c d = some n) : n < 0x10000 := by
  unfold unit? at h
  split at h
  · rename_i ha hb hc hd
    have ha := hexValue?_lt ha
    have hb := hexValue?_lt hb
    have hc := hexValue?_lt hc
    have hd := hexValue?_lt hd
    obtain rfl := Option.some.inj h
    omega
  · cases h

/-- The number of a code unit has sixteen bits. -/
theorem lt_of_mem_units {c : Char} {n : Nat} (h : n ∈ units c) : n < 0x10000 := by
  have hvalid := toNat_valid c
  unfold units at h
  split at h
  · obtain rfl := List.mem_singleton.mp h
    assumption
  · simp only [List.mem_cons, List.not_mem_nil, or_false] at h
    omega

/-- The pieces of a string stand for units of sixteen bits. -/
theorem lt_of_mem_codes {ps : List Piece} : ∀ n ∈ ps.flatMap Piece.codes, n < 0x10000 := by
  intro n hn
  obtain ⟨p, -, hp⟩ := List.mem_flatMap.mp hn
  cases p with
  | plain c ok => exact lt_of_mem_units hp
  | short letter c value => exact lt_of_mem_units hp
  | unit a b c d m value =>
    obtain rfl := List.mem_singleton.mp hp
    exact unit?_lt value

/-! ## Reading piece by piece -/

theorem readBody_quote (rest : List Char) : readBody ('"' :: rest) = some ([], rest) := rfl

theorem readBody_plain {c : Char} (ok : c ≠ '"' ∧ c ≠ '\\' ∧ 0x20 ≤ c.toNat) (rest : List Char) :
    readBody (c :: rest) = (readBody rest).map fun r => (c :: r.1, r.2) := by
  obtain ⟨hquote, hslash, hlow⟩ := ok
  rw [readBody]
  · rw [if_neg]
    rintro (h | h)
    · exact hslash h
    · omega
  all_goals simp_all

theorem readBody_short {letter c : Char} (h : short? letter = some c) (rest : List Char) :
    readBody ('\\' :: letter :: rest) = (readBody rest).map fun r => (c :: r.1, r.2) := by
  have hu : letter ≠ 'u' := by
    rintro rfl
    cases h
  rw [readBody]
  · rw [h]
  all_goals simp_all

/-- A code unit is a character of its own, or the first half of one whose other half must follow. -/
theorem readBody_unit {a b c d : Char} {n : Nat} (h : unit? a b c d = some n) (rest : List Char) :
    readBody ('\\' :: 'u' :: a :: b :: c :: d :: rest) =
      if isHigh n then
        match rest with
        | '\\' :: 'u' :: e :: f :: g :: k :: later =>
          match unit? e f g k with
          | none => none
          | some m =>
            if isLow m then (readBody later).map fun r => (joined n m :: r.1, r.2) else none
        | _ => none
      else if isLow n then none
      else (readBody rest).map fun r => (Char.ofNat n :: r.1, r.2) := by
  have hread := readBody.eq_def ('\\' :: 'u' :: a :: b :: c :: d :: rest)
  simp only [h] at hread
  exact hread

theorem readBody_whole {a b c d : Char} {n : Nat} (h : unit? a b c d = some n)
    (hhigh : isHigh n = false) (hlow : isLow n = false) (rest : List Char) :
    readBody ('\\' :: 'u' :: a :: b :: c :: d :: rest) =
      (readBody rest).map fun r => (Char.ofNat n :: r.1, r.2) := by
  rw [readBody_unit h]
  simp only [hhigh, hlow, Bool.false_eq_true, if_false]

theorem readBody_low {a b c d : Char} {n : Nat} (h : unit? a b c d = some n)
    (hlow : isLow n = true) (rest : List Char) :
    readBody ('\\' :: 'u' :: a :: b :: c :: d :: rest) = none := by
  rw [readBody_unit h]
  simp only [isHigh_of_isLow hlow, hlow, Bool.false_eq_true, if_false, if_true]

theorem readBody_pair {a b c d e f g k : Char} {n m : Nat} (hn : unit? a b c d = some n)
    (hm : unit? e f g k = some m) (hhigh : isHigh n = true) (rest : List Char) :
    readBody ('\\' :: 'u' :: a :: b :: c :: d :: '\\' :: 'u' :: e :: f :: g :: k :: rest) =
      if isLow m then (readBody rest).map fun r => (joined n m :: r.1, r.2) else none := by
  rw [readBody_unit hn]
  simp only [hhigh, hm, if_true]

/-- A high half is refused if no code unit is written behind it. -/
theorem readBody_high {a b c d : Char} {n : Nat} {rest : List Char} (h : unit? a b c d = some n)
    (hhigh : isHigh n = true)
    (hrest : ∀ e f g k later, rest ≠ '\\' :: 'u' :: e :: f :: g :: k :: later) :
    readBody ('\\' :: 'u' :: a :: b :: c :: d :: rest) = none := by
  rw [readBody_unit h, if_pos hhigh]
  split
  · exact absurd rfl (hrest _ _ _ _ _)
  · rfl

/-- Behind a high half the pieces are read as its partner and what follows it, or not at all. -/
theorem readBody_high_pieces {a b c d : Char} {n : Nat} (value : unit? a b c d = some n)
    (hhigh : isHigh n = true) {ps : List Piece} {rest : List Char}
    (ih : ∀ later : List Piece, later.length < ps.length →
      readBody (later.flatMap Piece.text ++ '"' :: rest) =
        (decode (later.flatMap Piece.codes)).map fun text => (text, rest)) :
    readBody ('\\' :: 'u' :: a :: b :: c :: d :: (ps.flatMap Piece.text ++ '"' :: rest)) =
      (decode (n :: ps.flatMap Piece.codes)).map fun text => (text, rest) := by
  rcases ps with _ | ⟨next, ps⟩
  · rw [List.flatMap_nil, List.nil_append, readBody_high value hhigh (by simp),
      List.flatMap_nil, decode_of_high hhigh (by simp), Option.map_none]
  rw [List.flatMap_cons, List.flatMap_cons, List.append_assoc]
  -- Only a low half that is written as a unit too is its partner.
  cases next with
  | plain c' ok =>
    rw [Piece.codes_plain, decode_of_high_units hhigh, readBody_high value hhigh]
    · rfl
    · intro e f g k later h
      exact ok.2.1 (List.cons.inj h).1
  | short letter c' value' =>
    rw [Piece.codes_short, decode_of_high_units hhigh, readBody_high value hhigh]
    · rfl
    · intro e f g k later h
      obtain rfl : letter = 'u' := (List.cons.inj (List.cons.inj h).2).1
      cases value'
  | unit e f g k m value' =>
    simp only [Piece.text_unit, Piece.codes_unit, List.cons_append, List.nil_append]
    rw [readBody_pair value value' hhigh]
    split
    · rename_i hpartner
      rw [decode_of_pair hhigh hpartner, ih ps (Nat.lt_succ_self _), Option.map_map,
        Option.map_map]
      rfl
    · rename_i hpartner
      rw [decode_of_high hhigh (by simpa using hpartner), Option.map_none]

/-- A string of pieces is read as the text whose code units are theirs. -/
theorem readBody_pieces (ps : List Piece) (rest : List Char) :
    readBody (ps.flatMap Piece.text ++ '"' :: rest) =
      (decode (ps.flatMap Piece.codes)).map fun text => (text, rest) := by
  -- The induction is on the number of pieces, since a pair takes two of them.
  induction hlength : ps.length using Nat.strongRecOn generalizing ps with
  | _ count ih =>
    rcases ps with _ | ⟨p, ps⟩
    · rw [List.flatMap_nil, List.nil_append, readBody_quote]
      rfl
    have hshorter : ∀ later : List Piece, later.length ≤ ps.length →
        readBody (later.flatMap Piece.text ++ '"' :: rest) =
          (decode (later.flatMap Piece.codes)).map fun text => (text, rest) := by
      intro later hle
      refine ih later.length ?_ later rfl
      rw [← hlength, List.length_cons]
      exact Nat.lt_succ_of_le hle
    have hps := hshorter ps le_rfl
    rw [List.flatMap_cons, List.flatMap_cons, List.append_assoc]
    cases p with
    | plain c ok =>
      rw [Piece.text_plain, Piece.codes_plain, List.singleton_append, readBody_plain ok, hps,
        decode_units_append, Option.map_map, Option.map_map]
      rfl
    | short letter c value =>
      rw [Piece.text_short, Piece.codes_short, List.cons_append, List.singleton_append,
        readBody_short value, hps, decode_units_append, Option.map_map, Option.map_map]
      rfl
    | unit a b c d n value =>
      simp only [Piece.text_unit, Piece.codes_unit, List.cons_append, List.nil_append]
      by_cases hlow : isLow n = true
      · rw [readBody_low value hlow, decode_of_low hlow, Option.map_none]
      rw [Bool.not_eq_true] at hlow
      by_cases hhigh : isHigh n = true
      · exact readBody_high_pieces value hhigh fun later hlater =>
          hshorter later (Nat.le_of_lt hlater)
      · rw [Bool.not_eq_true] at hhigh
        rw [readBody_whole value hhigh hlow, hps, decode_of_whole hhigh hlow, Option.map_map,
          Option.map_map]
        rfl

theorem exists_of_map_eq_some {c : Char} {text rest : List Char}
    {inner? : Option (List Char × List Char)}
    (h : (inner?.map fun r => (c :: r.1, r.2)) = some (text, rest)) :
    ∃ inner, inner? = some (inner, rest) := by
  obtain ⟨⟨inner, _⟩, hinner, hpair⟩ := Option.map_eq_some_iff.mp h
  obtain ⟨-, rfl⟩ := Prod.mk.inj hpair
  exact ⟨inner, hinner⟩

/-- Whatever is read is a string of pieces. -/
theorem exists_pieces_of_readBody {cs text rest : List Char} (h : readBody cs = some (text, rest)) :
    ∃ ps : List Piece, cs = ps.flatMap Piece.text ++ '"' :: rest := by
  -- The induction follows the reader, each of whose steps takes one piece or the two of a pair.
  fun_induction readBody cs generalizing text with
  | case1 | case3 | case4 | case6 | case7 | case8 | case10 | case12 => cases h
  | case2 =>
    obtain ⟨-, rfl⟩ := Prod.mk.inj (Option.some.inj h)
    exact ⟨[], rfl⟩
  | case5 a b c d n hn _ e f g k later m hm _ ih =>
    obtain ⟨inner, hlater⟩ := exists_of_map_eq_some h
    obtain ⟨ps, rfl⟩ := ih hlater
    exact ⟨.unit a b c d n hn :: .unit e f g k m hm :: ps, rfl⟩
  | case9 a b c d later n hn _ _ ih =>
    obtain ⟨inner, hlater⟩ := exists_of_map_eq_some h
    obtain ⟨ps, rfl⟩ := ih hlater
    exact ⟨.unit a b c d n hn :: ps, rfl⟩
  | case11 letter later _ c hc ih =>
    obtain ⟨inner, hlater⟩ := exists_of_map_eq_some h
    obtain ⟨ps, rfl⟩ := ih hlater
    exact ⟨.short letter c hc :: ps, rfl⟩
  | case13 c later hquote _ _ hok ih =>
    obtain ⟨inner, hlater⟩ := exists_of_map_eq_some h
    obtain ⟨ps, rfl⟩ := ih hlater
    obtain ⟨hslash, hlow⟩ := not_or.mp hok
    exact ⟨.plain c ⟨hquote, hslash, Nat.le_of_not_lt hlow⟩ :: ps, rfl⟩

/-- The reader reads the strings of pieces, as the text that has their code units. -/
theorem readBody_eq_some_iff {cs text rest : List Char} :
    readBody cs = some (text, rest) ↔
      ∃ ps : List Piece, cs = ps.flatMap Piece.text ++ '"' :: rest ∧
        text.flatMap units = ps.flatMap Piece.codes := by
  constructor
  · intro h
    obtain ⟨ps, rfl⟩ := exists_pieces_of_readBody h
    rw [readBody_pieces] at h
    obtain ⟨same, hdecode, hpair⟩ := Option.map_eq_some_iff.mp h
    obtain ⟨rfl, -⟩ := Prod.mk.inj hpair
    exact ⟨ps, rfl, (decode_eq_some_iff lt_of_mem_codes).mp hdecode⟩
  · rintro ⟨ps, rfl, hunits⟩
    rw [readBody_pieces, (decode_eq_some_iff lt_of_mem_codes).mpr hunits, Option.map_some]

/-! ## Whole texts -/

/-- A text is read if a string and then nothing but blanks follow the blanks at its front. -/
theorem read_eq_some_iff {cs text : List Char} :
    read cs = some text ↔ ∃ inner after, cs.dropWhile isSpace = '"' :: inner ∧
      readBody inner = some (text, after) ∧ ∀ c ∈ after, isSpace c = true := by
  unfold read
  constructor
  · intro h
    split at h
    · rename_i inner hskip
      split at h
      · rename_i body after hbody
        split at h
        · rename_i hafter
          obtain rfl := Option.some.inj h
          exact ⟨inner, after, hskip, hbody, List.all_eq_true.mp hafter⟩
        · cases h
      · cases h
    · cases h
  · rintro ⟨inner, after, hskip, hbody, hafter⟩
    rw [hskip]
    simp only [hbody]
    rw [if_pos (List.all_eq_true.mpr hafter)]

/-- A string of pieces between blanks. -/
def spelled (before : List Char) (ps : List Piece) (after : List Char) : List Char :=
  before ++ '"' :: (ps.flatMap Piece.text ++ '"' :: after)

/-- A string between blanks is read as the text that has its code units, if there is one. -/
theorem read_spelled {before after : List Char} (ps : List Piece)
    (hbefore : ∀ c ∈ before, isSpace c = true) (hafter : ∀ c ∈ after, isSpace c = true) :
    read (spelled before ps after) = decode (ps.flatMap Piece.codes) := by
  have hskip : (spelled before ps after).dropWhile isSpace =
      '"' :: (ps.flatMap Piece.text ++ '"' :: after) := by
    unfold spelled
    rw [List.dropWhile_append_of_pos hbefore]
    rfl
  unfold read
  rw [hskip]
  simp only [readBody_pieces]
  cases decode (ps.flatMap Piece.codes) with
  | none => rfl
  | some text =>
    simp only [Option.map_some]
    rw [if_pos (List.all_eq_true.mpr hafter)]

/-- A text that is read is a string between blanks. -/
theorem exists_spelled_of_read {cs text : List Char} (h : read cs = some text) :
    ∃ before ps after, (∀ c ∈ before, isSpace c = true) ∧ (∀ c ∈ after, isSpace c = true) ∧
      cs = spelled before ps after := by
  obtain ⟨inner, after, hskip, hbody, hafter⟩ := read_eq_some_iff.mp h
  obtain ⟨ps, rfl⟩ := exists_pieces_of_readBody hbody
  refine ⟨cs.takeWhile isSpace, ps, after, fun c hc => List.mem_takeWhile_imp hc, hafter, ?_⟩
  unfold spelled
  rw [← hskip, List.takeWhile_append_dropWhile]

/-! ## Writing -/

/-- The numbers of control characters are read back from their four digits. -/
theorem unit?_paddedHex {n : Nat} (h : n < 0x20) :
    paddedHex 4 n = ['0', '0', Nat.digitChar (n / 16), Nat.digitChar (n % 16)] ∧
      unit? '0' '0' (Nat.digitChar (n / 16)) (Nat.digitChar (n % 16)) = some n := by
  revert n
  decide

/-- Each character is written as a piece with its code units. -/
theorem exists_piece_escape (c : Char) : ∃ p : Piece, p.text = escape c ∧ p.codes = units c := by
  unfold escape
  split_ifs with hquote hslash hline hreturn htab hback hfeed hlow
  · subst hquote
    exact ⟨.short '"' '"' rfl, rfl, rfl⟩
  · subst hslash
    exact ⟨.short '\\' '\\' rfl, rfl, rfl⟩
  · subst hline
    exact ⟨.short 'n' '\n' rfl, rfl, rfl⟩
  · subst hreturn
    exact ⟨.short 'r' '\r' rfl, rfl, rfl⟩
  · subst htab
    exact ⟨.short 't' '\t' rfl, rfl, rfl⟩
  · obtain rfl : c = '\x08' := Char.toNat_inj.mp hback
    exact ⟨.short 'b' '\x08' rfl, rfl, rfl⟩
  · obtain rfl : c = '\x0c' := Char.toNat_inj.mp hfeed
    exact ⟨.short 'f' '\x0c' rfl, rfl, rfl⟩
  · -- The other control characters are written by their numbers.
    obtain ⟨hdigits, hvalue⟩ := unit?_paddedHex hlow
    have hunits : units c = [c.toNat] := if_pos (Nat.lt_trans hlow (by decide))
    exact ⟨.unit '0' '0' _ _ c.toNat hvalue, by rw [hdigits]; rfl, hunits.symm⟩
  · exact ⟨.plain c ⟨hquote, hslash, Nat.le_of_not_lt hlow⟩, rfl, rfl⟩

/-- A text is written as a string of pieces with its code units. -/
theorem exists_spelled_write (text : List Char) : ∃ ps : List Piece,
    write text = spelled [] ps [] ∧ ps.flatMap Piece.codes = text.flatMap units := by
  have hpieces : ∃ ps : List Piece, ps.flatMap Piece.text = text.flatMap escape ∧
      ps.flatMap Piece.codes = text.flatMap units := by
    induction text with
    | nil => exact ⟨[], rfl, rfl⟩
    | cons c text ih =>
      obtain ⟨p, htext, hcodes⟩ := exists_piece_escape c
      obtain ⟨ps, htexts, hunits⟩ := ih
      refine ⟨p :: ps, ?_, ?_⟩
      · rw [List.flatMap_cons, List.flatMap_cons, htext, htexts]
      · rw [List.flatMap_cons, List.flatMap_cons, hcodes, hunits]
  obtain ⟨ps, htexts, hunits⟩ := hpieces
  refine ⟨ps, ?_, hunits⟩
  unfold write spelled
  rw [htexts]
  rfl

/-- What is written is read back. -/
theorem read_write (text : List Char) : read (write text) = some text := by
  obtain ⟨ps, hwrite, hunits⟩ := exists_spelled_write text
  rw [hwrite, read_spelled ps (by simp) (by simp), hunits, decode_flatMap]

end Shortlist.Json.Literal
