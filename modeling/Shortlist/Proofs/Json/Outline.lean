import Shortlist.Json.Outline
import Shortlist.Proofs.Json.Literal
import Shortlist.Proofs.Json.Numeral

/-!
# The grammar of JSON texts

A value as it is written (`IsValue`) is one of three words, a number, a string of pieces, or an
array or object of values, with blanks around its parts. Nothing is said of what the parts mean. The
values that are passed over are these, off the front of whatever does not go on with a number
(`passes_skipValue`, `passesAll_skipValue`). Only the names of the outermost members are read, as
the names that their strings are (`name?_eq_some_iff`). The outline of a text is the one that the
grammar gives it (`Outline.read_eq_some_iff`), and there is no other.
-/

namespace Shortlist.Json

open Literal (Piece isSpace short? unit? units)
open Shortlist.Text (isDigit)

variable {α β : Type} {cs rest : List Char}

/-! ## The grammar -/

/-- Nothing but blanks. -/
def Blank (cs : List Char) : Prop := ∀ c ∈ cs, isSpace c = true

/-- A string with its quotes. -/
def IsString (cs : List Char) : Prop :=
  ∃ ps : List Piece, cs = '"' :: (ps.flatMap Piece.text ++ ['"'])

/-- An item, which is written as it is, and not empty. -/
inductive IsItem (V : List Char → Prop) : List Char → List Char → Prop
  | value {c : Char} {v : List Char} (is_value : V (c :: v)) : IsItem V (c :: v) (c :: v)

/-- A member: a string for its name, and a value. -/
inductive IsMember (N : List Char → β → Prop) (V : List Char → Prop) :
    β × List Char → List Char → Prop
  | named {quoted before after v : List Char} {name : β} (is_string : IsString quoted)
    (is_name : N quoted name) (blank_before : Blank before) (blank_after : Blank after)
    (is_value : V v) : IsMember N V (name, v) (quoted ++ (before ++ ':' :: (after ++ v)))

/-- Parts of a form, with blanks around them and commas between them. -/
inductive Parts (P : α → List Char → Prop) : List α → List Char → Prop
  | last {a : α} {before t after : List Char} (blank_before : Blank before) (part : P a t)
    (blank_after : Blank after) : Parts P [a] (before ++ (t ++ after))
  | more {a : α} {as : List α} {before t after later : List Char} (blank_before : Blank before)
    (part : P a t) (blank_after : Blank after) (parts : Parts P as later) :
    Parts P (a :: as) (before ++ (t ++ (after ++ ',' :: later)))

/-- What is between brackets: no parts, or some. -/
inductive Bracketed (P : α → List Char → Prop) : List α → List Char → Prop
  | empty {blanks : List Char} (blank : Blank blanks) : Bracketed P [] blanks
  | parts {as : List α} {t : List Char} (parts : Parts P as t) : Bracketed P as t

/-- A value as it is written. -/
inductive IsValue : List Char → Prop
  | nullWord : IsValue ['n', 'u', 'l', 'l']
  | trueWord : IsValue ['t', 'r', 'u', 'e']
  | falseWord : IsValue ['f', 'a', 'l', 's', 'e']
  | number {cs : List Char} (number : IsNumber cs) : IsValue cs
  | string {cs : List Char} (string : IsString cs) : IsValue cs
  | array {items : List (List Char)} {t : List Char} (items : Bracketed (IsItem IsValue) items t) :
    IsValue ('[' :: (t ++ [']']))
  | object {members : List (Unit × List Char)} {t : List Char}
    (members : Bracketed (IsMember (fun _ _ => True) IsValue) members t) :
    IsValue ('\x7b' :: (t ++ ['\x7d']))

/-- The name that a string is: its bytes encode a string of pieces that have the code units of the
name. -/
def IsName (quoted : List Char) (name : String) : Prop :=
  ∃ (text : String) (ps : List Piece), text.toUTF8 = toBytes quoted ∧
    text.toList = '"' :: (ps.flatMap Piece.text ++ ['"']) ∧
    name.toList.flatMap units = ps.flatMap Piece.codes

/-- The outline of a text. -/
inductive Outlines : List Char → Outline → Prop
  | array {before t after : List Char} {items : List (List Char)} (blank_before : Blank before)
    (bracketed : Bracketed (IsItem IsValue) items t) (blank_after : Blank after) :
    Outlines (before ++ '[' :: (t ++ ']' :: after)) (.array items)
  | object {before t after : List Char} {members : List (String × List Char)}
    (blank_before : Blank before) (bracketed : Bracketed (IsMember IsName IsValue) members t)
    (blank_after : Blank after) :
    Outlines (before ++ '\x7b' :: (t ++ '\x7d' :: after)) (.object members)

/-! ## Blanks -/

theorem exists_blank_skip (cs : List Char) : ∃ before, Blank before ∧ cs = before ++ skip cs :=
  ⟨cs.takeWhile isSpace, fun _ hc => List.mem_takeWhile_imp hc,
    List.takeWhile_append_dropWhile.symm⟩

/-- Blanks are skipped up to the first other character. -/
theorem skip_append {before : List Char} (h : Blank before) {c : Char} (hc : isSpace c = false)
    (rest : List Char) : skip (before ++ c :: rest) = c :: rest := by
  unfold skip
  rw [List.dropWhile_append_of_pos h, List.dropWhile_cons_of_neg (by simp [hc])]

theorem skip_mark {after : List Char} (h : Blank after) {c : Char}
    (hc : c = ',' ∨ c = ':' ∨ c = ']' ∨ c = '\x7d') (rest : List Char) :
    skip (after ++ c :: rest) = c :: rest := by
  refine skip_append h ?_ rest
  rcases hc with rfl | rfl | rfl | rfl <;> rfl

/-- Blanks do not go on with a number, nor does a mark behind them. -/
theorem endsNumber_blank {after : List Char} (h : Blank after) {c : Char}
    (hc : c = ',' ∨ c = ':' ∨ c = ']' ∨ c = '\x7d') (rest : List Char) :
    EndsNumber (after ++ c :: rest) := by
  have hends : ∀ d : Char, isSpace d = true ∨ d = c →
      isDigit d = false ∧ d ≠ '.' ∧ d ≠ 'e' ∧ d ≠ 'E' := by
    rintro d (hd | rfl)
    · simp only [isSpace, Bool.or_eq_true, beq_iff_eq] at hd
      rcases hd with ((rfl | rfl) | rfl) | rfl <;> decide
    · rcases hc with rfl | rfl | rfl | rfl <;> decide
  intro d hd
  cases after with
  | nil =>
    obtain rfl := Option.some.inj hd
    exact hends _ (Or.inr rfl)
  | cons b after =>
    obtain rfl := Option.some.inj hd
    exact hends _ (Or.inl (h b List.mem_cons_self))

/-! ## Strings -/

/-- What is passed over as the inside of a string is made of pieces. -/
theorem exists_pieces_of_skipString (h : skipString cs = some rest) :
    ∃ ps : List Piece, cs = ps.flatMap Piece.text ++ '"' :: rest := by
  -- The induction follows the reader, each of whose steps passes over one piece.
  fun_induction skipString cs with
  | case1 | case4 | case6 | case7 => cases h
  | case2 later =>
    obtain rfl := Option.some.inj h
    exact ⟨[], rfl⟩
  | case3 a b c d later hunit ih =>
    obtain ⟨n, hn⟩ := Option.isSome_iff_exists.mp hunit
    obtain ⟨ps, rfl⟩ := ih h
    exact ⟨.unit a b c d n hn :: ps, rfl⟩
  | case5 letter later _ hshort ih =>
    obtain ⟨c, hc⟩ := Option.isSome_iff_exists.mp hshort
    obtain ⟨ps, rfl⟩ := ih h
    exact ⟨.short letter c hc :: ps, rfl⟩
  | case8 c later hquote _ _ hok ih =>
    obtain ⟨hslash, hlow⟩ := not_or.mp hok
    obtain ⟨ps, rfl⟩ := ih h
    exact ⟨.plain c ⟨hquote, hslash, Nat.le_of_not_lt hlow⟩ :: ps, rfl⟩

/-- Pieces are passed over, up to the closing quote. -/
theorem skipString_pieces (ps : List Piece) (rest : List Char) :
    skipString (ps.flatMap Piece.text ++ '"' :: rest) = some rest := by
  induction ps with
  | nil => rfl
  | cons p ps ih =>
    rw [List.flatMap_cons, List.append_assoc]
    cases p with
    | plain c ok =>
      obtain ⟨hquote, hslash, hlow⟩ := ok
      rw [Piece.text_plain, List.singleton_append, skipString]
      · rw [if_neg (by simp [hslash, Nat.not_lt.mpr hlow]), ih]
      all_goals simp_all
    | short letter c value =>
      have hu : letter ≠ 'u' := by
        rintro rfl
        cases value
      rw [Piece.text_short, List.cons_append, List.singleton_append, skipString]
      · rw [if_pos (by rw [value]; rfl), ih]
      all_goals simp_all
    | unit a b c d n value =>
      simp only [Piece.text_unit, List.cons_append, List.nil_append, skipString]
      rw [if_pos (by rw [value]; rfl), ih]

/-! ## Readers of a form -/

/-- All that is passed over has a form. -/
def Passes (pass : List Char → Option (List Char)) (V : List Char → Prop) : Prop :=
  ∀ {cs rest}, pass cs = some rest → ∃ t, cs = t ++ rest ∧ V t

/-- What has a form, up to a length, is passed over. -/
def PassesAll (pass : List Char → Option (List Char)) (V : List Char → Prop) (n : Nat) : Prop :=
  ∀ {t rest}, V t → t.length ≤ n → EndsNumber rest → pass (t ++ rest) = some rest

/-- All that is read has a form. -/
def Reads (read : List Char → Option (α × List Char)) (P : α → List Char → Prop) : Prop :=
  ∀ {cs a rest}, read cs = some (a, rest) → ∃ t, cs = t ++ rest ∧ P a t

/-- What has a form, up to a length, is read. -/
def ReadsAll (read : List Char → Option (α × List Char)) (P : α → List Char → Prop) (n : Nat) :
    Prop :=
  ∀ {a t rest}, P a t → t.length ≤ n → EndsNumber rest → read (t ++ rest) = some (a, rest)

/-- What has a form begins with what is no blank and closes no bracket. -/
def Begins (P : α → List Char → Prop) : Prop :=
  ∀ {a t}, P a t → ∃ c t', t = c :: t' ∧ isSpace c = false ∧ c ≠ ']' ∧ c ≠ '\x7d'

theorem asWritten_append {pass : List Char → Option (List Char)} {t : List Char}
    (h : pass (t ++ rest) = some rest) : asWritten pass (t ++ rest) = some (t, rest) := by
  unfold asWritten
  rw [h, Option.map_some, List.length_append, Nat.add_sub_cancel, List.take_left]

theorem exists_of_asWritten {pass : List Char → Option (List Char)} {V : List Char → Prop}
    (hpass : Passes pass V) {t : List Char} (h : asWritten pass cs = some (t, rest)) :
    cs = t ++ rest ∧ V t := by
  obtain ⟨r, hr, hpair⟩ := Option.map_eq_some_iff.mp h
  obtain ⟨htaken, rfl⟩ := Prod.mk.inj hpair
  obtain ⟨t', rfl, ht'⟩ := hpass hr
  rw [List.length_append, Nat.add_sub_cancel, List.take_left] at htaken
  subst htaken
  exact ⟨rfl, ht'⟩

theorem passes_skipQuoted : Passes skipQuoted IsString := by
  intro cs rest h
  unfold skipQuoted at h
  split at h
  · obtain ⟨ps, rfl⟩ := exists_pieces_of_skipString h
    exact ⟨'"' :: (ps.flatMap Piece.text ++ ['"']), by simp, ps, rfl⟩
  · cases h

theorem skipQuoted_append {t : List Char} (h : IsString t) (rest : List Char) :
    skipQuoted (t ++ rest) = some rest := by
  obtain ⟨ps, rfl⟩ := h
  rw [List.cons_append, List.append_assoc]
  exact skipString_pieces ps rest

variable {pass : List Char → Option (List Char)} {V : List Char → Prop} {n : Nat}

/-! ## Items and members -/

theorem reads_item (hpass : Passes pass V) (hV : ¬ V []) : Reads (asWritten pass) (IsItem V) := by
  intro cs v rest h
  obtain ⟨rfl, hv⟩ := exists_of_asWritten hpass h
  cases v with
  | nil => exact absurd hv hV
  | cons c v => exact ⟨_, rfl, .value hv⟩

theorem readsAll_item (hpass : PassesAll pass V n) : ReadsAll (asWritten pass) (IsItem V) n := by
  intro v t rest h hlength hends
  cases h with
  | value is_value => exact asWritten_append (hpass is_value hlength hends)

variable {name? : List Char → Option β} {N : List Char → β → Prop}

theorem reads_member (hname : ∀ {quoted name}, name? quoted = some name ↔ N quoted name)
    (hpass : Passes pass V) : Reads (readMemberAs name? pass) (IsMember N V) := by
  intro cs m rest h
  obtain ⟨⟨quoted, r⟩, hquoted, h⟩ := Option.bind_eq_some_iff.mp h
  obtain ⟨name, hnamed, h⟩ := Option.bind_eq_some_iff.mp h
  obtain ⟨hcs, hstring⟩ := exists_of_asWritten passes_skipQuoted hquoted
  split at h
  · rename_i behind hcolon
    obtain ⟨⟨v, r'⟩, hv, h⟩ := Option.bind_eq_some_iff.mp h
    obtain ⟨rfl, rfl⟩ := Prod.mk.inj (Option.some.inj h)
    obtain ⟨before, hbefore, hr⟩ := exists_blank_skip r
    obtain ⟨after, hafter, hbehind⟩ := exists_blank_skip behind
    obtain ⟨hskip, hvalue⟩ := exists_of_asWritten hpass hv
    refine ⟨_, ?_, .named hstring (hname.mp hnamed) hbefore hafter hvalue⟩
    rw [hcs, hr, hcolon, hbehind, hskip]
    simp
  · cases h

theorem readsAll_member (hname : ∀ {quoted name}, name? quoted = some name ↔ N quoted name)
    (hpass : PassesAll pass V n) (hbegins : ∀ v, V v → ∃ c v', v = c :: v' ∧ isSpace c = false) :
    ReadsAll (readMemberAs name? pass) (IsMember N V) n := by
  intro m t rest h hlength hends
  cases h with
  | @named quoted before after v name is_string is_name blank_before blank_after is_value =>
    have hquoted : asWritten skipQuoted (quoted ++ (before ++ ':' :: (after ++ (v ++ rest)))) =
        some (quoted, before ++ ':' :: (after ++ (v ++ rest))) :=
      asWritten_append (skipQuoted_append is_string _)
    have hcolon : skip (before ++ ':' :: (after ++ (v ++ rest))) = ':' :: (after ++ (v ++ rest)) :=
      skip_append blank_before rfl _
    have hvalue : asWritten pass (skip (after ++ (v ++ rest))) = some (v, rest) := by
      obtain ⟨c, v', rfl, hc⟩ := hbegins v is_value
      rw [List.cons_append, skip_append blank_after hc, ← List.cons_append]
      refine asWritten_append (hpass is_value (Nat.le_trans ?_ hlength) hends)
      simp
      omega
    simp only [List.append_assoc, List.cons_append]
    simp only [readMemberAs, hquoted, hname.mpr is_name, hcolon, hvalue, Option.bind_eq_bind,
      Option.bind_some, Option.pure_def]

theorem begins_member : Begins (IsMember N V) := by
  intro m t h
  cases h with
  | named is_string =>
    obtain ⟨ps, rfl⟩ := is_string
    exact ⟨'"', _, rfl, by decide⟩

/-! ## Parts between brackets -/

variable {P : α → List Char → Prop} {read : List Char → Option (α × List Char)} {a : α}
  {as : List α} {close : Char} {count : Nat} {before t : List Char}

/-- The blanks before a part are skipped, and what it begins with closes no bracket. -/
theorem Begins.skip_append (hbegins : Begins P) (hbefore : Blank before) (ht : P a t)
    (later : List Char) :
    ∃ c r, skip (before ++ (t ++ later)) = c :: r ∧ c ≠ ']' ∧ c ≠ '\x7d' := by
  obtain ⟨c, t', rfl, hc, harray, hobject⟩ := hbegins ht
  exact ⟨c, t' ++ later, Json.skip_append hbefore hc _, harray, hobject⟩

/-- A part is read behind blanks. -/
theorem ReadsAll.skip_append (hread : ReadsAll read P n) (hbegins : Begins P)
    (hbefore : Blank before) (ht : P a t) (hlength : t.length ≤ n) {later : List Char}
    (hlater : EndsNumber later) : read (skip (before ++ (t ++ later))) = some (a, later) := by
  obtain ⟨c, t', rfl, hc, -⟩ := hbegins ht
  rw [List.cons_append, Json.skip_append hbefore hc, ← List.cons_append]
  exact hread ht hlength hlater

theorem exists_parts_of_read (hread : Reads read P)
    (h : readParts close read count cs = some (as, rest)) :
    ∃ t, cs = t ++ close :: rest ∧ Parts P as t := by
  -- The induction is on the count, which goes down by one with each part.
  induction count generalizing cs as with
  | zero => cases h
  | succ count ih =>
    obtain ⟨before, hbefore, hcs⟩ := exists_blank_skip cs
    rw [readParts] at h
    split at h
    · cases h
    · rename_i a r hpart
      obtain ⟨t, hskip, ht⟩ := hread hpart
      obtain ⟨after, hafter, hr⟩ := exists_blank_skip r
      split at h
      · cases h
      · rename_i c r' hclose
        split at h
        · rename_i hc
          obtain ⟨rfl, rfl⟩ := Prod.mk.inj (Option.some.inj h)
          refine ⟨before ++ (t ++ after), ?_, .last hbefore ht hafter⟩
          rw [hcs, hskip, hr, hclose, hc]
          simp
        · split at h
          · rename_i hc
            obtain ⟨⟨later, _⟩, hlater, hpair⟩ := Option.map_eq_some_iff.mp h
            obtain ⟨rfl, rfl⟩ := Prod.mk.inj hpair
            obtain ⟨t', rfl, ht'⟩ := ih hlater
            refine ⟨before ++ (t ++ (after ++ ',' :: t')), ?_, .more hbefore ht hafter ht'⟩
            rw [hcs, hskip, hr, hclose, hc]
            simp
          · cases h

/-- There are no more parts than characters. -/
theorem Parts.length_le (hbegins : Begins P) (h : Parts P as t) :
    as.length ≤ t.length := by
  induction h with
  | last _ part _ =>
    obtain ⟨c, t', rfl, -⟩ := hbegins part
    simp
    omega
  | more _ part _ _ ih =>
    simp
    omega

/-- Parts are read one after the other, up to the closing bracket. -/
theorem readParts_append (hread : ReadsAll read P n) (hbegins : Begins P)
    (hclose : close = ']' ∨ close = '\x7d') (h : Parts P as t) (hlength : t.length ≤ n)
    (hcount : as.length ≤ count) (rest : List Char) :
    readParts close read count (t ++ close :: rest) = some (as, rest) := by
  have hmark : close = ',' ∨ close = ':' ∨ close = ']' ∨ close = '\x7d' := Or.inr (Or.inr hclose)
  have hcomma : ',' ≠ close := by
    rcases hclose with rfl | rfl <;> decide
  -- The induction is on the parts, and the count goes down with them.
  induction h generalizing count with
  | last blank_before part blank_after =>
    have hfirst := hread.skip_append hbegins blank_before part (by simp at hlength; omega)
      (endsNumber_blank blank_after hmark rest)
    have hskip := skip_mark blank_after hmark rest
    cases count with
    | zero => cases hcount
    | succ count => simp only [List.append_assoc, readParts, hfirst, hskip, if_true]
  | @more a as before t after later blank_before part blank_after _ ih =>
    have hfirst := hread.skip_append hbegins blank_before part (by simp at hlength; omega)
      (endsNumber_blank blank_after (Or.inl rfl) (later ++ close :: rest))
    have hskip := skip_mark blank_after (Or.inl rfl) (later ++ close :: rest)
    cases count with
    | zero => cases hcount
    | succ count =>
      have hlater := ih (by simp at hlength; omega) (Nat.le_of_succ_le_succ hcount)
      simp only [List.append_assoc, List.cons_append, readParts, hfirst, hskip, if_neg hcomma,
        if_true, hlater, Option.map_some]

theorem exists_bracketed_of_read (hread : Reads read P)
    (h : readBracketed close read cs = some (as, rest)) :
    ∃ t, cs = t ++ close :: rest ∧ Bracketed P as t := by
  unfold readBracketed at h
  split at h
  · cases h
  · rename_i c r hskip
    split at h
    · rename_i hc
      obtain ⟨rfl, rfl⟩ := Prod.mk.inj (Option.some.inj h)
      obtain ⟨before, hbefore, hcs⟩ := exists_blank_skip cs
      exact ⟨before, by rw [hcs, hskip, hc], .empty hbefore⟩
    · obtain ⟨t, hcs, hparts⟩ := exists_parts_of_read hread h
      exact ⟨t, hcs, .parts hparts⟩

theorem readBracketed_append (hread : ReadsAll read P n) (hbegins : Begins P)
    (hclose : close = ']' ∨ close = '\x7d') (h : Bracketed P as t) (hlength : t.length ≤ n)
    (rest : List Char) : readBracketed close read (t ++ close :: rest) = some (as, rest) := by
  cases h with
  | empty blank => simp only [readBracketed, skip_mark blank (Or.inr (Or.inr hclose)), if_true]
  | parts parts =>
    have hcount : as.length ≤ (t ++ close :: rest).length :=
      Nat.le_trans (parts.length_le hbegins) (by simp)
    have hparts := readParts_append hread hbegins hclose parts hlength hcount rest
    -- The first part begins with what does not close the bracket.
    obtain ⟨c, r, hskip, harray, hobject⟩ :
        ∃ c r, skip (t ++ close :: rest) = c :: r ∧ c ≠ ']' ∧ c ≠ '\x7d' := by
      cases parts with
      | last blank_before part _ | more blank_before part _ _ =>
        rw [List.append_assoc, List.append_assoc]
        exact hbegins.skip_append blank_before part _
    have hc : c ≠ close := by
      rcases hclose with rfl | rfl
      · exact harray
      · exact hobject
    simp only [readBracketed, hskip, if_neg hc, hparts]

/-! ## Values -/

/-- A value begins with what is no blank and closes no bracket. -/
theorem IsValue.exists_cons {v : List Char} (h : IsValue v) :
    ∃ c v', v = c :: v' ∧ isSpace c = false ∧ c ≠ ']' ∧ c ≠ '\x7d' := by
  cases h with
  | nullWord | trueWord | falseWord => exact ⟨_, _, rfl, by decide⟩
  | number number =>
    obtain ⟨c, v', rfl, hc⟩ := number.exists_cons
    have hne : ∀ d, isDigit d = false ∧ d ≠ '-' → c ≠ d := by
      rintro d ⟨hdigit, hminus⟩ rfl
      rcases hc with hc | hc
      · rw [hdigit] at hc
        cases hc
      · exact hminus hc
    refine ⟨c, v', rfl, ?_, hne _ (by decide), hne _ (by decide)⟩
    simp [isSpace, hne ' ' (by decide), hne '\t' (by decide), hne '\n' (by decide),
      hne '\r' (by decide)]
  | string string =>
    obtain ⟨ps, rfl⟩ := string
    exact ⟨_, _, rfl, by decide⟩
  | array | object => exact ⟨_, _, rfl, by decide⟩

theorem IsValue.exists_not_space {v : List Char} (h : IsValue v) :
    ∃ c v', v = c :: v' ∧ isSpace c = false := by
  obtain ⟨c, v', hcons, hc, -⟩ := h.exists_cons
  exact ⟨c, v', hcons, hc⟩

theorem begins_item : Begins (IsItem IsValue) := by
  intro v t h
  cases h with
  | value is_value => exact is_value.exists_cons

theorem not_isValue_nil : ¬ IsValue [] := by
  intro h
  obtain ⟨c, v', hcons, -⟩ := h.exists_cons
  cases hcons

/-- Only values are passed over. -/
theorem passes_skipValue (depth : Nat) : Passes (skipValue depth) IsValue := by
  -- Inside brackets the reader has one level less, so that the induction is on the depth.
  induction depth with
  | zero =>
    intro cs rest h
    cases h
  | succ depth ih =>
    intro cs rest h
    unfold skipValue at h
    split at h
    · obtain rfl := Option.some.inj h
      exact ⟨_, rfl, .nullWord⟩
    · obtain rfl := Option.some.inj h
      exact ⟨_, rfl, .trueWord⟩
    · obtain rfl := Option.some.inj h
      exact ⟨_, rfl, .falseWord⟩
    · rename_i inner
      have hquoted : skipQuoted ('"' :: inner) = some rest := h
      obtain ⟨t, hcs, ht⟩ := passes_skipQuoted hquoted
      exact ⟨t, hcs, .string ht⟩
    · obtain ⟨⟨items, _⟩, hitems, rfl⟩ := Option.map_eq_some_iff.mp h
      obtain ⟨t, rfl, ht⟩ := exists_bracketed_of_read (reads_item ih not_isValue_nil) hitems
      exact ⟨'[' :: (t ++ [']']), by simp, .array ht⟩
    · obtain ⟨⟨members, _⟩, hmembers, rfl⟩ := Option.map_eq_some_iff.mp h
      have hread : Reads (readMemberAs (fun _ => some ()) (skipValue depth))
          (IsMember (fun _ _ => True) IsValue) := reads_member (iff_of_true rfl trivial) ih
      obtain ⟨t, rfl, ht⟩ := exists_bracketed_of_read hread hmembers
      exact ⟨'\x7b' :: (t ++ ['\x7d']), by simp, .object ht⟩
    · obtain ⟨⟨n, _⟩, hn, rfl⟩ := Option.map_eq_some_iff.mp h
      obtain ⟨t, hcs, ht⟩ := exists_isNumber_of_readNumeral hn
      exact ⟨t, hcs, .number ht⟩

/-- A number is passed over by its syntax. -/
theorem skipValue_number {t : List Char} (h : IsNumber t) (hends : EndsNumber rest)
    (depth : Nat) : skipValue (depth + 1) (t ++ rest) = some rest := by
  obtain ⟨n, hn⟩ := readNumeral_append h hends
  obtain ⟨c, t', rfl, hc⟩ := h.exists_cons
  have hrest : (readNumeral (c :: t' ++ rest)).map (·.2) = some rest := by rw [hn]; rfl
  rw [← hrest, List.cons_append, skipValue]
  -- None of the other cases begins like a number.
  all_goals
    intro cs hcs
    obtain ⟨rfl, -⟩ := List.cons.inj hcs
    revert hc
    decide

/-- All values that are nested no deeper than `depth` are passed over, and no value is nested deeper
than it is long. -/
theorem passesAll_skipValue (depth : Nat) : PassesAll (skipValue depth) IsValue depth := by
  induction depth with
  | zero =>
    intro t rest h hlength
    obtain rfl := List.eq_nil_of_length_eq_zero (Nat.le_zero.mp hlength)
    exact absurd h not_isValue_nil
  | succ depth ih =>
    intro t rest h hlength hends
    cases h with
    | nullWord | trueWord | falseWord => rfl
    | number number => exact skipValue_number number hends depth
    | string string =>
      obtain ⟨ps, rfl⟩ := string
      exact skipQuoted_append ⟨ps, rfl⟩ rest
    -- Between its brackets a value is shorter by two, and may be nested one level less.
    | @array items t bracketed =>
      have hread := readBracketed_append (readsAll_item ih) begins_item (Or.inl rfl) bracketed
        (by simp at hlength; omega) rest
      rw [List.cons_append, List.append_assoc]
      exact congrArg (Option.map (·.2)) hread
    | @object members t bracketed =>
      have hread : ReadsAll (readMemberAs (fun _ => some ()) (skipValue depth))
          (IsMember (fun _ _ => True) IsValue) depth :=
        readsAll_member (iff_of_true rfl trivial) ih fun v hv => hv.exists_not_space
      have hmembers := readBracketed_append hread begins_member (Or.inr rfl) bracketed
        (by simp at hlength; omega) rest
      rw [List.cons_append, List.append_assoc]
      exact congrArg (Option.map (·.2)) hmembers

/-! ## Outlines -/

/-- Bytes are read as the text that they encode. -/
theorem text?_eq_some_iff {text : String} : text? cs = some text ↔ text.toUTF8 = toBytes cs := by
  unfold text? String.fromUTF8?
  constructor
  · intro h
    split at h
    · obtain rfl := Option.some.inj h
      rfl
    · cases h
  · intro h
    have hvalid : (toBytes cs).IsValidUTF8 := h ▸ text.isValidUTF8
    rw [dif_pos hvalid]
    exact congrArg some (String.toByteArray_inj.mp h.symm)

/-- A string is read as the name that it is. -/
theorem name?_eq_some_iff {name : String} : Outline.name? cs = some name ↔ IsName cs name := by
  unfold Outline.name? IsName
  simp only [Option.bind_eq_bind, Option.bind_eq_some_iff, text?_eq_some_iff]
  constructor
  · rintro ⟨text, hbytes, h⟩
    split at h
    · rename_i inner hinner
      split at h
      · rename_i body hbody
        obtain rfl := Option.some.inj h
        obtain ⟨ps, rfl, hunits⟩ := Literal.readBody_eq_some_iff.mp hbody
        exact ⟨text, ps, hbytes, hinner, by rw [String.toList_ofList, hunits]⟩
      · cases h
    · cases h
  · rintro ⟨text, ps, hbytes, htext, hunits⟩
    have hbody : Literal.readBody (ps.flatMap Piece.text ++ ['"']) = some (name.toList, []) :=
      Literal.readBody_eq_some_iff.mpr ⟨ps, rfl, hunits⟩
    refine ⟨text, hbytes, ?_⟩
    rw [htext]
    simp only [hbody, String.ofList_toList]

/-- A text reads as an outline if it begins with what the bracket opens and ends in blanks. -/
theorem exists_outlines_of_readFront {depth : Nat} {before : List Char} {o : Outline}
    (hbefore : Blank before) (hrest : Blank rest)
    (h : Outline.readFront depth cs = some (o, rest)) : Outlines (before ++ cs) o := by
  unfold Outline.readFront at h
  split at h
  · obtain ⟨⟨items, _⟩, hitems, hpair⟩ := Option.map_eq_some_iff.mp h
    obtain ⟨rfl, rfl⟩ := Prod.mk.inj hpair
    obtain ⟨t, rfl, ht⟩ := exists_bracketed_of_read
      (reads_item (passes_skipValue depth) not_isValue_nil) hitems
    exact .array hbefore ht hrest
  · obtain ⟨⟨members, _⟩, hmembers, hpair⟩ := Option.map_eq_some_iff.mp h
    obtain ⟨rfl, rfl⟩ := Prod.mk.inj hpair
    obtain ⟨t, rfl, ht⟩ := exists_bracketed_of_read
      (reads_member name?_eq_some_iff (passes_skipValue depth)) hmembers
    exact .object hbefore ht hrest
  · cases h

/-- The bracket of an outline is read behind the blanks at the front. -/
theorem readFront_of_outlines {o : Outline} (h : Outlines cs o) :
    ∃ rest, Blank rest ∧ Outline.readFront cs.length (skip cs) = some (o, rest) := by
  cases h with
  | @array before t after items blank_before bracketed blank_after =>
    have hread := readBracketed_append
      (readsAll_item (passesAll_skipValue (before ++ '[' :: (t ++ ']' :: after)).length))
      begins_item (Or.inl rfl) bracketed (by simp; omega) after
    refine ⟨after, blank_after, ?_⟩
    rw [skip_append blank_before rfl, Outline.readFront, hread, Option.map_some]
  | @object before t after members blank_before bracketed blank_after =>
    have hread := readBracketed_append
      (readsAll_member name?_eq_some_iff
        (passesAll_skipValue (before ++ '\x7b' :: (t ++ '\x7d' :: after)).length)
        fun v hv => hv.exists_not_space)
      begins_member (Or.inr rfl) bracketed (by simp; omega) after
    refine ⟨after, blank_after, ?_⟩
    rw [skip_append blank_before rfl, Outline.readFront, hread, Option.map_some]

/-- A text is read as the outline that the grammar gives it. -/
theorem Outline.read_eq_some_iff {o : Outline} : Outline.read cs = some o ↔ Outlines cs o := by
  constructor
  · intro h
    obtain ⟨before, hbefore, hcs⟩ := exists_blank_skip cs
    obtain ⟨⟨outline, rest⟩, hread, h⟩ := Option.bind_eq_some_iff.mp h
    dsimp only at h
    split at h
    · rename_i hrest
      obtain rfl := Option.some.inj h
      rw [hcs]
      exact exists_outlines_of_readFront hbefore (List.all_eq_true.mp hrest) hread
    · cases h
  · intro h
    obtain ⟨rest, hrest, hread⟩ := readFront_of_outlines h
    rw [Outline.read, hread]
    exact if_pos (List.all_eq_true.mpr hrest)

end Shortlist.Json
