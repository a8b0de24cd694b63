import Mathlib.Data.List.Forall2
import Shortlist.Flags.Evaluation
import Shortlist.Proofs.Json.Outline

/-!
# What a payload says

`Payload` tells which outlines are payloads of an evaluation, and of which: an object in which none
of the four members stands twice, or an array of no more than four parts; in both a missing part is
as good as null, and all parts but the value are null or texts. The members of other names may be
anything that the grammar has, as nothing else is read of them. The reader accepts exactly these
payloads (`ofOutline_eq_some_iff`), and of the bodies those with their outlines
(`decode_eq_some_iff`).

`Trusts` and `Fails` tell what a response comes to. There is one way to trust it and there are four
ways for it to fail, each of which says that none of those before it applies; the verdict is the one
that does (`verdict_eq_ok_iff`, `verdict_eq_error_iff`).
-/

namespace Shortlist.Evaluation

/-! ## Payloads -/

/-- An optional text is null or a text. -/
inductive TextPart : Json → Option String → Prop
  | null : TextPart .null none
  | text (s : String) : TextPart (.text s) (some s)

/-- An optional value is null or any other value. -/
inductive ValuePart : Json → Option Json → Prop
  | null : ValuePart .null none
  | value {v : Json} (other : v ≠ .null) : ValuePart v (some v)

/-- The value of a part as it is written: it is encoded as a text, and stands inside the payload. -/
def Writes (written : List Char) (v : Json) : Prop :=
  ∃ text : String, text.toUTF8 = Json.toBytes written ∧ Json.readInside 1 text.toList = some v

/-- The member of an object with a name: null if there is none, and never one of two. -/
inductive Member (ms : List (String × List Char)) (name : String) : Json → Prop
  | absent (none : ∀ m ∈ ms, m.1 ≠ name) : Member ms name .null
  | once {before after : List (String × List Char)} {written : List Char} {v : Json}
    (split : ms = before ++ (name, written) :: after) (none_before : ∀ m ∈ before, m.1 ≠ name)
    (none_after : ∀ m ∈ after, m.1 ≠ name) (writes : Writes written v) : Member ms name v

/-- The four parts of a payload. -/
structure Parts (value variant code details : Json) (e : Evaluation) : Prop where
  value : ValuePart value e.value?
  variant : TextPart variant e.variant?
  code : TextPart code e.errorCode?
  details : TextPart details e.errorDetails?

/-- The payload that an outline is of. -/
inductive Payload : Json.Outline → Evaluation → Prop
  /-- The parts are members, and members with other names do not count. -/
  | object {ms : List (String × List Char)} {value variant code details : Json} {e : Evaluation}
    (has_value : Member ms "value" value) (has_variant : Member ms "variant" variant)
    (has_code : Member ms "errorCode" code) (has_details : Member ms "errorDetails" details)
    (parts : Parts value variant code details e) : Payload (.object ms) e
  /-- The parts are items, and those at the end may be left out. -/
  | array {items : List (List Char)} {vs : List Json} {e : Evaluation} (short : items.length ≤ 4)
    (write : List.Forall₂ Writes items vs)
    (parts : Parts (vs[0]?.getD .null) (vs[1]?.getD .null) (vs[2]?.getD .null)
      (vs[3]?.getD .null) e) : Payload (.array items) e

/-- A body that all of has come and that is a payload. -/
def Decodes (body? : Option ByteArray) (e : Evaluation) : Prop :=
  ∃ body outline, body? = some body ∧ Json.Outlines (Json.ofBytes body) outline ∧ Payload outline e

theorem textOf_eq_some_iff {j : Json} {t? : Option String} :
    textOf j = some t? ↔ TextPart j t? := by
  constructor
  · intro h
    cases j with
    | null =>
      obtain rfl := Option.some.inj h
      exact .null
    | text s =>
      obtain rfl := Option.some.inj h
      exact .text s
    | _ => cases h
  · rintro (_ | _) <;> rfl

theorem valueOf_eq_iff {j : Json} {v? : Option Json} : valueOf j = v? ↔ ValuePart j v? := by
  constructor
  · rintro rfl
    cases j with
    | null => exact .null
    | _ => exact .value Json.noConfusion
  · rintro (_ | hother)
    · rfl
    · cases j with
      | null => exact absurd rfl hother
      | _ => rfl

/-- Four parts are read as the payload that has them. -/
theorem ofParts_eq_some_iff {value variant code details : Json} {e : Evaluation} :
    ofParts value variant code details = some e ↔ Parts value variant code details e := by
  have hread : ofParts value variant code details = some e ↔
      textOf variant = some e.variant? ∧ textOf code = some e.errorCode? ∧
        textOf details = some e.errorDetails? ∧ valueOf value = e.value? := by
    -- The parts are read in another order than the payload has them.
    obtain ⟨value?, variant?, errorCode?, errorDetails?⟩ := e
    simp only [ofParts, Option.bind_eq_bind, Option.bind_eq_some_iff, Option.pure_def,
      Option.some.injEq, Evaluation.mk.injEq]
    grind
  rw [hread, textOf_eq_some_iff, textOf_eq_some_iff, textOf_eq_some_iff, valueOf_eq_iff]
  exact ⟨fun ⟨variant, code, details, value⟩ => ⟨value, variant, code, details⟩,
    fun h => ⟨h.variant, h.code, h.details, h.value⟩⟩

/-- A part is read as the value that it writes. -/
theorem part?_eq_some_iff {written : List Char} {v : Json} :
    part? written = some v ↔ Writes written v := by
  simp only [part?, Writes, Option.bind_eq_bind, Option.bind_eq_some_iff, Json.text?_eq_some_iff]

/-- And so are all items. -/
theorem mapM_part?_eq_some_iff {items : List (List Char)} {vs : List Json} :
    items.mapM part? = some vs ↔ List.Forall₂ Writes items vs := by
  induction items generalizing vs with
  | nil => simp [eq_comm]
  | cons item items ih =>
    rw [List.mapM_cons, List.forall₂_cons_left_iff]
    simp only [Option.bind_eq_bind, Option.bind_eq_some_iff, Option.pure_def, Option.some.injEq,
      part?_eq_some_iff, ih]
    constructor
    · rintro ⟨v, hv, vs, hvs, rfl⟩
      exact ⟨v, vs, hv, hvs, rfl⟩
    · rintro ⟨v, vs, hv, hvs, rfl⟩
      exact ⟨v, hv, vs, hvs, rfl⟩

/-- The reader finds a member if it is not there twice. -/
theorem memberOnce_eq_some_iff {ms : List (String × List Char)} {name : String} {v : Json} :
    memberOnce ms name = some v ↔ Member ms name v := by
  constructor
  · intro h
    unfold memberOnce at h
    split at h
    · -- No member has the name.
      rename_i hfilter
      obtain rfl := Option.some.inj h
      refine .absent fun m hm => ?_
      simpa using List.filter_eq_nil_iff.mp hfilter m hm
    · -- One has it, and the members split there.
      rename_i m hfilter
      obtain ⟨before, after, rfl, hbefore, hname, hafter⟩ := List.filter_eq_cons_iff.mp hfilter
      obtain ⟨key, written⟩ := m
      obtain rfl : key = name := by simpa using hname
      refine .once rfl (fun m hm => ?_) (fun m hm => ?_) (part?_eq_some_iff.mp h)
      · simpa using hbefore m hm
      · simpa using List.filter_eq_nil_iff.mp hafter m hm
    · -- Two or more have it.
      cases h
  · rintro (hnone | ⟨rfl, hbefore, hafter, hwrites⟩)
    · have hfilter : ms.filter (·.1 = name) = [] := by
        rw [List.filter_eq_nil_iff]
        simpa using hnone
      rw [memberOnce, hfilter]
    · rename_i before after written
      have hfront : before.filter (·.1 = name) = [] := by
        rw [List.filter_eq_nil_iff]
        simpa using hbefore
      have hback : after.filter (·.1 = name) = [] := by
        rw [List.filter_eq_nil_iff]
        simpa using hafter
      have hfilter : (before ++ (name, written) :: after).filter (·.1 = name) =
          [(name, written)] := by
        rw [List.filter_append, hfront, List.filter_cons_of_pos (by simp), hback, List.nil_append]
      rw [memberOnce, hfilter]
      exact part?_eq_some_iff.mpr hwrites

/-- An object is read by its four members. -/
theorem ofOutline_object {ms : List (String × List Char)} {e : Evaluation} :
    ofOutline (.object ms) = some e ↔
      ∃ value variant code details, memberOnce ms "value" = some value ∧
        memberOnce ms "variant" = some variant ∧ memberOnce ms "errorCode" = some code ∧
        memberOnce ms "errorDetails" = some details ∧
        ofParts value variant code details = some e := by
  simp only [ofOutline, memberNames, List.mapM_cons, List.mapM_nil, Option.bind_eq_bind,
    Option.pure_def, Option.bind_assoc, Option.bind_some, Option.bind_eq_some_iff]
  constructor
  · rintro ⟨value, hvalue, variant, hvariant, code, hcode, details, hdetails, hparts⟩
    exact ⟨value, variant, code, details, hvalue, hvariant, hcode, hdetails, hparts⟩
  · rintro ⟨value, variant, code, details, hvalue, hvariant, hcode, hdetails, hparts⟩
    exact ⟨value, hvalue, variant, hvariant, code, hcode, details, hdetails, hparts⟩

/-- An array is read by its items, with nulls for those that are left out. -/
theorem ofOutline_array {items : List (List Char)} {e : Evaluation} :
    ofOutline (.array items) = some e ↔
      ∃ vs, items.mapM part? = some vs ∧ vs.length ≤ 4 ∧
        ofParts (vs[0]?.getD .null) (vs[1]?.getD .null) (vs[2]?.getD .null)
          (vs[3]?.getD .null) = some e := by
  rw [ofOutline, Option.bind_eq_bind, Option.bind_eq_some_iff]
  refine exists_congr fun vs => and_congr_right fun _ => ?_
  -- Up to four items are told apart by their number, and so are more than four from these.
  rcases vs with _ | ⟨value, _ | ⟨variant, _ | ⟨code, _ | ⟨details, _ | ⟨more, rest⟩⟩⟩⟩⟩
  case cons.cons.cons.cons.cons =>
    have hlong : ¬ (value :: variant :: code :: details :: more :: rest).length ≤ 4 := by
      simp only [List.length_cons]
      omega
    simp only [hlong, false_and, iff_false]
    rintro ⟨⟩
  all_goals simp

/-- An outline is read as the payload that it is of. -/
theorem ofOutline_eq_some_iff {outline : Json.Outline} {e : Evaluation} :
    ofOutline outline = some e ↔ Payload outline e := by
  constructor
  · intro h
    cases outline with
    | object ms =>
      obtain ⟨value, variant, code, details, hvalue, hvariant, hcode, hdetails, hparts⟩ :=
        ofOutline_object.mp h
      exact .object (memberOnce_eq_some_iff.mp hvalue) (memberOnce_eq_some_iff.mp hvariant)
        (memberOnce_eq_some_iff.mp hcode) (memberOnce_eq_some_iff.mp hdetails)
        (ofParts_eq_some_iff.mp hparts)
    | array items =>
      obtain ⟨vs, hvs, hshort, hparts⟩ := ofOutline_array.mp h
      have hwrite := mapM_part?_eq_some_iff.mp hvs
      exact .array (hwrite.length_eq ▸ hshort) hwrite (ofParts_eq_some_iff.mp hparts)
  · intro h
    cases h with
    | object has_value has_variant has_code has_details parts =>
      exact ofOutline_object.mpr ⟨_, _, _, _, memberOnce_eq_some_iff.mpr has_value,
        memberOnce_eq_some_iff.mpr has_variant, memberOnce_eq_some_iff.mpr has_code,
        memberOnce_eq_some_iff.mpr has_details, ofParts_eq_some_iff.mpr parts⟩
    | array short write parts =>
      exact ofOutline_array.mpr ⟨_, mapM_part?_eq_some_iff.mpr write, write.length_eq ▸ short,
        ofParts_eq_some_iff.mpr parts⟩

/-- A body is read as the payload that it decodes as. -/
theorem decode_eq_some_iff {body? : Option ByteArray} {e : Evaluation} :
    decode body? = some e ↔ Decodes body? e := by
  simp only [decode, Option.bind_eq_bind, Option.bind_eq_some_iff, Json.Outline.read_eq_some_iff,
    ofOutline_eq_some_iff]
  constructor
  · rintro ⟨body, hbody, outline, houtline, hpayload⟩
    exact ⟨body, outline, hbody, houtline, hpayload⟩
  · rintro ⟨body, outline, hbody, houtline, hpayload⟩
    exact ⟨body, hbody, outline, houtline, hpayload⟩

/-! ## Verdicts -/

/-- Whether a status is one of success. -/
def Succeeds (status : Nat) : Prop := 200 ≤ status ∧ status < 300

/-- A response to trust for the value of a flag: its status is one of success, and its payload
reports no error and has a Boolean for a value. -/
inductive Trusts (status : Nat) (body? : Option ByteArray) (enabled : Bool) : Option String → Prop
  | boolean {e : Evaluation} (decodes : Decodes body? e) (no_code : e.errorCode? = none)
    (succeeds : Succeeds status) (value : e.value? = some (.bool enabled)) :
    Trusts status body? enabled e.variant?

/-- What is wrong with a response that is not to be trusted. -/
inductive Fails (flag : String) (status : Nat) (body? : Option ByteArray) : Problem → Prop
  /-- The body is no payload, whatever the status. -/
  | payload (no_payload : ∀ e, ¬ Decodes body? e) : Fails flag status body? (.payload status)
  /-- An error is reported, whatever the status and the value. -/
  | reported {e : Evaluation} {code : String} (decodes : Decodes body? e)
    (has_code : e.errorCode? = some code) :
    Fails flag status body? (.reported code (e.errorDetails?.getD ""))
  /-- The status is none of success, whatever the value. -/
  | unsuccessful {e : Evaluation} (decodes : Decodes body? e) (no_code : e.errorCode? = none)
    (no_success : ¬ Succeeds status) : Fails flag status body? (.unsuccessful status)
  /-- The value is missing, or is no Boolean. -/
  | notBoolean {e : Evaluation} (decodes : Decodes body? e) (no_code : e.errorCode? = none)
    (succeeds : Succeeds status) (no_boolean : ∀ b, e.value? ≠ some (.bool b)) :
    Fails flag status body? (.notBoolean flag e.value?)

theorem isSuccess_iff {status : Nat} : Http.isSuccess status = true ↔ Succeeds status := by
  simp [Http.isSuccess, Succeeds]

/-- A body that is no payload is the first thing to be wrong. -/
theorem verdict_of_no_payload {body? : Option ByteArray} (h : ∀ e, ¬ Decodes body? e)
    (flag : String) (status : Nat) : verdict flag status body? = .error (.payload status) := by
  have hdecode : decode body? = none := by
    rw [Option.eq_none_iff_forall_ne_some]
    exact fun e he => h e (decode_eq_some_iff.mp he)
  rw [verdict, hdecode]

/-- An error that is reported is the next. -/
theorem verdict_of_code {body? : Option ByteArray} {e : Evaluation} {code : String}
    (h : Decodes body? e) (hcode : e.errorCode? = some code) (flag : String) (status : Nat) :
    verdict flag status body? = .error (.reported code (e.errorDetails?.getD "")) := by
  simp only [verdict, decode_eq_some_iff.mpr h, hcode]

/-- The status is looked at after that. -/
theorem verdict_of_no_success {body? : Option ByteArray} {e : Evaluation} (h : Decodes body? e)
    (hcode : e.errorCode? = none) {status : Nat} (hstatus : ¬ Succeeds status) (flag : String) :
    verdict flag status body? = .error (.unsuccessful status) := by
  simp only [verdict, decode_eq_some_iff.mpr h, hcode, if_neg (mt isSuccess_iff.mp hstatus)]

/-- The value is the last thing that may be wrong. -/
theorem verdict_of_no_boolean {body? : Option ByteArray} {e : Evaluation} (h : Decodes body? e)
    (hcode : e.errorCode? = none) {status : Nat} (hstatus : Succeeds status)
    (hvalue : ∀ b, e.value? ≠ some (.bool b)) (flag : String) :
    verdict flag status body? = .error (.notBoolean flag e.value?) := by
  -- The last case of the match is the one for values with `hvalue`.
  simp only [verdict, decode_eq_some_iff.mpr h, hcode, if_pos (isSuccess_iff.mpr hstatus)]

/-- If nothing is wrong, the value is the verdict. -/
theorem verdict_of_trusts {status : Nat} {body? : Option ByteArray} {enabled : Bool}
    {variant? : Option String} (h : Trusts status body? enabled variant?) (flag : String) :
    verdict flag status body? = .ok (enabled, variant?) := by
  obtain ⟨hdecodes, hcode, hstatus, hvalue⟩ := h
  simp only [verdict, decode_eq_some_iff.mpr hdecodes, hcode,
    if_pos (isSuccess_iff.mpr hstatus), hvalue]

/-- Something is wrong with a response, or it is to be trusted. -/
theorem trusts_or_fails (flag : String) (status : Nat) (body? : Option ByteArray) :
    (∃ enabled variant?, Trusts status body? enabled variant?) ∨
      ∃ problem, Fails flag status body? problem := by
  by_cases hpayload : ∃ e, Decodes body? e
  case neg => exact Or.inr ⟨_, .payload (not_exists.mp hpayload)⟩
  obtain ⟨e, hdecodes⟩ := hpayload
  cases hcode : e.errorCode? with
  | some code => exact Or.inr ⟨_, .reported hdecodes hcode⟩
  | none =>
    by_cases hstatus : Succeeds status
    case neg => exact Or.inr ⟨_, .unsuccessful hdecodes hcode hstatus⟩
    by_cases hvalue : ∃ b, e.value? = some (.bool b)
    case neg => exact Or.inr ⟨_, .notBoolean hdecodes hcode hstatus (not_exists.mp hvalue)⟩
    obtain ⟨b, hb⟩ := hvalue
    exact Or.inl ⟨b, _, .boolean hdecodes hcode hstatus hb⟩

/-- What is wrong with a response is the verdict. -/
theorem verdict_of_fails {flag : String} {status : Nat} {body? : Option ByteArray}
    {problem : Problem} (h : Fails flag status body? problem) :
    verdict flag status body? = .error problem := by
  cases h with
  | payload no_payload => exact verdict_of_no_payload no_payload flag status
  | reported decodes has_code => exact verdict_of_code decodes has_code flag status
  | unsuccessful decodes no_code no_success =>
    exact verdict_of_no_success decodes no_code no_success flag
  | notBoolean decodes no_code succeeds no_boolean =>
    exact verdict_of_no_boolean decodes no_code succeeds no_boolean flag

/-- The value of a flag is the verdict on exactly the responses to trust. -/
theorem verdict_eq_ok_iff {flag : String} {status : Nat} {body? : Option ByteArray} {enabled : Bool}
    {variant? : Option String} :
    verdict flag status body? = .ok (enabled, variant?) ↔
      Trusts status body? enabled variant? := by
  refine ⟨fun h => ?_, fun h => verdict_of_trusts h flag⟩
  rcases trusts_or_fails flag status body? with ⟨b, v?, htrusts⟩ | ⟨problem, hfails⟩
  · obtain ⟨rfl, rfl⟩ := Prod.mk.inj (Except.ok.inj (h.symm.trans (verdict_of_trusts htrusts flag)))
    exact htrusts
  · cases h.symm.trans (verdict_of_fails hfails)

/-- A problem is the verdict on exactly the responses that have it. -/
theorem verdict_eq_error_iff {flag : String} {status : Nat} {body? : Option ByteArray}
    {problem : Problem} :
    verdict flag status body? = .error problem ↔ Fails flag status body? problem := by
  refine ⟨fun h => ?_, verdict_of_fails⟩
  rcases trusts_or_fails flag status body? with ⟨b, v?, htrusts⟩ | ⟨other, hfails⟩
  · cases h.symm.trans (verdict_of_trusts htrusts flag)
  · obtain rfl := Except.error.inj (h.symm.trans (verdict_of_fails hfails))
    exact hfails

end Shortlist.Evaluation
