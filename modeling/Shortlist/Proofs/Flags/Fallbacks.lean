import Shortlist.Flags.Remote
import Shortlist.Proofs.Flags.Asking
import Shortlist.Proofs.Flags.Payload
import Shortlist.Proofs.Telemetry.Counters

/-!
# Defaults that stand in

A remote evaluation either answers with the value of a response to trust or fails, and `Fails` says
how, by what its exchange has ended in (`evaluate_eq_ok_iff`, `evaluate_eq_error_iff`). A question
passes on a value that an evaluation answers, whatever the default; it answers the default exactly
if the evaluation fails, and then tells so once (`ask_of_ok`, `ask_of_error`).

Whatever a remote gate is asked, the defaults that it has counted of a flag are the evaluations of
that flag that have failed (`value_flagFallbacks_askAll`).
-/

namespace Shortlist.RemoteGate

variable {ν : Type} {g : RemoteGate ν} {flag : String} {enabled : Bool} {fault : Fault}

/-! ## One evaluation -/

/-- Why the evaluation of a flag fails, by what its exchange has ended in. -/
inductive Fails (g : RemoteGate ν) (flag : String) :
    Except Obstacle (Nat × Option ByteArray) → Fault → Prop
  /-- There is no response. -/
  | obstacle (obstacle : Obstacle) : Fails g flag (.error obstacle)
    (.flagService ("request to " ++ g.address flag ++ " failed: " ++ obstacle.message))
  /-- Something is wrong with the response. -/
  | problem {status : Nat} {body? : Option ByteArray} {problem : Evaluation.Problem}
    (wrong : Evaluation.Fails flag status body? problem) :
    Fails g flag (.ok (status, body?)) (.flagService problem.message)

/-- All failures are faults of the flag service. -/
theorem Fails.flagService {ended : Except Obstacle (Nat × Option ByteArray)}
    (h : Fails g flag ended fault) : ∃ text, fault = .flagService text := by
  cases h with
  | obstacle | problem => exact ⟨_, rfl⟩

variable [Http.Peer ν]

/-- A failed evaluation tells nothing. -/
theorem evaluate_of_fails (h : Fails g flag (g.exchange flag).1 fault) :
    g.evaluate flag = (.error fault, (g.exchange flag).2, []) := by
  rcases hexchange : g.exchange flag with ⟨ended, after⟩
  rw [hexchange] at h
  cases h with
  | obstacle obstacle => simp only [evaluate, hexchange]
  | problem wrong => simp only [evaluate, hexchange, Evaluation.verdict_eq_error_iff.mpr wrong]

/-- A response to trust is answered with, and told. -/
theorem evaluate_of_trusts {status : Nat} {body? : Option ByteArray}
    {variant? : Option String} (h : (g.exchange flag).1 = .ok (status, body?))
    (htrusts : Evaluation.Trusts status body? enabled variant?) :
    g.evaluate flag =
      (.ok enabled, (g.exchange flag).2, [.flagEvaluated flag enabled variant?]) := by
  rcases hexchange : g.exchange flag with ⟨ended, after⟩
  rw [hexchange] at h
  subst h
  simp only [evaluate, hexchange, Evaluation.verdict_eq_ok_iff.mpr htrusts]

/-- An exchange ends in a response to trust, or the evaluation fails. -/
theorem trusts_or_fails (g : RemoteGate ν) (flag : String) :
    (∃ status body? enabled variant?, (g.exchange flag).1 = .ok (status, body?) ∧
      Evaluation.Trusts status body? enabled variant?) ∨
    ∃ fault, Fails g flag (g.exchange flag).1 fault := by
  rcases (g.exchange flag).1 with obstacle | ⟨status, body?⟩
  · exact Or.inr ⟨_, .obstacle obstacle⟩
  · rcases Evaluation.trusts_or_fails flag status body? with ⟨b, v?, htrusts⟩ | ⟨problem, hfails⟩
    · exact Or.inl ⟨status, body?, b, v?, rfl, htrusts⟩
    · exact Or.inr ⟨_, .problem hfails⟩

/-- An evaluation answers with a value exactly if its exchange has ended in a response to trust
for it. -/
theorem evaluate_eq_ok_iff : (g.evaluate flag).1 = .ok enabled ↔
    ∃ status body? variant?, (g.exchange flag).1 = .ok (status, body?) ∧
      Evaluation.Trusts status body? enabled variant? := by
  constructor
  · intro h
    rcases g.trusts_or_fails flag with ⟨status, body?, b, v?, hended, htrusts⟩ | ⟨fault, hfails⟩
    · rw [evaluate_of_trusts hended htrusts] at h
      obtain rfl := Except.ok.inj h
      exact ⟨status, body?, v?, hended, htrusts⟩
    · rw [evaluate_of_fails hfails] at h
      cases h
  · rintro ⟨status, body?, variant?, hended, htrusts⟩
    rw [evaluate_of_trusts hended htrusts]

/-- And fails exactly in the ways that `Fails` gives. -/
theorem evaluate_eq_error_iff : (g.evaluate flag).1 = .error fault ↔
    Fails g flag (g.exchange flag).1 fault := by
  constructor
  · intro h
    rcases g.trusts_or_fails flag with ⟨status, body?, b, v?, hended, htrusts⟩ | ⟨other, hfails⟩
    · rw [evaluate_of_trusts hended htrusts] at h
      cases h
    · rw [evaluate_of_fails hfails] at h
      obtain rfl := Except.error.inj h
      exact hfails
  · intro h
    rw [evaluate_of_fails h]

/-! ## One question -/

/-- As a gate it answers with a default for every failure. -/
theorem flagGate_ask (g : RemoteGate ν) (flag : String) (default : Bool) :
    FlagGate.ask g flag default = g.ask flag default := rfl

/-- A value that an evaluation answers is passed on, whatever the default. -/
theorem ask_of_ok (h : (g.evaluate flag).1 = .ok enabled) (default : Bool) :
    ∃ variant?, g.ask flag default =
      (enabled, (g.evaluate flag).2.1, [.flagEvaluated flag enabled variant?]) := by
  obtain ⟨status, body?, variant?, hended, htrusts⟩ := evaluate_eq_ok_iff.mp h
  exact ⟨variant?, by rw [ask, evaluate_of_trusts hended htrusts]⟩

/-- The default stands in for a value that an evaluation does not answer. -/
theorem ask_of_error (h : (g.evaluate flag).1 = .error fault) (default : Bool) :
    g.ask flag default =
      (default, (g.evaluate flag).2.1, [.flagDefaulted flag default fault]) := by
  rw [ask, evaluate_of_fails (evaluate_eq_error_iff.mp h)]
  rfl

/-- The gate that a question leaves is the one that the evaluation leaves. -/
theorem ask_gate (g : RemoteGate ν) (flag : String) (default : Bool) :
    (g.ask flag default).2.1 = (g.evaluate flag).2.1 := by
  cases h : (g.evaluate flag).1 with
  | ok enabled =>
    obtain ⟨variant?, hask⟩ := ask_of_ok h default
    rw [hask]
  | error fault => rw [ask_of_error h]

/-- A question counts one default of its flag if the evaluation fails, and none of another flag. -/
theorem sum_counted_ask (g : RemoteGate ν) (flag other : String) (default : Bool) :
    ((g.ask flag default).2.2.map (·.counted (.flagFallbacks other))).sum =
      if flag = other ∧ (g.evaluate flag).1.isOk = false then 1 else 0 := by
  cases h : (g.evaluate flag).1 with
  | ok enabled =>
    obtain ⟨variant?, hask⟩ := ask_of_ok h default
    rw [hask, if_neg fun hfailed => Bool.noConfusion hfailed.2]
    rfl
  | error fault =>
    rw [ask_of_error h, List.map_singleton, List.sum_singleton, Signal.counted_flagDefaulted]
    refine if_congr ?_ rfl rfl
    rw [Series.flagFallbacks.injEq, eq_comm]
    exact (and_iff_left rfl).symm

/-! ## Any number of questions -/

/-- The evaluations of flags one after the other, each with its flag. -/
def evaluations (g : RemoteGate ν) : List String → List (String × Except Fault Bool)
  | [] => []
  | flag :: later => (flag, (g.evaluate flag).1) :: evaluations (g.evaluate flag).2.1 later

/-- How many of the evaluations of flags one after the other are of a flag and fail. -/
def failures (g : RemoteGate ν) (flags : List String) (flag : String) : Nat :=
  (g.evaluations flags).countP fun e => e.1 = flag ∧ e.2.isOk = false

/-- The first evaluation counts if it is of the flag and fails, and the others are made of the gate
that it leaves. -/
theorem failures_cons (g : RemoteGate ν) (first : String) (later : List String) (flag : String) :
    g.failures (first :: later) flag =
      (if first = flag ∧ (g.evaluate first).1.isOk = false then 1 else 0) +
        (g.evaluate first).2.1.failures later flag := by
  rw [failures, failures, evaluations, List.countP_cons, Nat.add_comm]
  simp only [decide_eq_true_eq]

/-- The defaults that have been counted of a flag are its failed evaluations. -/
theorem value_flagFallbacks_askAll (g : RemoteGate ν) (questions : List (String × Bool))
    (flag : String) :
    (Metrics.ofSignals (FlagGate.askAll g questions).2).value (.flagFallbacks flag) =
      g.failures (questions.map Prod.fst) flag := by
  rw [Metrics.value_ofSignals (by simp)]
  -- The induction is on the questions, each of which leaves the gate that its evaluation leaves.
  induction questions generalizing g with
  | nil => rfl
  | cons question later ih =>
    obtain ⟨first, default⟩ := question
    have hsplit : (FlagGate.askAll g ((first, default) :: later)).2 =
        (g.ask first default).2.2 ++ (FlagGate.askAll (g.evaluate first).2.1 later).2 := by
      rw [← g.ask_gate first default, FlagGate.askAll_cons, flagGate_ask]
    rw [hsplit, List.map_append, List.sum_append, sum_counted_ask, ih, List.map_cons,
      failures_cons]

end Shortlist.RemoteGate
