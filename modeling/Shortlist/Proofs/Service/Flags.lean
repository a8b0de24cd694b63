import Shortlist.Proofs.Flags.Fallbacks
import Shortlist.Proofs.Recommender.Questions

/-!
# Flags of the service

What the flag service can do to the service is to switch the cache, and only by a response to trust.
`RemoteGate.evaluates_or_defaults` says so of every exchange, and what is counted where no response
is to be trusted, in every run.
-/

namespace Shortlist

namespace ServiceGate

variable {ν : Type} [Http.Peer ν] (g : RemoteGate ν)

/-- The gate of the settings asks as the remote gate does that it is. -/
theorem ask_remote (flag : String) (default : Bool) :
    FlagGate.ask (remote g) flag default =
      ((g.ask flag default).1, remote (g.ask flag default).2.1, (g.ask flag default).2.2) := by
  rcases hask : g.ask flag default with ⟨enabled, after, signals⟩
  simp only [FlagGate.ask, hask]

/-- And so it does with any number of questions. -/
theorem askAll_remote (questions : List (String × Bool)) :
    FlagGate.askAll (remote g) questions =
      (remote (FlagGate.askAll g questions).1, (FlagGate.askAll g questions).2) := by
  induction questions generalizing g with
  | nil => rfl
  | cons question later ih =>
    obtain ⟨flag, default⟩ := question
    rw [FlagGate.askAll_cons, FlagGate.askAll_cons, RemoteGate.flagGate_ask, ask_remote, ih]

end ServiceGate

namespace RemoteGate

/-- An evaluation answers with a value, or it fails, whatever the exchange with the flag service
ends in.

It answers with a value exactly if there is a response, the bytes of which decode as a payload with
no error code and with this Boolean for its value, whatever its other members are, and the status of
which is from 200 to 299. Else
it fails, always with a fault of the flag service, and in the one way that `Fails` gives: without a
response; with a body that is no payload; with an error code; with another status; with a value that
is missing or no Boolean.

A question then answers the value whatever the default, and leaves all metrics; or it answers the
default, and adds one to the defaults of its flag, and to nothing else. So after any questions the
defaults that are counted of a flag are its failed evaluations, and so they are after any run of
requests in flight together, which ask for the flag of the cache. -/
theorem evaluates_or_defaults {ν σ τ : Type} [Http.Peer ν] [RandomSource σ] [RandomSource τ]
    (g : RemoteGate ν) (flag : String) :
    (∀ enabled, (g.evaluate flag).1 = .ok enabled ↔
      ∃ status body? e, (g.exchange flag).1 = .ok (status, body?) ∧
        Evaluation.Decodes body? e ∧ e.errorCode? = none ∧ e.value? = some (.bool enabled) ∧
        200 ≤ status ∧ status < 300) ∧
    (∀ fault, (g.evaluate flag).1 = .error fault ↔ Fails g flag (g.exchange flag).1 fault) ∧
    (∀ fault, (g.evaluate flag).1 = .error fault → ∃ text, fault = .flagService text) ∧
    (∀ enabled, (g.evaluate flag).1 = .ok enabled → ∀ default,
      (g.ask flag default).1 = enabled ∧
        ∀ m : Metrics, (g.ask flag default).2.2.foldl Metrics.record m = m) ∧
    (∀ fault, (g.evaluate flag).1 = .error fault → ∀ default,
      (g.ask flag default).1 = default ∧
        ∀ m : Metrics, (g.ask flag default).2.2.foldl Metrics.record m =
          m.add (.flagFallbacks flag) 1) ∧
    (∀ questions other,
      (Metrics.ofSignals (FlagGate.askAll g questions).2).value (.flagFallbacks other) =
        g.failures (questions.map Prod.fst) other) ∧
    ∀ (desk : Desk σ) (selector : Selector τ) (events : List Reception.Event)
      (r : Reception (ServiceGate ν) σ τ),
      (Reception.new (.remote g) flag desk selector).run events = some r → ∀ other,
        (Metrics.ofSignals r.log).value (.flagFallbacks other) =
          g.failures (List.replicate (events.countP Reception.Event.isAsk) flag) other := by
  refine ⟨fun enabled => ?_, fun fault => evaluate_eq_error_iff, ?_, ?_, ?_,
    value_flagFallbacks_askAll g, ?_⟩
  · -- A value: `Trusts`, with the variant left out.
    rw [evaluate_eq_ok_iff]
    constructor
    · rintro ⟨status, body?, variant?, hended, ⟨hdecodes, hcode, hstatus, hvalue⟩⟩
      exact ⟨status, body?, _, hended, hdecodes, hcode, hvalue, hstatus⟩
    · rintro ⟨status, body?, e, hended, hdecodes, hcode, hvalue, hstatus⟩
      exact ⟨status, body?, _, hended, .boolean hdecodes hcode hstatus hvalue⟩
  · intro fault h
    exact (evaluate_eq_error_iff.mp h).flagService
  · intro enabled h default
    obtain ⟨variant?, hask⟩ := ask_of_ok h default
    rw [hask]
    exact ⟨rfl, fun m => rfl⟩
  · intro fault h default
    rw [ask_of_error h default]
    exact ⟨rfl, fun m => rfl⟩
  · -- A run asks the gate of the settings, which asks the remote gate.
    intro desk selector events r h other
    rw [Reception.run_flagFallbacks h, ServiceGate.askAll_remote, value_flagFallbacks_askAll,
      List.map_replicate]

/-- Two requests in flight together: the first is answered by a response to trust, the second by the
same body with a status of failure. The metadata of the payload has a number out of range, half of a
pair and a byte that is no UTF-8, none of which is read. -/
theorem evaluates_or_defaults_of_outage :
    let front : String :=
      "\x7b\"value\":true,\"metadata\":\x7b\"rate\":1e999,\"owner\":\"\\ud800"
    let body : ByteArray := front.toUTF8 ++ ⟨#[0xff]⟩ ++ "\"\x7d\x7d".toUTF8
    let g : RemoteGate Http.Scripted :=
      .new "http://[::1]:8016/"
        { answers := [.response 200 (some body), .response 503 (some body)] }
    let start : Reception (ServiceGate Http.Scripted) Random.Fixed Random.Fixed :=
      .new (.remote g) "cache" (Desk.new {} {} "shop") { source := {} }
    let events : List Reception.Event := [.come "ann" [], .come "bob" [], .ask 1, .ask 0]
    (∃ status body? e, (g.exchange "cache").1 = .ok (status, body?) ∧
      Evaluation.Decodes body? e ∧ e.value? = some (.bool true)) ∧
    (∀ default, (g.ask "cache" default).1 = true) ∧
    (∀ default, ((g.evaluate "cache").2.1.ask "cache" default).1 = default) ∧
    ∃ r, start.run events = some r ∧
      (Metrics.ofSignals r.log).value (.flagFallbacks "cache") = 1 := by
  intro front body g start events
  have hfirst : (g.evaluate "cache").1 = .ok true := by decide +kernel
  have hsecond : ((g.evaluate "cache").2.1.evaluate "cache").1 =
      .error (.flagService "evaluation returned HTTP 503 Service Unavailable") := by decide +kernel
  have hfailures : g.failures ["cache", "cache"] "cache" = 1 := by decide +kernel
  have hruns : (start.run events).isSome = true := by decide +kernel
  obtain ⟨r, hr⟩ := Option.isSome_iff_exists.mp hruns
  obtain ⟨hok, -, -, hvalue, -, -, hrun⟩ :=
    @evaluates_or_defaults _ Random.Fixed Random.Fixed _ _ _ g "cache"
  obtain ⟨-, -, -, -, hdefault, -, -⟩ :=
    @evaluates_or_defaults _ Random.Fixed Random.Fixed _ _ _ (g.evaluate "cache").2.1 "cache"
  obtain ⟨status, body?, e, hended, hdecodes, -, hbool, -⟩ := (hok true).mp hfirst
  refine ⟨⟨status, body?, e, hended, hdecodes, hbool⟩, ?_, ?_, r, hr, ?_⟩
  · exact fun default => (hvalue true hfirst default).1
  · exact fun default => (hdefault _ hsecond default).1
  · rw [hrun _ _ _ _ hr]
    exact hfailures

end RemoteGate

end Shortlist
