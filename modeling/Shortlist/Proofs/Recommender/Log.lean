import Mathlib.Algebra.BigOperators.Group.List.Basic
import Shortlist.Proofs.Cache.Serial
import Shortlist.Proofs.Cache.Signals
import Shortlist.Proofs.Recommender.AtDesk
import Shortlist.Service

/-!
# What requests under way log

The log of a recommender holds what its desk logs, in the same order, and between that what the
gate and the answers log; and the products that it counts as recommended are those of the answers.
`Logged` is that account, which every step keeps (`run_logged`). So the series of the cache and of
the catalog have the same values in both logs (`Logged.value?_of_ofDesk`).

That a gate tells of flags only is a law of gates, `FlagGate.TellsFlags`. Every gate of the service
keeps it.
-/

namespace Shortlist

/-! ## Where signals come from -/

/-- Whether a signal is about a flag. -/
def Signal.ofFlag : Signal → Bool
  | .flagEvaluated _ _ _ | .flagDefaulted _ _ _ => true
  | _ => false

/-- Whether a signal is one of those that a desk logs. -/
def Signal.ofDesk : Signal → Bool
  | .poolAsked _ | .listed _ _ | .listingFailed _ _ => true
  | signal => signal.ofCache

/-- Whether a series is only counted by what a desk logs. -/
def Series.ofDesk : Series → Bool
  | .recommendations | .flagFallbacks _ => false
  | _ => true

/-- A signal that is not of a desk leaves the series of desks. -/
theorem Signal.value?_record_of_not_ofDesk {signal : Signal} (h : signal.ofDesk = false)
    {s : Series} (hs : s.ofDesk = true) (m : Metrics) :
    (m.record signal).value? s = m.value? s := by
  cases signal with
  | flagDefaulted | recommended =>
    rw [Metrics.record, Metrics.add, Metrics.value?_change, if_neg]
    rintro rfl
    cases hs
  | gateChosen | flagEvaluated | recommendAsked | healthChecked => rfl
  | _ => cases h

/-- A desk does not tell of flags. -/
theorem Signal.ofDesk_eq_false {signal : Signal} (h : signal.ofFlag = true) :
    signal.ofDesk = false := by
  cases signal with
  | flagEvaluated | flagDefaulted => rfl
  | _ => cases h

/-- Neither a desk nor a gate counts recommendations. -/
theorem Signal.counted_recommendations {signal : Signal}
    (h : signal.ofDesk = true ∨ signal.ofFlag = true) : signal.counted .recommendations = 0 := by
  cases signal <;> simp_all [ofDesk, ofCache, ofFlag, counted, Metrics.record, Metrics.value_add,
    Metrics.value_set_of_ne, Metrics.value_empty]

theorem sum_counted_recommendations {signals : List Signal}
    (h : ∀ signal ∈ signals, signal.ofDesk = true ∨ signal.ofFlag = true) :
    (signals.map (·.counted .recommendations)).sum = 0 := by
  refine List.sum_eq_zero fun count hcount => ?_
  obtain ⟨signal, hsignal, rfl⟩ := List.mem_map.mp hcount
  exact Signal.counted_recommendations (h signal hsignal)

/-- What a desk logs is of a desk. -/
theorem Desk.ofDesk_of_mem_logged {σ : Type} [RandomSource σ] (d : Desk σ) (e : Desk.Event) :
    ∀ signal ∈ d.logged e, signal.ofDesk = true := by
  intro signal hsignal
  cases e with
  | arrive mode =>
    obtain rfl := List.mem_singleton.mp hsignal
    rfl
  | grant ticket =>
    rw [logged] at hsignal
    cases hr : d.cache.refreshes.1 with
    | true =>
      rw [ProductCache.enter_of_refresh hr] at hsignal
      obtain rfl := List.mem_singleton.mp hsignal
      rfl
    | false =>
      rw [ProductCache.enter_of_not_refresh hr] at hsignal
      obtain rfl := List.mem_singleton.mp hsignal
      rfl
  | answer ticket listing =>
    rw [logged] at hsignal
    split at hsignal
    · cases listing with
      | error fault =>
        obtain rfl := List.mem_singleton.mp hsignal
        rfl
      | ok ids =>
        rw [ProductCache.settle_ok_signals] at hsignal
        split at hsignal <;>
          simp only [List.cons_append, List.nil_append, List.mem_cons, List.not_mem_nil,
            or_false] at hsignal
        · rcases hsignal with rfl | rfl | rfl <;> rfl
        · rcases hsignal with rfl | rfl <;> rfl
    · obtain rfl := List.mem_singleton.mp hsignal
      cases listing <;> rfl
  | drop ticket => cases hsignal

/-! ## Gates -/

/-- A gate tells of flags only. -/
class FlagGate.TellsFlags (γ : Type) [FlagGate γ] : Prop where
  ofFlag_of_mem : ∀ (gate : γ) (flag : String) (default : Bool),
    ∀ signal ∈ (FlagGate.ask gate flag default).2.2, signal.ofFlag = true

instance : FlagGate.TellsFlags FlagTable where
  ofFlag_of_mem _ _ _ _ h := by cases h

/-- An evaluation tells of its flag, if it succeeds. -/
theorem RemoteGate.ofFlag_of_mem_evaluate {ν : Type} [Http.Peer ν] (g : RemoteGate ν)
    (flag : String) : ∀ signal ∈ (g.evaluate flag).2.2, signal.ofFlag = true := by
  intro signal hsignal
  rw [evaluate] at hsignal
  split at hsignal
  · cases hsignal
  · split at hsignal
    · cases hsignal
    · obtain rfl := List.mem_singleton.mp hsignal
      rfl

/-- And so does a question, of the default if the evaluation fails. -/
theorem RemoteGate.ofFlag_of_mem_ask {ν : Type} [Http.Peer ν] (g : RemoteGate ν) (flag : String)
    (default : Bool) : ∀ signal ∈ (g.ask flag default).2.2, signal.ofFlag = true := by
  intro signal hsignal
  have hevaluate := g.ofFlag_of_mem_evaluate flag
  rw [ask] at hsignal
  split at hsignal <;> rename_i heval <;> rw [heval] at hevaluate
  · exact hevaluate signal hsignal
  · rcases List.mem_append.mp hsignal with hsignal | hsignal
    · exact hevaluate signal hsignal
    · obtain rfl := List.mem_singleton.mp hsignal
      rfl

instance {ν : Type} [Http.Peer ν] : FlagGate.TellsFlags (RemoteGate ν) where
  ofFlag_of_mem g flag default := by
    simpa only [FlagGate.ask] using g.ofFlag_of_mem_ask flag default

instance {ν : Type} [Http.Peer ν] : FlagGate.TellsFlags (ServiceGate ν) where
  ofFlag_of_mem gate flag default := by
    cases gate with
    | table t => exact FlagGate.TellsFlags.ofFlag_of_mem t flag default
    | remote g =>
      have htells := g.ofFlag_of_mem_ask flag default
      rcases hask : g.ask flag default with ⟨enabled, after, signals⟩
      rw [hask] at htells
      simpa only [FlagGate.ask, hask] using htells

/-! ## The log of a run -/

/-- How many products an answer holds. -/
def Answer.served : Answer → Nat
  | .ok products => products.length
  | .error _ => 0

namespace Reception

variable {γ σ τ : Type} [RandomSource σ] {r r' : Reception γ σ τ} {event : Event}

/-- A step of the desk is logged here as it is there. -/
theorem withDesk_log {e : Desk.Event} {desk : Desk σ} (moves : Desk.Step r.desk e desk) :
    (r.withDesk desk).log = r.log ++ r.desk.logged e := by
  rw [withDesk, moves.signals_eq, List.drop_left]

/-- How many products have been answered with. -/
def served (r : Reception γ σ τ) : Nat := (r.answered.map (·.2.served)).sum

omit [RandomSource σ] in
/-- A new answer adds its products. -/
theorem served_of_answered {number : Nat} {a : Answer}
    (h : r'.answered = (number, a) :: r.answered) : r'.served = a.served + r.served := by
  rw [served, h, List.map_cons, List.sum_cons, served]

/-- The log of a recommender accounts for its desk and for its answers. -/
structure Logged (r : Reception γ σ τ) : Prop where
  /-- What it holds of the desk is the desk's log. -/
  desk : r.log.filter Signal.ofDesk = r.desk.signals
  /-- It counts the products of the answers. -/
  recommendations : (r.log.map (·.counted .recommendations)).sum = r.served

namespace Logged

omit [RandomSource σ] in
/-- What is logged aside from the desk counts the products of the answers that come with it. -/
theorem aside (h : Logged r) {more : List Signal} (log : r'.log = r.log ++ more)
    (desk : r'.desk = r.desk) (other : ∀ signal ∈ more, signal.ofDesk = false)
    (served : r'.served = (more.map (·.counted .recommendations)).sum + r.served) :
    Logged r' := by
  constructor
  · rw [log, desk, List.filter_append, h.desk, List.filter_eq_nil_iff.mpr, List.append_nil]
    intro signal hsignal
    simp [other signal hsignal]
  · rw [log, served, List.map_append, List.sum_append, h.recommendations, Nat.add_comm]

omit [RandomSource σ] in
/-- Where nothing is logged, no products may be answered with. -/
theorem idle (h : Logged r) (log : r'.log = r.log) (desk : r'.desk = r.desk)
    (served : r'.served = r.served) : Logged r' := by
  have hlog : r'.log = r.log ++ [] := by rw [log, List.append_nil]
  refine h.aside hlog desk (by simp) ?_
  rw [served, List.map_nil, List.sum_nil, Nat.zero_add]

/-- What the desk logs counts none. -/
theorem withDesk (h : Logged r) {e : Desk.Event} {desk : Desk σ}
    (moves : Desk.Step r.desk e desk) : Logged (r.withDesk desk) := by
  have hlogged := r.desk.ofDesk_of_mem_logged e
  constructor
  · rw [withDesk_log moves, List.filter_append, h.desk, List.filter_eq_self.mpr hlogged]
    exact moves.signals_eq.symm
  · rw [withDesk_log moves, List.map_append, List.sum_append, h.recommendations,
      sum_counted_recommendations fun signal hsignal => Or.inl (hlogged signal hsignal)]
    rfl

/-- A request that goes to the desk is logged before it arrives there. -/
theorem send (h : Logged r) (number : Nat) (request : Request) :
    Logged (r.send number request) := by
  have hasked : Logged { r with
      atDesk := (r.desk.arrived, number, request) :: r.atDesk
      log := r.log ++ [Signal.recommendAsked request.user request.mode] } := by
    refine h.aside rfl rfl ?_ (Nat.zero_add _).symm
    intro signal hsignal
    obtain rfl := List.mem_singleton.mp hsignal
    rfl
  exact hasked.withDesk (Desk.Step.of_step (e := .arrive request.mode) rfl)

/-- Every step keeps the account. -/
theorem step [FlagGate γ] [FlagGate.TellsFlags γ] [RandomSource τ] (h : Logged r)
    (hs : Step r event r') : Logged r' := by
  cases hs with
  | refuse => exact h.idle rfl rfl ((served_of_answered rfl).trans (Nat.zero_add _))
  | enrol | leave => exact h.idle rfl rfl rfl
  | submit request =>
    have hcame : Logged { r with came := r.came + 1 } := h.idle rfl rfl rfl
    exact hcame.send r.came request
  | @ask number request enabled gate signals asks gates =>
    -- What the gate tells of the flag is logged before the request goes to the desk.
    have htells := FlagGate.TellsFlags.ofFlag_of_mem r.gate r.cacheFlag false
    rw [gates] at htells
    have hgate : Logged { r with
        gate
        asking := r.asking.filter (·.1 != number)
        log := r.log ++ signals } := by
      refine h.aside rfl rfl (fun signal hsignal => ?_) ?_
      · exact Signal.ofDesk_eq_false (htells signal hsignal)
      · rw [sum_counted_recommendations fun signal hsignal => Or.inr (htells signal hsignal),
          Nat.zero_add]
        rfl
    exact hgate.send number _
  | hold turn moves => exact h.withDesk moves
  | fail turn moves =>
    exact (h.withDesk moves).idle rfl rfl ((served_of_answered rfl).trans (Nat.zero_add _))
  | drop moves => exact (h.withDesk moves).idle rfl rfl rfl
  | deliver turn moves =>
    refine (h.withDesk moves).aside rfl rfl ?_ ?_
    · intro signal hsignal
      obtain rfl := List.mem_singleton.mp hsignal
      rfl
    · rw [served_of_answered rfl, List.map_singleton, List.sum_singleton,
        Signal.counted_recommended, if_pos rfl]
      rfl

end Logged

variable [FlagGate γ] [FlagGate.TellsFlags γ] [RandomSource τ] {gate : γ} {cacheFlag : String}
  {config : CacheConfig} {source : σ} {catalog : String} {selector : Selector τ}
  {events : List Event}

/-- After every run the log accounts for the desk and for the answers. -/
theorem run_logged
    (h : (new gate cacheFlag (Desk.new config source catalog) selector).run events = some r) :
    Logged r :=
  run_induction (P := fun _ r => Logged r) ⟨rfl, rfl⟩ (fun _ ih hs => ih.step hs) h

omit [RandomSource σ] [FlagGate γ] [FlagGate.TellsFlags γ] [RandomSource τ] in
/-- The series of the cache and of the catalog have the values that the desk gives them. -/
theorem Logged.value?_of_ofDesk (h : Logged r) {s : Series} (hs : s.ofDesk = true) :
    (Metrics.ofSignals r.log).value? s = (Metrics.ofSignals r.desk.signals).value? s := by
  rw [← h.desk, Metrics.value?_ofSignals_filter fun signal hsignal =>
    Signal.value?_record_of_not_ofDesk hsignal hs]

omit [RandomSource σ] [FlagGate γ] [FlagGate.TellsFlags γ] [RandomSource τ] in
/-- In particular their counters do. -/
theorem Logged.value_of_ofDesk (h : Logged r) {s : Series} (hs : s.ofDesk = true) :
    (Metrics.ofSignals r.log).value s = (Metrics.ofSignals r.desk.signals).value s := by
  rw [Metrics.value, Metrics.value, h.value?_of_ofDesk hs]

end Reception

end Shortlist
