import Shortlist.Proofs.Recommender.AtDesk
import Shortlist.Proofs.Recommender.Passage
import Shortlist.Proofs.Recommender.Questions
import Shortlist.Proofs.Service.Reply

/-!
# The code of every reply

The code of a reply to a request that is not malformed is decided by the catalog call that the
request needed, if it needed one: a call that outlived its time, a call that ended in a status,
whatever that says, or none of these (`CodeFollows`). What the flag service does cannot be told from
the code, as a gate always answers. `list_outcomes` says so of a service in any state, and of
requests in flight together.
-/

namespace Shortlist

namespace Service

/-- The code of a reply is that of the ends that catalog calls have `brought`. -/
structure CodeFollows (reply : Except Status (List String)) (brought : CallEnd → Prop) : Prop where
  deadlineExceeded : code reply = .deadlineExceeded ↔ brought .outlived
  unavailable : code reply = .unavailable ↔ ∃ status, brought (.status status)
  ok : code reply = .ok ↔ ¬ brought .outlived ∧ ∀ status, ¬ brought (.status status)
  /-- There is no other code. -/
  mem : code reply ∈ [Code.ok, .unavailable, .deadlineExceeded]

/-- An answer that has a fault exactly if a call has brought it has the code of that call's end. -/
theorem CodeFollows.of_faults {a : Answer} (timeout : Duration) {brought : CallEnd → Prop}
    (h : ∀ fault, a = .error fault ↔ ∃ e, brought e ∧ e.listing timeout = .error fault) :
    CodeFollows (reply a) brought := by
  -- An end that is not a good one decides the answer.
  have hfails : ∀ {e : CallEnd} {fault : Fault}, brought e → e.listing timeout = .error fault →
      code (reply a) = e.code := by
    intro e fault he hfault
    rw [(h fault).mpr ⟨e, he, hfault⟩, ← hfault, code_reply_listing]
  cases a with
  | ok products =>
    have hgood : ∀ {e : CallEnd} {fault : Fault}, brought e → e.listing timeout ≠ .error fault := by
      intro e fault he hfault
      cases (h fault).mpr ⟨e, he, hfault⟩
    have houtlived : ¬ brought .outlived := fun he => hgood he rfl
    have hstatus : ∀ status, ¬ brought (.status status) := fun status he => hgood he rfl
    constructor
    · simp [code, reply, Except.map, Except.mapError, houtlived]
    · simp [code, reply, Except.map, Except.mapError, hstatus]
    · simp [code, reply, Except.map, Except.mapError, houtlived, hstatus]
    · simp [code, reply, Except.map, Except.mapError]
  | error fault =>
    obtain ⟨e, he, hfault⟩ := (h fault).mp rfl
    have hcode := hfails he hfault
    cases e with
    | products items => cases hfault
    | status status =>
      have houtlived : ¬ brought .outlived := by
        intro hother
        rw [hfails hother rfl] at hcode
        cases hcode
      rw [CallEnd.code] at hcode
      constructor
      · simp [hcode, houtlived]
      · exact iff_of_true hcode ⟨status, he⟩
      · exact iff_of_false (by simp [hcode]) fun hnot => hnot.2 status he
      · simp [hcode]
    | outlived =>
      have hstatus : ∀ status, ¬ brought (.status status) := by
        intro status hother
        rw [hfails hother rfl] at hcode
        cases hcode
      rw [CallEnd.code] at hcode
      constructor
      · exact iff_of_true hcode he
      · simp [hcode, hstatus]
      · exact iff_of_false (by simp [hcode]) fun hnot => hnot.1 he
      · simp [hcode]

end Service

namespace Recommender

variable {γ σ κ τ : Type} [FlagGate γ] [RandomSource σ] [CatalogPeer κ] [RandomSource τ]

/-- A request that is not malformed is answered, and with a fault exactly if it needed a call that
brought this fault. -/
theorem list_answered {raws : List String} (h : ¬ Exclusions.Malformed raws)
    (r : Recommender γ σ (RemoteCatalog κ) τ) (user : String) :
    ∃ a, (r.list user raws).1 = some a ∧ ∀ fault, a = .error fault ↔
      ∃ e, (r.calls = true ∧ r.catalog.nextEnd = e) ∧
        e.listing r.catalog.timeout = .error fault := by
  cases hcalls : r.calls with
  | false =>
    obtain ⟨products, hanswer⟩ := list_of_held h hcalls user
    exact ⟨_, hanswer, by simp⟩
  | true =>
    have hcall := r.catalog.call_fst
    cases hlisting : r.catalog.nextEnd.listing r.catalog.timeout with
    | error fault =>
      rw [hlisting] at hcall
      refine ⟨_, list_of_failed h hcalls hcall user, ?_⟩
      intro fault'
      simp [hlisting]
    | ok ids =>
      rw [hlisting] at hcall
      obtain ⟨exclude, pool, -, hanswer, -⟩ := list_of_listed h hcalls hcall user
      exact ⟨_, hanswer, by simp [hlisting]⟩

end Recommender

namespace Reception

variable {γ σ τ : Type} [FlagGate γ] [RandomSource σ] [RandomSource τ] {gate : γ}
  {cacheFlag : String} {config : CacheConfig} {source : σ} {catalog : String}
  {selector : Selector τ} {earlier later : List Event} {r₁ r₂ : Reception γ σ τ} {user : String}
  {raws : List String}

/-- In flight, a request that is not malformed is answered only after the gate has been asked for
it, once, and then with a fault exactly if its call at the desk has brought this fault. -/
theorem run_come_faults
    (h₁ : (new gate cacheFlag (Desk.new config source catalog) selector).run earlier = some r₁)
    (hraws : ¬ Exclusions.Malformed raws) (h₂ : r₁.run (.come user raws :: later) = some r₂)
    {a : Answer} (ha : r₂.result? r₁.came = some a) :
    ∃ before after r₀, later = before ++ .ask r₁.came :: after ∧
      r₁.run (.come user raws :: before) = some r₀ ∧
      later.countP (Event.asks r₁.came) = 1 ∧
      ∀ fault, a = .error fault ↔
        .answer r₀.desk.arrived (.error fault) ∈ earlier ++ .come user raws :: later := by
  obtain ⟨exclude, before, after, r₀, -, hlater, hbefore, hasks, hsettled⟩ :=
    run_come_answered h₁ hraws h₂ ha
  refine ⟨before, after, r₀, hlater, hbefore, hasks, ?_⟩
  intro fault
  have hrun := run_trans h₁ h₂
  rw [← answer_mem_deskEvents hrun, ← Desk.run_result?_eq_error_iff (run_desk hrun)]
  -- The answer is a fault exactly if the desk has one for the request's ticket.
  rw [Settled] at hsettled
  rcases hresult : r₂.desk.result? r₀.desk.arrived with _ | fault' | pool <;>
    rw [hresult] at hsettled
  · rw [hsettled] at ha
    cases ha
  · rw [hsettled] at ha
    obtain rfl := Option.some.inj ha
    simp
  · obtain ⟨s, -, hanswer⟩ := hsettled
    rw [hanswer] at ha
    obtain rfl := Option.some.inj ha
    simp

end Reception

/-- The outcome of every request for recommendations. A service in any state, over any flag service
and any catalog, replies, and the code is `invalidArgument` exactly if the request is malformed.
Then nothing has changed, the gate has not been asked and nothing is told of the request. For any
other request the gate has been asked once, with the default `false`, and the code is
`deadlineExceeded` exactly if the request needed a catalog call and that outlived its time,
`unavailable` exactly if it needed one and that ended in a status, and otherwise `ok`.

It is the same for requests in flight together, as long as the catalog is a remote one. A malformed
request is answered when it comes, which changes nothing else, and keeps its answer. Any other is
answered only after the gate has been asked for it, exactly once, and its code follows from how the
call of its ticket at the desk has ended, if it has needed one. Asking is the only thing that
reaches the gate, and it is always for the flag of the cache with the default `false`. -/
theorem list_outcomes {ν κ σ τ : Type} [Http.Peer ν] [CatalogPeer κ] [RandomSource σ]
    [RandomSource τ] :
    (∀ (s : Service ν κ σ τ) (user : String) (raws : List String), ∃ reply,
      (s.list user raws).1 = some reply ∧
      (Service.code reply = .invalidArgument ↔ Exclusions.Malformed raws) ∧
      (Exclusions.Malformed raws →
        (s.list user raws).2 = (s, []) ∧
        (Recommender.list s.noted user raws).2.1.gate.asked = []) ∧
      (¬ Exclusions.Malformed raws →
        (Recommender.list s.noted user raws).2.1.gate.asked = [(s.cacheFlag, false)] ∧
        (Recommender.list s.noted user raws).1.map Service.reply = some reply ∧
        Service.CodeFollows reply fun e => s.calls = true ∧ s.catalog.nextEnd = e)) ∧
    (∀ (gate : Flags.Noted (ServiceGate ν)) (cacheFlag : String) (config : CacheConfig)
        (source : σ) (catalog : String) (selector : Selector τ) (timeout : Duration)
        (earlier later : List Reception.Event)
        (r₁ r₂ : Reception (Flags.Noted (ServiceGate ν)) σ τ) (user : String)
        (raws : List String),
      (Reception.new gate cacheFlag (Desk.new config source catalog) selector).run earlier =
        some r₁ →
      r₁.run (.come user raws :: later) = some r₂ →
      (∀ ticket listing, .answer ticket listing ∈ earlier ++ .come user raws :: later →
        ∃ e : CallEnd, e.listing timeout = listing) →
      r₂.gate.asked =
        List.replicate ((earlier ++ .come user raws :: later).countP Reception.Event.isAsk)
          (cacheFlag, false) ++ gate.asked ∧
      (Exclusions.Malformed raws → ∃ text,
        r₁.come user raws = { r₁ with
          came := r₁.came + 1
          answered := (r₁.came, .error (.malformedInput text)) :: r₁.answered } ∧
        r₂.result? r₁.came = some (.error (.malformedInput text))) ∧
      ∀ a, r₂.result? r₁.came = some a →
        (Service.code (Service.reply a) = .invalidArgument ↔ Exclusions.Malformed raws) ∧
        (¬ Exclusions.Malformed raws → ∃ before after r₀,
          later = before ++ .ask r₁.came :: after ∧
          r₁.run (.come user raws :: before) = some r₀ ∧
          later.countP (Reception.Event.asks r₁.came) = 1 ∧
          Service.CodeFollows (Service.reply a) fun e =>
            .answer r₀.desk.arrived (e.listing timeout) ∈
              earlier ++ .come user raws :: later)) := by
  -- A code that follows from the ends of calls is never that of a malformed request.
  have hother : ∀ {reply brought}, Service.CodeFollows reply brought →
      Service.code reply ≠ .invalidArgument := by
    intro reply brought hcode heq
    have hmem := hcode.mem
    rw [heq] at hmem
    simp at hmem
  refine ⟨?_, ?_⟩
  · intro s user raws
    by_cases hraws : Exclusions.Malformed raws
    · obtain ⟨text, hlist⟩ := Recommender.list_of_malformed hraws s user
      refine ⟨Service.reply (.error (.malformedInput text)), ?_, iff_of_true rfl hraws, ?_,
        fun hgood => absurd hraws hgood⟩
      · rw [Service.list_fst, hlist]
        rfl
      · intro _
        rw [Service.list_snd, hlist]
        exact ⟨rfl, Recommender.noted_list_of_malformed hraws s user⟩
    · obtain ⟨a, hanswer, hfaults⟩ := Recommender.list_answered hraws s user
      obtain ⟨hasked, hnoted⟩ := Recommender.noted_list_of_not_malformed hraws s user
      have hcode := Service.CodeFollows.of_faults _ hfaults
      refine ⟨Service.reply a, ?_, iff_of_false (hother hcode) hraws,
        fun hbad => absurd hbad hraws, fun _ => ⟨hasked, ?_, hcode⟩⟩
      · rw [Service.list_fst, hanswer]
        rfl
      · rw [hnoted, hanswer]
        rfl
  · intro gate cacheFlag config source catalog selector timeout earlier later r₁ r₂ user raws
      h₁ h₂ hremote
    refine ⟨(Reception.run_asked (Reception.run_trans h₁ h₂)).2,
      fun hraws => Reception.run_come_refused h₁ hraws h₂, ?_⟩
    intro a ha
    by_cases hraws : Exclusions.Malformed raws
    · obtain ⟨text, -, hrefused⟩ := Reception.run_come_refused h₁ hraws h₂
      obtain rfl := Option.some.inj (hrefused.symm.trans ha)
      exact ⟨iff_of_true rfl hraws, fun hgood => absurd hraws hgood⟩
    · obtain ⟨before, after, r₀, hlater, hbefore, hasks, hfaults⟩ :=
        Reception.run_come_faults h₁ hraws h₂ ha
      have hcode : Service.CodeFollows (Service.reply a) fun e =>
          .answer r₀.desk.arrived (e.listing timeout) ∈ earlier ++ .come user raws :: later := by
        refine Service.CodeFollows.of_faults timeout fun fault => ?_
        rw [hfaults]
        constructor
        · intro hanswer
          obtain ⟨e, he⟩ := hremote _ _ hanswer
          exact ⟨e, he ▸ hanswer, he⟩
        · rintro ⟨e, hanswer, he⟩
          exact he ▸ hanswer
      exact ⟨iff_of_false (hother hcode) hraws,
        fun _ => ⟨before, after, r₀, hlater, hbefore, hasks, hcode⟩⟩

/-- A flag service that is not reached leaves the cache disabled, and the call that this takes ends
in a status of its own. In flight, a malformed request is refused and the refresh of another one
outlives its time. -/
theorem list_outcomes_of_status_and_timeout :
    let s : Service Http.Unreachable CatalogPeer.Scripted Random.Fixed Random.Fixed :=
      { gate := .remote (.new "http://flags" {}), cacheFlag := "flag", cache := .new {} {}
        catalog := {
          address := { text := "unix:/catalog", place := .socket "/catalog" }
          timeout := { secs := 0, nanos := 1 }
          peer := { ends := [.status ⟨.invalidArgument, "no"⟩] } }
        selector := { source := {} } }
    let timeout : Duration := { secs := 0, nanos := 1 }
    let later : List Reception.Event :=
      [.ask 1, .grant 0, .answer 0 (CallEnd.outlived.listing timeout)]
    (∃ reply, (s.list "ann" ["a"]).1 = some reply ∧ Service.code reply = .unavailable) ∧
    ∃ (r₁ r₂ : Reception (Flags.Noted (ServiceGate Http.Unreachable)) Random.Fixed Random.Fixed)
        (a : Answer),
      (Reception.new { gate := .table (.ofList [("flag", true)]) } "flag"
        (Desk.new {} {} "grpc") { source := {} }).run [.come "ann" ["\x01"]] = some r₁ ∧
      r₁.run (.come "bob" ["a"] :: later) = some r₂ ∧ r₂.result? 1 = some a ∧
      Service.code (Service.reply a) = .deadlineExceeded ∧
      r₂.gate.asked = [("flag", false)] := by
  intro s timeout later
  obtain ⟨hserved, hflight⟩ := @list_outcomes Http.Unreachable CatalogPeer.Scripted Random.Fixed
    Random.Fixed _ _ _ _
  obtain ⟨r₁, r₂, h₁, h₂, hcame, hfirst, ha⟩ : ∃ r₁ r₂ :
      Reception (Flags.Noted (ServiceGate Http.Unreachable)) Random.Fixed Random.Fixed,
      (Reception.new { gate := .table (.ofList [("flag", true)]) } "flag"
        (Desk.new {} {} "grpc") { source := {} }).run [.come "ann" ["\x01"]] = some r₁ ∧
      r₁.run (.come "bob" ["a"] :: later) = some r₂ ∧ r₁.came = 1 ∧
      (r₁.come "bob" ["a"]).desk.arrived = 0 ∧
      r₂.result? 1 = some (.error (.catalogTimeout timeout)) :=
    ⟨_, _, rfl, rfl, rfl, rfl, rfl⟩
  have hgood : ¬ Exclusions.Malformed ["a"] := by decide +kernel
  have hremote : ∀ ticket listing,
      .answer ticket listing ∈ [.come "ann" ["\x01"]] ++ .come "bob" ["a"] :: later →
        ∃ e : CallEnd, e.listing timeout = listing := by
    intro ticket listing hm
    simp only [later, List.cons_append, List.nil_append, List.mem_cons, List.not_mem_nil,
      reduceCtorEq, or_false, false_or, Reception.Event.answer.injEq] at hm
    exact ⟨.outlived, hm.2.symm⟩
  obtain ⟨hasked, -, hanswer⟩ := hflight _ _ _ _ _ _ timeout _ _ _ _ _ _ h₁ h₂ hremote
  refine ⟨?_, r₁, r₂, _, h₁, h₂, ha, ?_, hasked⟩
  · obtain ⟨reply, hreply, -, -, hcode⟩ := hserved s "ann" ["a"]
    obtain ⟨-, -, hfollows⟩ := hcode hgood
    -- A new cache refreshes first, whatever the gate decides.
    have hcalls : s.calls = true := by
      show s.cache.calls s.nextMode = true
      cases s.nextMode <;> rfl
    exact ⟨reply, hreply, hfollows.unavailable.mpr ⟨_, hcalls, rfl⟩⟩
  · obtain ⟨-, hfollows⟩ := hanswer _ (hcame ▸ ha)
    obtain ⟨before, after, r₀, hlater, hbefore, -, hcode⟩ := hfollows hgood
    refine hcode.deadlineExceeded.mpr ?_
    -- The gate is asked at once, so that the request gets the first ticket.
    rw [hcame] at hlater
    rcases before with _ | ⟨first, before⟩
    · obtain rfl := Option.some.inj hbefore
      rw [hfirst]
      simp [later]
    · have hmem : Reception.Event.ask 1 ∈ later.tail := by
        rw [hlater]
        simp
      simp [later] at hmem

end Shortlist
