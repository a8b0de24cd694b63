import Shortlist.Proofs.Exclusions.Reading
import Shortlist.Proofs.Recommender.Course

/-!
# From the reading of a request to its answer

A request that comes and can be read waits until the gate is asked for it. From then on it is at the
desk and takes its `Course`. `run_passage` says that at every time one of the two holds: the gate
has not been asked for the request, and then it has no answer (`Unasked`); or it has been asked
exactly once (`Asked`), and the answer is settled by what the desk has for the ticket that the
request got then. `run_come_refused` and `run_come_answered` follow a request from its coming.
-/

namespace Shortlist.Reception

/-- Whether an event asks the gate for a request. -/
def Event.asks (number : Nat) : Event → Bool
  | .ask other => other == number
  | _ => false

variable {γ σ τ : Type}

/-- A request that has been read, and for which the gate has not been asked: it waits for that, or
it has been dropped. -/
def Unasked (r : Reception γ σ τ) (number : Nat) (request : Request) : Prop :=
  (number, request) ∈ r.asking ∨
    number ∉ r.pending ∧ number < r.came ∧ r.result? number = none

section

variable {r : Reception γ σ τ} {number : Nat} {request : Request}

/-- A request that waits for the gate is the one with its number. -/
theorem Docket.eq_of_asking (h : Docket r) {q q' : Request} (hm : (number, q) ∈ r.asking)
    (hm' : (number, q') ∈ r.asking) : q = q' :=
  (Prod.mk.inj (List.inj_on_of_nodup_map (List.nodup_append.mp h.numbers).1 hm hm' rfl)).2

/-- A request that is dropped before the gate has been asked is no longer under way. -/
theorem Docket.not_pending_of_leave (h : Docket r) (hm : (number, request) ∈ r.asking) :
    number ∉ (r.asking.filter (·.1 != number)).map (·.1) ++ r.atDesk.map (·.2.1) := by
  rw [List.mem_append]
  rintro (hasking | hdesk)
  · obtain ⟨⟨n, q⟩, hmem, rfl⟩ := List.mem_map.mp hasking
    exact bne_iff_ne.mp (List.mem_filter.mp hmem).2 rfl
  · exact (List.nodup_append.mp h.numbers).2.2 _ (List.mem_map.mpr ⟨_, hm, rfl⟩) _ hdesk rfl

end

variable [FlagGate γ] [RandomSource σ] [RandomSource τ]

/-- The gate has been asked for a request, once among the events since it was read, and the request
has been on its course at the desk since then, with the ticket that it got and the mode that the
flag decided. -/
def Asked (start r : Reception γ σ τ) (events : List Event) (number : Nat) (request : Request) :
    Prop :=
  ∃ (before after : List Event) (r₀ : Reception γ σ τ),
    events = before ++ .ask number :: after ∧ start.run before = some r₀ ∧
      before.countP (Event.asks number) = 0 ∧ after.countP (Event.asks number) = 0 ∧
      r.Course r.selector.count r₀.desk.arrived number
        (request.withMode (.ofBool (FlagGate.ask r₀.gate r₀.cacheFlag false).1))

section

variable {start r r' : Reception γ σ τ} {event : Event} {events : List Event} {number : Nat}
  {request : Request}

/-- The gate is asked for a request only while that waits for it. -/
theorem Step.asking_of_asks (hs : Step r event r') (h : event.asks number = true) :
    ∃ request, (number, request) ∈ r.asking := by
  cases hs with
  | ask asks gates =>
    obtain rfl := beq_iff_eq.mp h
    exact ⟨_, mem_of_lookup asks⟩
  | hold turn | fail turn | deliver turn =>
    cases event with
    | ask n => cases turn
    | _ => cases h
  | _ => cases h

/-- So it is not asked for one that is not under way. -/
theorem Step.asks_of_not_pending (hs : Step r event r') (h : number ∉ r.pending) :
    event.asks number = false := by
  rw [Bool.eq_false_iff]
  intro hasks
  obtain ⟨request, hm⟩ := hs.asking_of_asks hasks
  exact h (List.mem_append_left _ (List.mem_map.mpr ⟨_, hm, rfl⟩))

/-- Nor for one that has gone to the desk. -/
theorem Step.asks_of_course (hs : Step r event r') (hd : Docket r) {ticket : Ticket} {count : Nat}
    (h : r.Course count ticket number request) : event.asks number = false := by
  rcases h with hm | ⟨hclosed, -⟩
  · rw [Bool.eq_false_iff]
    intro hasks
    -- The numbers of those that wait for the gate and of those at the desk are all different.
    obtain ⟨other, hasking⟩ := hs.asking_of_asks hasks
    exact (List.nodup_append.mp hd.numbers).2.2 _ (List.mem_map.mpr ⟨_, hasking, rfl⟩) _
      (List.mem_map.mpr ⟨_, hm, rfl⟩) rfl
  · exact hs.asks_of_not_pending hclosed.not_pending

/-- A step leaves a request unasked, or it is the one that asks for it. -/
theorem Unasked.step (h : r.Unasked number request) (hd : Docket r) (hs : Step r event r') :
    event.asks number = false ∧ r'.Unasked number request ∨
      event = .ask number ∧ r'.Course r'.selector.count r.desk.arrived number
        (request.withMode (.ofBool (FlagGate.ask r.gate r.cacheFlag false).1)) := by
  rcases h with hm | ⟨hpending, hcame, hnone⟩
  · cases hs with
    | @ask n other enabled gate signals asks gates =>
      by_cases hn : n = number
      · subst hn
        obtain rfl := hd.eq_of_asking hm (mem_of_lookup asks)
        rw [gates]
        exact Or.inr ⟨rfl, Or.inl List.mem_cons_self⟩
      · refine Or.inl ⟨beq_false_of_ne hn, Or.inl ?_⟩
        exact List.mem_filter.mpr ⟨hm, bne_iff_ne.mpr (Ne.symm hn)⟩
    | @leave n other asks =>
      refine Or.inl ⟨rfl, ?_⟩
      by_cases hn : n = number
      · subst hn
        have hpending : n ∈ r.pending := List.mem_append_left _ (List.mem_map.mpr ⟨_, hm, rfl⟩)
        exact Or.inr ⟨hd.not_pending_of_leave hm, hd.came n hpending,
          hd.unanswered n (Or.inl hpending)⟩
      · exact Or.inl (List.mem_filter.mpr ⟨hm, bne_iff_ne.mpr (Ne.symm hn)⟩)
    | enrol reads => exact Or.inl ⟨rfl, Or.inl (List.mem_append_left _ hm)⟩
    | hold turn | fail turn | deliver turn =>
      refine Or.inl ⟨?_, Or.inl hm⟩
      cases event with
      | ask n => cases turn
      | _ => rfl
    | refuse | submit | drop => exact Or.inl ⟨rfl, Or.inl hm⟩
  · -- One that is over stays so.
    obtain ⟨hle, hsubset⟩ := hs.pending_subset
    refine Or.inl ⟨hs.asks_of_not_pending hpending, Or.inr ⟨?_, Nat.lt_of_lt_of_le hcame hle, ?_⟩⟩
    · intro hn
      exact (hsubset number hn).elim hpending (Nat.ne_of_lt hcame)
    · rw [hs.result?_eq hpending hcame, hnone]

end

variable {gate : γ} {cacheFlag : String} {config : CacheConfig} {source : σ} {catalog : String}
  {selector : Selector τ} {earlier later : List Event} {r₁ r₂ : Reception γ σ τ} {number : Nat}
  {request : Request}

/-- At any time after a request has been read, the gate has not been asked for it, or it has been
asked once and the request has been on its course since then. -/
theorem run_passage
    (h₁ : (new gate cacheFlag (Desk.new config source catalog) selector).run earlier = some r₁)
    (hm : (number, request) ∈ r₁.asking) (h₂ : r₁.run later = some r₂) :
    later.countP (Event.asks number) = 0 ∧ r₂.Unasked number request ∨
      Asked r₁ r₂ later number request := by
  refine run_induction (P := fun events r =>
    events.countP (Event.asks number) = 0 ∧ r.Unasked number request ∨
      Asked r₁ r events number request) (Or.inl ⟨rfl, Or.inl hm⟩) ?_ h₂
  rintro events r event r' hrun ih hs
  obtain ⟨hdocket, -⟩ := run_docket (run_trans h₁ hrun)
  rcases ih with ⟨hnever, hunasked⟩ | ⟨before, after, r₀, rfl, h₀, hbefore, hafter, hcourse⟩
  · rcases hunasked.step hdocket hs with ⟨hasks, hunasked'⟩ | ⟨rfl, hcourse⟩
    · refine Or.inl ⟨?_, hunasked'⟩
      rw [List.countP_append, hnever, List.countP_cons_of_neg (by simp [hasks])]
      rfl
    · exact Or.inr ⟨events, [], r, rfl, hrun, hnever, rfl, hcourse⟩
  · refine Or.inr ⟨before, after ++ [event], r₀, by simp, h₀, hbefore, ?_,
      hcourse.step hdocket hs⟩
    rw [List.countP_append, hafter, List.countP_cons_of_neg
      (by simp [hs.asks_of_course hdocket hcourse])]
    rfl

/-- A request that has been read has an answer only once the gate has been asked for it, and then it
is settled by what the desk has for its ticket. -/
theorem run_answered
    (h₁ : (new gate cacheFlag (Desk.new config source catalog) selector).run earlier = some r₁)
    (hm : (number, request) ∈ r₁.asking) (h₂ : r₁.run later = some r₂) {a : Answer}
    (ha : r₂.result? number = some a) :
    ∃ (before after : List Event) (r₀ : Reception γ σ τ),
      later = before ++ .ask number :: after ∧ r₁.run before = some r₀ ∧
        later.countP (Event.asks number) = 1 ∧
        r₂.Settled selector.count r₀.desk.arrived number
          (request.withMode (.ofBool (FlagGate.ask r₀.gate r₀.cacheFlag false).1)) := by
  obtain ⟨hdocket, hcount⟩ := run_docket (run_trans h₁ h₂)
  rcases run_passage h₁ hm h₂ with ⟨-, hunasked⟩ |
    ⟨before, after, r₀, rfl, h₀, hbefore, hafter, hcourse⟩
  · -- Without having been asked for, it has no answer.
    exfalso
    rcases hunasked with hasking | ⟨-, -, hnone⟩
    · have hpending : number ∈ r₂.pending :=
        List.mem_append_left _ (List.mem_map.mpr ⟨_, hasking, rfl⟩)
      rw [hdocket.unanswered number (Or.inl hpending)] at ha
      cases ha
    · rw [hnone] at ha
      cases ha
  · refine ⟨before, after, r₀, rfl, h₀, ?_, hcount ▸ hcourse.settled hdocket⟩
    have hself : Event.asks number (.ask number) = true := beq_self_eq_true number
    rw [List.countP_append, hbefore, List.countP_cons_of_pos hself, hafter]

/-! ## From the coming of a request -/

theorem run_come (r : Reception γ σ τ) (user : String) (raws : List String)
    (later : List Event) : r.run (.come user raws :: later) = (r.come user raws).run later := rfl

/-- A request that is over keeps its answer. -/
theorem run_over (h₂ : r₁.run later = some r₂) (hpending : number ∉ r₁.pending)
    (hcame : number < r₁.came) : r₂.result? number = r₁.result? number := by
  have hover : number ∉ r₂.pending ∧ number < r₂.came ∧
      r₂.result? number = r₁.result? number := by
    refine run_induction (P := fun _ r => number ∉ r.pending ∧ number < r.came ∧
      r.result? number = r₁.result? number) ⟨hpending, hcame, rfl⟩ ?_ h₂
    rintro events r event r' - ⟨hpending, hcame, hsame⟩ hs
    obtain ⟨hle, hsubset⟩ := hs.pending_subset
    refine ⟨?_, Nat.lt_of_lt_of_le hcame hle, (hs.result?_eq hpending hcame).trans hsame⟩
    intro hn
    exact (hsubset number hn).elim hpending (Nat.ne_of_lt hcame)
  exact hover.2.2

variable {user : String} {raws : List String}

/-- A malformed request is refused at once, which changes nothing else, and for good. -/
theorem run_come_refused
    (h₁ : (new gate cacheFlag (Desk.new config source catalog) selector).run earlier = some r₁)
    (hraws : Exclusions.Malformed raws) (h₂ : r₁.run (.come user raws :: later) = some r₂) :
    ∃ text,
      r₁.come user raws = { r₁ with
        came := r₁.came + 1
        answered := (r₁.came, .error (.malformedInput text)) :: r₁.answered } ∧
      r₂.result? r₁.came = some (.error (.malformedInput text)) := by
  obtain ⟨hdocket, -⟩ := run_docket h₁
  obtain ⟨text, hparse⟩ := Request.parse_of_malformed hraws user
  have hcome : r₁.come user raws = { r₁ with
      came := r₁.came + 1
      answered := (r₁.came, .error (.malformedInput text)) :: r₁.answered } := by
    rw [come, hparse]
  refine ⟨text, hcome, ?_⟩
  rw [run_come, hcome] at h₂
  rw [run_over h₂ (fun hn => Nat.lt_irrefl _ (hdocket.came _ hn)) (Nat.lt_succ_self _)]
  exact result?_of_answered rfl

/-- Any other is answered only after the gate has been asked for it, once, and then with what the
desk has for it. -/
theorem run_come_answered
    (h₁ : (new gate cacheFlag (Desk.new config source catalog) selector).run earlier = some r₁)
    (hraws : ¬ Exclusions.Malformed raws) (h₂ : r₁.run (.come user raws :: later) = some r₂)
    {a : Answer} (ha : r₂.result? r₁.came = some a) :
    ∃ (exclude : ProductSet) (before after : List Event) (r₀ : Reception γ σ τ),
      Exclusions.parse raws = .ok exclude ∧ later = before ++ .ask r₁.came :: after ∧
        r₁.run (.come user raws :: before) = some r₀ ∧
        later.countP (Event.asks r₁.came) = 1 ∧
        r₂.Settled selector.count r₀.desk.arrived r₁.came
          ⟨user, exclude, .ofBool (FlagGate.ask r₀.gate r₀.cacheFlag false).1⟩ := by
  obtain ⟨exclude, hread, hparse⟩ := Request.parse_of_not_malformed hraws user
  have hcome : r₁.come user raws = { r₁ with
      came := r₁.came + 1
      asking := r₁.asking ++ [(r₁.came, { user, exclude })] } := by
    rw [come, hparse]
  have hreached : (new gate cacheFlag (Desk.new config source catalog) selector).run
      (earlier ++ [.come user raws]) = some (r₁.come user raws) := run_trans h₁ rfl
  have hasking : (r₁.came, ({ user, exclude } : Request)) ∈ (r₁.come user raws).asking := by
    rw [hcome]
    exact List.mem_append_right _ (List.mem_singleton_self _)
  obtain ⟨before, after, r₀, hlater, hbefore, hasks, hsettled⟩ :=
    run_answered hreached hasking h₂ ha
  exact ⟨exclude, before, after, r₀, hread, hlater, hbefore, hasks, hsettled⟩

/-- No product that it is answered with is excluded. -/
theorem run_come_excludes
    (h₁ : (new gate cacheFlag (Desk.new config source catalog) selector).run earlier = some r₁)
    (h₂ : r₁.run (.come user raws :: later) = some r₂) {products : List ProductId}
    (ha : r₂.result? r₁.came = some (.ok products)) :
    ∃ exclude, Exclusions.parse raws = .ok exclude ∧ ∀ id ∈ products, id ∉ exclude := by
  by_cases hraws : Exclusions.Malformed raws
  · obtain ⟨text, -, hrefused⟩ := run_come_refused h₁ hraws h₂
    rw [hrefused] at ha
    cases ha
  · obtain ⟨exclude, -, -, r₀, hread, -, -, -, hsettled⟩ := run_come_answered h₁ hraws h₂ ha
    refine ⟨exclude, hread, ?_⟩
    -- Products are drawn from a pool, and only from what the request does not exclude.
    rw [Settled] at hsettled
    rcases hresult : r₂.desk.result? r₀.desk.arrived with _ | fault | pool <;>
      rw [hresult] at hsettled
    · rw [hsettled] at ha
      cases ha
    · rw [hsettled] at ha
      cases ha
    · obtain ⟨s, -, hanswer⟩ := hsettled
      rw [hanswer] at ha
      obtain rfl := Except.ok.inj (Option.some.inj ha)
      exact fun id hid => (Selector.mem_select hid).2

end Shortlist.Reception
