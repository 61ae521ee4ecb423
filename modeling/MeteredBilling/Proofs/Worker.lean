import MeteredBilling.Engine.Delivery
import MeteredBilling.Proofs.Processing

/-!
# Steps of a worker

The processing of a message cut where other workers can come between: the claim, the pricing and
the posting of each observation, and the settlement. The steps one after the other are the program
that processes a message.
-/

namespace MeteredBilling

/-- Where a worker stands between two of its steps. -/
inductive Worker (α : Type)
  | idle
  | holding (delivery : Delivery α)
  /-- The next observation of a summary is due, with the results of those before it. -/
  | pricing (delivery : Delivery α) (usage : Usage α) (later : List (Usage α))
    (results : List (Except BillingError (Outcome α)))
  | posting (delivery : Delivery α) (usage : Usage α) (unit : MeasureUnit α)
    (coverage : Option (Coverage α)) (later : List (Usage α))
    (results : List (Except BillingError (Outcome α)))
  | settling (delivery : Delivery α) (outcome : Except BillingError Unit)
  /-- A moment left the calendar. -/
  | stopped

namespace Worker

open Engine

variable {α : Type} [Amount α]

omit [Amount α] in
/-- Goes on with the next observation, or settles by the results of all. -/
def next (delivery : Delivery α) (results : List (Except BillingError (Outcome α))) :
    List (Usage α) → Worker α
  | [] => settling delivery ((verdict results).map fun _ => ())
  | usage :: later => pricing delivery usage later results

/-- One step. A topic is needed to claim a message only. -/
def advance (settings : EngineSettings α) (topic : String) :
    Worker α → Engine (Memory α) α (Worker α)
  | idle => do
    match ← MessageBus.claim topic with
    | none => return idle
    | some delivery => return holding delivery
  | holding delivery => do
    if delivery.topic = Topic.tallySummary then
      match ← attempt (decodePayload delivery TallySummary.record) with
      | .ok summary => return next delivery [] (summary.usages settings.catalog)
      | .error e => return settling delivery (.error e)
    else return settling delivery (← attempt (handle settings delivery))
  | pricing delivery usage later results => do
    match ← attempt (price settings usage) with
    | .ok (unit, coverage) => return posting delivery usage unit coverage later results
    | .error e => return next delivery (results ++ [.error e]) later
  | posting delivery usage unit coverage later results => do
    let result ← attempt (post usage unit coverage)
    return next delivery (results ++ [result]) later
  | settling delivery outcome => do
    discard (settle delivery outcome)
    return idle
  | stopped => return stopped

/-- What a worker has left to do before it is idle again. -/
def rest (settings : EngineSettings α) (topic : String) :
    Worker α → Engine (Memory α) α (Option Settlement)
  | idle => processNext settings topic
  | holding delivery => do return some (← settle delivery (← attempt (handle settings delivery)))
  | pricing delivery usage later results => finish delivery results (usage :: later)
  | posting delivery usage unit coverage later results => do
    let result ← attempt (post usage unit coverage)
    finish delivery (results ++ [result]) later
  | settling delivery outcome => do return some (← settle delivery outcome)
  | stopped => return none
where
  finish (delivery : Delivery α) (results : List (Except BillingError (Outcome α)))
      (usages : List (Usage α)) : Engine (Memory α) α (Option Settlement) := do
    let more ← usages.mapM fun usage => attempt (process settings usage)
    return some (← settle delivery ((verdict (results ++ more)).map fun _ => ()))

variable (settings : EngineSettings α) (topic : String)

theorem rest_next (delivery : Delivery α) (results : List (Except BillingError (Outcome α)))
    (later : List (Usage α)) :
    (next delivery results later).rest settings topic = rest.finish settings delivery results later := by
  cases later with
  | nil => simp [next, rest, rest.finish]
  | cons usage later => rfl

theorem rest_idle : (idle : Worker α).rest settings topic =
    (idle.advance settings topic >>= fun worker =>
      match worker with
      | idle => pure none
      | busy => busy.rest settings topic) := by
  unfold rest processNext advance
  simp only [bind_assoc]
  congr 1
  funext delivery
  cases delivery with
  | none => rfl
  | some delivery => rfl

/-- A summary is handled by pricing and posting its observations in turn. -/
theorem attempt_handle (delivery : Delivery α) (summaries : delivery.topic = Topic.tallySummary) :
    (attempt (handle settings delivery) : Engine (Memory α) α _) =
      attempt (decodePayload delivery TallySummary.record) >>= fun decoded =>
        match decoded with
        | .ok summary => do
          let results ← (summary.usages settings.catalog).mapM fun usage =>
            attempt (process settings usage)
          pure ((verdict results).map fun _ => ())
        | .error e => pure (.error e) := by
  unfold handle
  rw [if_pos summaries, attempt_bind]
  congr 1
  funext decoded
  cases decoded with
  | error e => rfl
  | ok summary =>
    have run := attempt_bind (σ := Memory α) ((summary.usages settings.catalog).mapM fun usage =>
      attempt (process settings usage)) fun results => ofResult ((verdict results).map fun _ => ())
    rw [attempt_mapM, bind_assoc] at run
    refine Eq.trans (congrArg attempt ?_) (run.trans ?_)
    · refine ext fun w => ?_
      simp only [processSummary, exec_discard, exec_bind]
      cases (((summary.usages settings.catalog).mapM fun usage =>
        attempt (process settings usage)).exec w) with
      | none => rfl
      | some p =>
        obtain ⟨results | results, left⟩ := p <;> rfl
    · simp only [pure_bind, attempt_ofResult]

theorem rest_busy {worker : Worker α} (busy : worker ≠ idle)
    (open_ : ∀ delivery outcome, worker ≠ settling delivery outcome) :
    worker.rest settings topic =
      (worker.advance settings topic >>= fun worker => worker.rest settings topic) := by
  cases worker with
  | idle => exact absurd rfl busy
  | settling delivery outcome => exact absurd rfl (open_ delivery outcome)
  | stopped => rfl
  | holding delivery =>
    by_cases summaries : delivery.topic = Topic.tallySummary
    · change (attempt (handle settings delivery) >>= fun outcome =>
        settle delivery outcome >>= fun settlement => pure (some settlement)) = _
      rw [attempt_handle settings delivery summaries, advance, if_pos summaries, bind_assoc,
        bind_assoc]
      congr 1
      funext decoded
      cases decoded with
      | error e => rfl
      | ok summary =>
        simp only [pure_bind, bind_assoc]
        rw [rest_next]
        rfl
    · rw [advance, if_neg summaries, bind_assoc]
      rfl
  | pricing delivery usage later results =>
    have first : attempt (process settings usage) = attempt (price settings usage) >>= fun result =>
        match result with
        | .ok priced => attempt (post (σ := Memory α) usage priced.1 priced.2)
        | .error e => pure (.error e) := by
      rw [process_eq, attempt_bind]
      congr 1
      funext result
      cases result <;> rfl
    have split : rest.finish settings delivery results (usage :: later) =
        attempt (process settings usage) >>= fun result =>
          rest.finish settings delivery (results ++ [result]) later := by
      simp only [rest.finish, List.mapM_cons, bind_assoc, pure_bind, List.append_assoc,
        List.singleton_append]
    refine split.trans ?_
    rw [first]
    unfold advance
    simp only [bind_assoc]
    congr 1
    funext result
    cases result with
    | ok priced => rfl
    | error e => simp only [pure_bind, rest_next]
  | posting delivery usage unit coverage later results =>
    unfold advance
    simp only [bind_assoc, pure_bind, rest_next]
    rfl

end Worker
end MeteredBilling
