import MeteredBilling.Proofs.Observation
import MeteredBilling.Proofs.Queue
import MeteredBilling.Proofs.Worker

/-!
# Moves of a worker

What a step of a worker can come to, by what it does to the rows and to the queue.
-/

namespace MeteredBilling

theorem Upkeep.quiet_effect {α : Type} [Amount α] (u : Upkeep α) (m : Memory α)
    (now : Calendar.Instant) : m.queue.Quiet (u.effect m now).queue := by
  rcases u.queue_effect m now with same | ⟨message, _, published⟩
  · exact .inl same
  · exact .inr ⟨message, now, published⟩

namespace Worker

open Engine

variable {α : Type} [Amount α] (settings : EngineSettings α) (topic : String)

/-- The worker and the world after a step. A failed settlement leaves the worker idle, and a moment
that leaves the calendar stops it. -/
def move (settings : EngineSettings α) (topic : String) (worker : Worker α)
    (w : World (Memory α) α) : Worker α × World (Memory α) α :=
  match (worker.advance settings topic).exec w with
  | some (.ok moved, left) => (moved, left)
  | some (.error _, left) => (idle, left)
  | none => (stopped, w)

def claimed (m : QueuedMessage α) : QueuedMessage α :=
  { m with status := .processing, attempts := m.attempts + 1 }

/-- The change is a release or an acknowledgement, as the outcome asks for. -/
def Settles (outcome : Except BillingError Unit) (change : QueuedMessage α → QueuedMessage α) : Prop :=
  ∀ m, (change m).id = m.id ∧ (change m).topic = m.topic ∧ (change m).payload = m.payload ∧
    (change m).attempts = m.attempts ∧
    match outcome with
    | .ok _ => (change m).status = .acked
    | .error _ => (change m).status ∈ [MessageStatus.queued, .dead, .poisoned]

/-- A step of a worker, by what it does to the rows and to the queue. -/
inductive Moves (settings : EngineSettings α) :
    Worker α → World (Memory α) α → Worker α → World (Memory α) α → Prop
  | rest {w w' : World (Memory α) α} (same : w'.storage = w.storage) : Moves settings idle w idle w'
  | claim {w w' : World (Memory α) α} {m : QueuedMessage α} (member : m ∈ w.storage.queue.messages)
      (queued : m.status = .queued) (rows : w'.storage.rows = w.storage.rows)
      (queue : w'.storage.queue = w.storage.queue.modify m.id claimed) :
      Moves settings idle w (holding m.deliver) w'
  | open_ {w w' : World (Memory α) α} {delivery : Delivery α} {summary : TallySummary α}
      (summaries : delivery.topic = Topic.tallySummary)
      (decoded : TallySummary.record.decoder delivery.payload.canonical = .ok summary)
      (same : w'.storage = w.storage) :
      Moves settings (holding delivery) w (next delivery [] (summary.usages settings.catalog)) w'
  | reject {w w' : World (Memory α) α} {delivery : Delivery α} {e : BillingError}
      (same : w'.storage = w.storage) :
      Moves settings (holding delivery) w (settling delivery (.error e)) w'
  | handle {w w' : World (Memory α) α} {delivery : Delivery α} {outcome : Except BillingError Unit}
      {u : Upkeep α} (other : delivery.topic ≠ Topic.tallySummary)
      (effect : w'.storage = w.storage ∨
        (∀ request, u ≠ .reset request) ∧ w'.storage = u.effect w.storage w.now) :
      Moves settings (holding delivery) w (settling delivery outcome) w'
  | price {w w' : World (Memory α) α} {delivery : Delivery α} {usage : Usage α}
      {unit : MeasureUnit α} {coverage : Option (Coverage α)} {later : List (Usage α)}
      {results : List (Except BillingError (Outcome α))}
      (priced : (Engine.price settings usage).exec w = some (.ok (unit, coverage), w')) :
      Moves settings (pricing delivery usage later results) w
        (posting delivery usage unit coverage later results) w'
  | misprice {w w' : World (Memory α) α} {delivery : Delivery α} {usage : Usage α}
      {e : BillingError} {later : List (Usage α)} {results : List (Except BillingError (Outcome α))}
      (failed : (Engine.price settings usage).exec w = some (.error e, w')) :
      Moves settings (pricing delivery usage later results) w
        (next delivery (results ++ [.error e]) later) w'
  | post {w w₁ w' : World (Memory α) α} {delivery : Delivery α} {usage : Usage α}
      {unit : MeasureUnit α} {coverage : Option (Coverage α)} {later : List (Usage α)}
      {results : List (Except BillingError (Outcome α))} {outcome : Outcome α}
      (applied : (apply usage unit coverage).exec w = some (.ok outcome, w₁))
      (posted : (Engine.post usage unit coverage).exec w = some (.ok outcome, w'))
      (same : w'.storage = w₁.storage) :
      Moves settings (posting delivery usage unit coverage later results) w
        (next delivery (results ++ [.ok outcome]) later) w'
  | refuse {w w' : World (Memory α) α} {delivery : Delivery α} {usage : Usage α}
      {unit : MeasureUnit α} {coverage : Option (Coverage α)} {later : List (Usage α)}
      {results : List (Except BillingError (Outcome α))} {e : BillingError}
      (failed : (Engine.post usage unit coverage).exec w = some (.error e, w'))
      (same : w'.storage = w.storage) :
      Moves settings (posting delivery usage unit coverage later results) w
        (next delivery (results ++ [.error e]) later) w'
  | settle {w w' : World (Memory α) α} {delivery : Delivery α} {outcome : Except BillingError Unit}
      {change : QueuedMessage α → QueuedMessage α} (rows : w'.storage.rows = w.storage.rows)
      (settles : Settles outcome change)
      (queue : w'.storage.queue = w.storage.queue.modify delivery.id change) :
      Moves settings (settling delivery outcome) w idle w'
  | giveUp {w w' : World (Memory α) α} {delivery : Delivery α} {outcome : Except BillingError Unit}
      (same : w'.storage = w.storage) : Moves settings (settling delivery outcome) w idle w'
  | stop {w : World (Memory α) α} {worker : Worker α} : Moves settings worker w stopped w

theorem exec_decodePayload {β : Type} (delivery : Delivery α) (record : Record (Json α) β)
    (w : World (Memory α) α) : (decodePayload delivery record).exec w =
      some ((record.decoder delivery.payload.canonical).mapError
        (.undecodable delivery.topic delivery.id ·), w) := by
  unfold decodePayload
  cases record.decoder delivery.payload.canonical <;> rfl

/-- Messages of the other topics change the storage by an operation on rows, or not at all. -/
theorem handle_other {delivery : Delivery α} (other : delivery.topic ≠ Topic.tallySummary)
    (w : World (Memory α) α) : (Engine.handle settings delivery).exec w = none ∨
      ∃ outcome w', (Engine.handle settings delivery).exec w = some (outcome, w') ∧
        (w'.storage = w.storage ∨ ∃ u : Upkeep α, (∀ request, u ≠ .reset request) ∧
          w'.storage = u.effect w.storage w.now) := by
  unfold Engine.handle
  rw [if_neg other]
  by_cases feedback : delivery.topic = Topic.usageStatus
  · rw [if_pos feedback, exec_bind, exec_decodePayload]
    cases StatusFeedback.record.decoder delivery.payload.canonical with
    | error e => exact .inr ⟨_, w, rfl, .inl rfl⟩
    | ok feedback =>
      obtain ⟨notices, ran⟩ := Upkeep.exec_acknowledge feedback w
      exact .inr ⟨_, _, by simp [Except.mapError, ran]; exact ⟨rfl, rfl⟩,
        .inr ⟨.acknowledge feedback, by simp, rfl⟩⟩
  rw [if_neg feedback]
  by_cases dead : delivery.topic = Topic.deadLetter
  · rw [if_pos dead, exec_bind, exec_decodePayload]
    cases BillingEvent.record.decoder delivery.payload.canonical with
    | error e => exact .inr ⟨_, w, rfl, .inl rfl⟩
    | ok event =>
      let header := delivery.headers.value? retryAfterHeader
      obtain ⟨result, notices, ran⟩ := Upkeep.exec_redeliver event header w
      exact .inr ⟨_, _, by simp [Except.mapError, header, ran]; exact ⟨rfl, rfl⟩,
        .inr ⟨.redeliver event header, by simp, rfl⟩⟩
  rw [if_neg dead]
  by_cases orgs : delivery.topic = Topic.enabledOrgs
  · rw [if_pos orgs, exec_bind, exec_decodePayload]
    cases EnabledOrg.record.decoder delivery.payload.canonical with
    | error e => exact .inr ⟨_, w, rfl, .inl rfl⟩
    | ok org =>
      simp only [Except.mapError, Option.bind_some, proceed_ok, exec_discard, purge]
      cases settings.retention with
      | none => exact .inr ⟨_, w, rfl, .inl rfl⟩
      | some retention =>
        cases start : w.now.minus? retention with
        | none => exact .inl (by simp [start])
        | some cutoff =>
          have removed : (RowStore.deleteOlderThan org.orgId cutoff : Engine (Memory α) α Nat).exec
              w = some (.ok (w.storage.rows.count (RowTable.isExpired org.orgId cutoff)),
                { w with storage := (Upkeep.expire org.orgId cutoff).effect w.storage w.now }) := rfl
          exact .inr ⟨.ok ⟨⟩, _, by simp [start, removed]; rfl,
            .inr ⟨.expire org.orgId cutoff, by simp, rfl⟩⟩
  · rw [if_neg orgs]
    exact .inr ⟨_, w, rfl, .inl rfl⟩

theorem moves_idle (w : World (Memory α) α) : Moves settings idle w
    (idle.move settings topic w).1 (idle.move settings topic w).2 := by
  simp only [move, advance, exec_bind, Memory.exec_claim, MessageQueue.claim]
  cases next : w.storage.queue.next? topic w.now with
  | none => exact .rest rfl
  | some m =>
    obtain ⟨member, due⟩ := MessageQueue.next?_due next
    simp only [QueuedMessage.isDue, Bool.and_eq_true, beq_iff_eq] at due
    exact .claim member due.1.2 rfl rfl

theorem moves_holding (delivery : Delivery α) (w : World (Memory α) α) :
    Moves settings (holding delivery) w ((holding delivery).move settings topic w).1
      ((holding delivery).move settings topic w).2 := by
  by_cases summaries : delivery.topic = Topic.tallySummary
  · simp only [move, advance, if_pos summaries, exec_bind, exec_attempt, exec_decodePayload]
    cases decoded : TallySummary.record.decoder delivery.payload.canonical with
    | error e => exact .reject rfl
    | ok summary => exact .open_ summaries decoded rfl
  · simp only [move, advance, if_neg summaries, exec_bind, exec_attempt]
    rcases handle_other settings summaries w with nothing | ⟨outcome, w', ran, same | effect⟩
    · rw [nothing]
      exact .stop
    · rw [ran]
      exact .handle (u := .giveUp w.now) summaries (.inl same)
    · obtain ⟨u, calm, effect⟩ := effect
      rw [ran]
      exact .handle summaries (.inr ⟨calm, effect⟩)

theorem moves_posting (delivery : Delivery α) (usage : Usage α) (unit : MeasureUnit α)
    (coverage : Option (Coverage α)) (later : List (Usage α))
    (results : List (Except BillingError (Outcome α))) (w : World (Memory α) α) :
    let worker := posting delivery usage unit coverage later results
    Moves settings worker w (worker.move settings topic w).1 (worker.move settings topic w).2 := by
  have ran := exec_apply usage unit coverage w
  simp only [move, advance, exec_bind, exec_attempt]
  cases decided : decisionOn usage unit coverage w with
  | error e =>
    rw [decided] at ran
    have failed := exec_post_of_error ran
    rw [failed]
    exact .refuse failed rfl
  | ok taken =>
    rw [decided] at ran
    obtain ⟨counters, posted⟩ := exec_post_of_ok ran
    rw [posted]
    exact .post ran posted rfl

theorem moves_settled {delivery : Delivery α} {outcome : Except BillingError Unit}
    {w : World (Memory α) α} (w₁ : World (Memory α) α)
    (change : QueuedMessage α → QueuedMessage α) (result : Settlement)
    (settles : Settles outcome change) (same : w₁.storage = w.storage)
    (ran : (settle delivery outcome : Engine (Memory α) α _).exec w =
      ((Memory.settleQueue (·.settle delivery.id change)).exec w₁).bind
        (proceed fun _ => pure result)) :
    let worker : Worker α := settling delivery outcome
    Moves settings worker w (worker.move settings topic w).1 (worker.move settings topic w).2 := by
  simp only [move, advance, exec_bind, exec_discard, ran]
  rcases Memory.exec_settle delivery.id change w₁ with ⟨e, failed⟩ | done
  · rw [failed]
    exact .giveUp same
  · rw [done]
    have rows : w₁.storage.rows = w.storage.rows := by rw [same]
    have queue : w₁.storage.queue.modify delivery.id change =
        w.storage.queue.modify delivery.id change := by rw [same]
    exact .settle rows settles queue

theorem moves_settling (delivery : Delivery α) (outcome : Except BillingError Unit)
    (w : World (Memory α) α) :
    let worker : Worker α := settling delivery outcome
    Moves settings worker w (worker.move settings topic w).1 (worker.move settings topic w).2 := by
  cases outcome with
  | ok =>
    refine moves_settled settings topic w (fun m => { m with status := .acked }) .acked
      (fun m => ⟨rfl, rfl, rfl, rfl, rfl⟩) rfl ?_
    simp only [settle, exec_bind]
    rfl
  | error e =>
    cases disposition : e.disposition with
    | reject =>
      refine moves_settled settings topic
        { w with notices := w.notices ++ [.remediation delivery.id e.code] }
        (fun m => { m with status := .poisoned, lastError := some (.failure e) })
        .poisoned (fun m => ⟨rfl, rfl, rfl, rfl, by simp⟩) rfl ?_
      simp only [settle, disposition, exec_bind, exec_notice, Option.bind_some, proceed_ok]
      rfl
    | retry =>
      cases due : MessageQueue.redeliveryTime? w.storage.queue.policy delivery w.now with
      | none =>
        have stops : (settle delivery (.error e : Except BillingError Unit) :
            Engine (Memory α) α _).exec w = none := by
          simp only [settle, disposition, exec_bind, exec_notice, Option.bind_some, proceed_ok]
          simp only [MessageBus.retry, exec_bind, exec_get, Option.bind_some, proceed_ok, due,
            exec_onCalendar, Option.map_none, Option.bind_none]
        simp only [move, advance, exec_bind, exec_discard, stops]
        exact .stop
      | some time =>
        refine moves_settled settings topic
          { w with notices := w.notices ++ [.redelivery delivery.id delivery.attempts e.code] }
          (fun m => { m with
            status := if w.storage.queue.policy.maxAttempts ≤ m.attempts then .dead else .queued
            availableAt := time
            lastError := some (.failure e) })
          .retried (fun m => ⟨rfl, rfl, rfl, rfl, ?_⟩) rfl ?_
        · simp only []
          split <;> simp
        · simp only [settle, disposition, exec_bind, exec_notice, Option.bind_some, proceed_ok]
          rw [Memory.exec_retry (.failure e) (by exact due)]

theorem moves (worker : Worker α) (w : World (Memory α) α) :
    Moves settings worker w (worker.move settings topic w).1 (worker.move settings topic w).2 := by
  cases worker with
  | stopped => exact .stop
  | idle => exact moves_idle settings topic w
  | holding delivery => exact moves_holding settings topic delivery w
  | pricing delivery usage later results =>
    simp only [move, advance, exec_bind, exec_attempt]
    cases priced : (Engine.price settings usage).exec w with
    | none => exact .stop
    | some p =>
      obtain ⟨e | ⟨unit, coverage⟩, w'⟩ := p
      · exact .misprice priced
      · exact .price priced
  | posting delivery usage unit coverage later results =>
    exact moves_posting settings topic delivery usage unit coverage later results w
  | settling delivery outcome => exact moves_settling settings topic delivery outcome w

/-! ### The delivery of a worker -/

omit [Amount α] in
/-- The delivery that a worker has not settled. -/
def delivery? : Worker α → Option (Delivery α)
  | holding delivery | pricing delivery .. | posting delivery .. | settling delivery _ =>
    some delivery
  | idle | stopped => none

omit [Amount α] in
@[simp] theorem delivery?_next (delivery : Delivery α)
    (results : List (Except BillingError (Outcome α))) (later : List (Usage α)) :
    (next delivery results later).delivery? = some delivery := by
  cases later <;> rfl

theorem apply_queue {usage : Usage α} {unit : MeasureUnit α} {coverage : Option (Coverage α)}
    {w w' : World (Memory α) α} {result : Except BillingError (Outcome α)}
    (applied : (apply usage unit coverage).exec w = some (result, w')) :
    w.storage.queue.Quiet w'.storage.queue := by
  rw [exec_apply] at applied
  cases decided : decisionOn usage unit coverage w with
  | error e =>
    rw [decided] at applied
    cases applied
    exact .inl rfl
  | ok taken =>
    rw [decided] at applied
    cases applied
    rcases taken with _ | ⟨_, _, _ | message⟩
    · exact .inl rfl
    · exact .inl rfl
    · exact .inr ⟨message, w.now, rfl⟩

/-- A step claims a message, settles one, or leaves the records of all messages alone. -/
theorem Moves.queue {a b : Worker α} {w w' : World (Memory α) α} (moves : Moves settings a w b w') :
    (w.storage.queue.Quiet w'.storage.queue ∧
      (b.delivery? = a.delivery? ∨ b.delivery? = none)) ∨
    (∃ m ∈ w.storage.queue.messages, m.status = .queued ∧ a = idle ∧ b = holding m.deliver ∧
      w'.storage.queue = w.storage.queue.modify m.id claimed) ∨
    ∃ delivery outcome change, a = settling delivery outcome ∧ b = idle ∧
      Settles outcome change ∧ w'.storage.queue = w.storage.queue.modify delivery.id change := by
  cases moves with
  | rest same => exact .inl ⟨.inl (by rw [same]), .inl rfl⟩
  | claim member queued rows queue => exact .inr (.inl ⟨_, member, queued, rfl, rfl, queue⟩)
  | open_ _ _ same => exact .inl ⟨.inl (by rw [same]), .inl (delivery?_next ..)⟩
  | reject same => exact .inl ⟨.inl (by rw [same]), .inl rfl⟩
  | @handle _ _ _ _ u _ effect =>
    refine .inl ⟨?_, .inl rfl⟩
    rcases effect with same | ⟨_, effect⟩
    · exact .inl (by rw [same])
    · rw [effect]
      exact u.quiet_effect w.storage w.now
  | price priced => exact .inl ⟨.inl (by rw [(price_ok priced).2.1]), .inl rfl⟩
  | misprice failed =>
    exact .inl ⟨.inl (by rw [price_error failed]), .inl (delivery?_next ..)⟩
  | post applied _ same =>
    refine .inl ⟨?_, .inl (delivery?_next ..)⟩
    rw [same]
    exact apply_queue applied
  | refuse _ same => exact .inl ⟨.inl (by rw [same]), .inl (delivery?_next ..)⟩
  | settle _ settles queue => exact .inr (.inr ⟨_, _, _, rfl, rfl, settles, queue⟩)
  | giveUp same => exact .inl ⟨.inl (by rw [same]), .inr rfl⟩
  | stop => exact .inl ⟨.inl rfl, .inr rfl⟩

end Worker
end MeteredBilling
