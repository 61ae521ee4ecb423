import MeteredBilling.Engine.Delivery
import MeteredBilling.Proofs.Events
import MeteredBilling.Proofs.Queue
import MeteredBilling.Proofs.Summaries

/-!
# Settlements

All observations of a summary are attempted, whatever becomes of each, and the delivery is settled
by what they come to together: it is done with if none failed, left for redelivery if one of the
failures is worth another attempt, and set aside otherwise.
-/

namespace MeteredBilling.Engine

open Calendar

section Messages

variable {α : Type} {delivery : Delivery α} {w w' : World (Memory α) α}

/-! ### The message of a delivery -/

/-- The message of the delivery is on record, and was not claimed again since. -/
def Held (delivery : Delivery α) (w : World (Memory α) α) (m : QueuedMessage α) : Prop :=
  m ∈ w.storage.queue.messages ∧ (m.id : Int) = delivery.id ∧ m.attempts = delivery.attempts

theorem held_of_claim {topic : String}
    (claimed : (MessageBus.claim topic).exec w = some (.ok (some delivery), w')) :
    (∃ m, Held delivery w' m) ∧ w'.storage.rows = w.storage.rows ∧ w'.contracts = w.contracts ∧
      delivery.topic = topic := by
  rw [Memory.exec_claim, MessageQueue.claim] at claimed
  cases next : w.storage.queue.next? topic w.now with
  | none =>
    rw [next] at claimed
    cases claimed
  | some m =>
    rw [next] at claimed
    cases claimed
    obtain ⟨member, due⟩ := MessageQueue.next?_due next
    exact ⟨⟨_, MessageQueue.mem_modify.mpr ⟨m, member, (if_pos rfl).symm⟩, rfl, rfl⟩, rfl, rfl,
      (MessageQueue.isDue_iff.mp due).1⟩

theorem frame_of_claim {topic : String} {taken : Option (Delivery α)}
    (claimed : (MessageBus.claim topic).exec w = some (.ok taken, w')) :
    w'.now = w.now ∧ w'.storage.queue.policy = w.storage.queue.policy := by
  rw [Memory.exec_claim, MessageQueue.claim] at claimed
  cases next : w.storage.queue.next? topic w.now with
  | none =>
    rw [next] at claimed
    cases claimed
    exact ⟨rfl, rfl⟩
  | some m =>
    rw [next] at claimed
    cases claimed
    exact ⟨rfl, rfl⟩

theorem exec_settleQueue_of_held {m : QueuedMessage α} (held : Held delivery w m)
    (change : QueuedMessage α → QueuedMessage α)
    (keeps : (change m).id = m.id ∧ (change m).attempts = m.attempts) :
    ∃ last, (Memory.settleQueue (·.settle delivery.id change)).exec w = some (.ok ⟨⟩, last) ∧
      Held delivery last (change m) := by
  obtain ⟨member, same, attempts⟩ := held
  have found : w.storage.queue.messages.any fun m => (m.id : Int) = delivery.id :=
    List.any_eq_true.mpr ⟨m, member, decide_eq_true same⟩
  rw [Memory.exec_settleQueue, MessageQueue.settle, if_pos found]
  exact ⟨_, rfl, MessageQueue.mem_modify.mpr ⟨m, member, (if_pos same).symm⟩,
    keeps.1.symm ▸ same, keeps.2.trans attempts⟩

theorem exec_settle_ok {m : QueuedMessage α} (held : Held delivery w m) :
    ∃ last, (settle delivery (.ok ⟨⟩)).exec w = some (.ok .acked, last) ∧
      Held delivery last { m with status := .acked } := by
  obtain ⟨last, ran, left⟩ := exec_settleQueue_of_held held
    (fun m => { m with status := .acked }) ⟨rfl, rfl⟩
  have acked : (MessageBus.ack delivery).exec w = some (.ok ⟨⟩, last) := ran
  exact ⟨last, by simp [settle, acked], left⟩

theorem exec_settle_reject {m : QueuedMessage α} (held : Held delivery w m) {e : BillingError}
    (final : e.disposition = .reject) :
    ∃ last, (settle delivery (.error e)).exec w = some (.ok .poisoned, last) ∧
      Held delivery last { m with status := .poisoned, lastError := some (.failure e) } := by
  have still : Held delivery
      { w with notices := w.notices ++ [Notice.remediation delivery.id e.code] } m := held
  obtain ⟨last, ran, left⟩ := exec_settleQueue_of_held still
    (fun m => { m with status := .poisoned, lastError := some (.failure e) }) ⟨rfl, rfl⟩
  have poisoned : (MessageBus.poison delivery (.failure e)).exec _ = some (.ok ⟨⟩, last) := ran
  exact ⟨last, by simp [settle, final, poisoned], left⟩

theorem exec_settle_retry {m : QueuedMessage α} (held : Held delivery w m) {e : BillingError}
    (worth : e.disposition = .retry) {time : Instant}
    (due : MessageQueue.redeliveryTime? w.storage.queue.policy delivery w.now = some time) :
    ∃ last, (settle delivery (.error e)).exec w = some (.ok .retried, last) ∧
      Held delivery last { m with
        status := if w.storage.queue.policy.maxAttempts ≤ m.attempts then .dead else .queued
        availableAt := time
        lastError := some (.failure e) } := by
  have still : Held delivery { w with
      notices := w.notices ++ [.redelivery delivery.id delivery.attempts e.code] } m := held
  obtain ⟨last, ran, left⟩ := exec_settleQueue_of_held still (fun m => { m with
    status := if w.storage.queue.policy.maxAttempts ≤ m.attempts then .dead else .queued
    availableAt := time
    lastError := some (.failure e) }) ⟨rfl, rfl⟩
  have retried : (MessageBus.retry delivery (.failure e)).exec
      { w with notices := w.notices ++ [.redelivery delivery.id delivery.attempts e.code] } =
        some (.ok ⟨⟩, last) := by
    rw [Memory.exec_retry (.failure e) (by exact due)]
    exact ran
  exact ⟨last, by simp [settle, worth, retried], left⟩

theorem exec_settle_undue {e : BillingError} (worth : e.disposition = .retry)
    (due : MessageQueue.redeliveryTime? w.storage.queue.policy delivery w.now = none) :
    (settle delivery (.error e)).exec w = none := by
  simp [settle, worth, MessageBus.retry, due]

/-! ### Settlements by results -/

/-- A settlement by what a summary came to, with what is then on record of its message: whether it
is delivered again, from when, and the code and the text of the failure. -/
inductive SettledAs {β : Type} (policy : DeliveryPolicy) (delivery : Delivery α) (now : Instant)
    (m : QueuedMessage α) : Except BillingError β → Settlement → Prop
  | acked {outcome : β} (done : m.status = .acked) :
      SettledAs policy delivery now m (.ok outcome) .acked
  | retried {e : BillingError} (worth : e.disposition = .retry)
      (status : m.status = if policy.maxAttempts ≤ delivery.attempts then .dead else .queued)
      (due : MessageQueue.redeliveryTime? policy delivery now = some m.availableAt)
      (told : ∀ audience, m.lastError.map (·.wording audience) =
        some (e.code ++ ": " ++ e.wording audience)) :
      SettledAs policy delivery now m (.error e) .retried
  | poisoned {e : BillingError} (final : e.disposition = .reject) (status : m.status = .poisoned)
      (told : ∀ audience, m.lastError.map (·.wording audience) =
        some (e.code ++ ": " ++ e.wording audience)) :
      SettledAs policy delivery now m (.error e) .poisoned

theorem settle_cases {β : Type} {m : QueuedMessage α} (held : Held delivery w m)
    (result : Except BillingError β) :
    (∃ settlement last m', (settle delivery (result.map fun _ => ⟨⟩)).exec w =
      some (.ok settlement, last) ∧ Held delivery last m' ∧
        SettledAs w.storage.queue.policy delivery w.now m' result settlement) ∨
    (settle delivery (result.map fun _ => ⟨⟩)).exec w = none ∧
      MessageQueue.redeliveryTime? w.storage.queue.policy delivery w.now = none := by
  cases result with
  | ok outcome =>
    obtain ⟨last, settled, left⟩ := exec_settle_ok held
    exact .inl ⟨_, last, _, settled, left, .acked rfl⟩
  | error e =>
    cases disposition : e.disposition with
    | reject =>
      obtain ⟨last, settled, left⟩ := exec_settle_reject held disposition
      exact .inl ⟨_, last, _, settled, left, .poisoned disposition rfl fun audience => rfl⟩
    | retry =>
      cases due : MessageQueue.redeliveryTime? w.storage.queue.policy delivery w.now with
      | none => exact .inr ⟨exec_settle_undue disposition due, rfl⟩
      | some time =>
        obtain ⟨last, settled, left⟩ := exec_settle_retry held disposition due
        exact .inl ⟨_, last, _, settled, left,
          .retried disposition (by rw [← held.2.2]) due fun audience => rfl⟩

/-- The settlement that is due after such results. -/
structure DueAfter {β : Type} (results : List (Except BillingError β)) (settlement : Settlement) :
    Prop where
  acked : settlement = .acked ↔ ∀ e, .error e ∉ results
  retried : settlement = .retried ↔ ∃ e, .error e ∈ results ∧ e.disposition = .retry
  poisoned : settlement = .poisoned ↔
    (∃ e, .error e ∈ results) ∧ ∀ e, .error e ∈ results → e.disposition = .reject

theorem SettledAs.dueAfter {β : Type} {results : List (Except BillingError β)}
    {result : Except BillingError (List β)} {policy : DeliveryPolicy} {now : Instant}
    {m : QueuedMessage α} {settlement : Settlement}
    (settled : SettledAs policy delivery now m result settlement)
    (verdict : Verdict results result) : DueAfter results settlement := by
  cases settled with
  | acked done =>
    obtain ⟨rfl⟩ := verdict
    constructor <;> simp
  | @retried e worth =>
    have member := verdict.mem
    refine ⟨iff_of_false nofun fun none => none e member,
      iff_of_true rfl ⟨e, member, worth⟩, iff_of_false nofun fun final => ?_⟩
    exact nomatch worth.symm.trans (final.2 e member)
  | @poisoned e own =>
    have member := verdict.mem
    have final : ∀ e', .error e' ∈ results → e'.disposition = .reject := by
      cases verdict with
      | retry _ worth => exact nomatch worth.symm.trans own
      | reject _ _ final => exact final
    refine ⟨iff_of_false nofun fun none => none e member,
      iff_of_false nofun fun ⟨e', failed, worth⟩ => ?_, iff_of_true rfl ⟨⟨e, member⟩, final⟩⟩
    exact nomatch worth.symm.trans (final e' failed)

end Messages

variable {α : Type} [Amount α] {settings : EngineSettings α} {usage : Usage α}
  {w w' : World (Memory α) α}

/-! ### Attempts -/

/-- Every observation is processed once, in order and in the world that the one before it left. -/
inductive Attempts (settings : EngineSettings α) : List (Usage α) → World (Memory α) α →
    List (Except BillingError (Outcome α)) → World (Memory α) α → Prop
  | none (w : World (Memory α) α) : Attempts settings [] w [] w
  | next {usage : Usage α} {later : List (Usage α)} {w left last : World (Memory α) α}
      {result : Except BillingError (Outcome α)}
      {results : List (Except BillingError (Outcome α))}
      (first : (process settings usage).exec w = some (result, left))
      (others : Attempts settings later left results last) :
      Attempts settings (usage :: later) w (result :: results) last

theorem attempts_of_pass {usages : List (Usage α)}
    {results : Except BillingError (List (Except BillingError (Outcome α)))}
    (ran : (pass settings usages).exec w = some (results, w')) :
    ∃ all, results = .ok all ∧ Attempts settings usages w all w' := by
  induction usages generalizing w results with
  | nil =>
    cases ran
    exact ⟨[], rfl, .none _⟩
  | cons usage later ih =>
    obtain ⟨result, left, rest, first, others, rfl⟩ := pass_cases ran
    obtain ⟨all, rfl, attempts⟩ := ih others
    exact ⟨result :: all, rfl, .next first attempts⟩

theorem pass_attempts (settings : EngineSettings α) (usages : List (Usage α))
    (w : World (Memory α) α) :
    (∃ results left, (pass settings usages).exec w = some (.ok results, left) ∧
      Attempts settings usages w results left) ∨
    (pass settings usages).exec w = none ∧ w.now.minus? settings.contractGrace = none := by
  cases ran : (pass settings usages).exec w with
  | none => exact .inr ⟨rfl, pass_eq_none ran⟩
  | some p =>
    obtain ⟨all, left⟩ := p
    obtain ⟨results, rfl, attempts⟩ := attempts_of_pass ran
    exact .inl ⟨results, left, rfl, attempts⟩

/-! ### The delivery of a summary -/

variable {delivery : Delivery α}

theorem exec_handle_summary (summaries : delivery.topic = Topic.tallySummary) :
    (handle settings delivery).exec w =
      match TallySummary.record.decoder delivery.payload.canonical with
      | .ok summary => ((pass settings (summary.usages settings.catalog)).exec w).map fun p =>
          ((p.1.bind verdict).map fun _ => ⟨⟩, p.2)
      | .error e => some (.error (.undecodable delivery.topic delivery.id e), w) := by
  unfold handle
  rw [if_pos summaries, exec_bind, decodePayload]
  cases TallySummary.record.decoder delivery.payload.canonical with
  | error e => rfl
  | ok summary =>
    change (discard (processSummary settings summary)).exec w = _
    rw [exec_discard, exec_processSummary, Option.map_map]
    rfl

theorem Held.processed {m : QueuedMessage α} {result : Except BillingError (Outcome α)}
    (held : Held delivery w m) (ran : (process settings usage).exec w = some (result, w')) :
    Held delivery w' m := by
  obtain ⟨member, same⟩ := held
  obtain ⟨_, _, ⟨priced, _, _, storage⟩ | ⟨_, storage⟩⟩ := process_cases ran
  · refine ⟨?_, same⟩
    rw [storage]
    rcases w.queue_after_observe usage priced.1 priced.2 with still | ⟨event, _, _, _, _, published⟩
    · rwa [still]
    · rw [published]
      exact MessageQueue.mem_publish.mpr (.inl member)
  · exact ⟨storage ▸ member, same⟩

theorem policy_processed {result : Except BillingError (Outcome α)}
    (ran : (process settings usage).exec w = some (result, w')) :
    w'.storage.queue.policy = w.storage.queue.policy := by
  obtain ⟨_, _, ⟨priced, _, _, storage⟩ | ⟨_, storage⟩⟩ := process_cases ran
  · rw [storage]
    rcases w.queue_after_observe usage priced.1 priced.2 with still | ⟨event, _, _, _, _, published⟩
    · rw [still]
    · rw [published]
      rfl
  · rw [storage]

theorem pass_held {usages : List (Usage α)}
    {results : Except BillingError (List (Except BillingError (Outcome α)))} {m : QueuedMessage α}
    (held : Held delivery w m) (ran : (pass settings usages).exec w = some (results, w')) :
    Held delivery w' m ∧ w'.now = w.now ∧ w'.storage.queue.policy = w.storage.queue.policy := by
  have keeps : ∀ usage (before : World (Memory α) α) result after,
      (Held delivery before m ∧ before.now = w.now ∧
        before.storage.queue.policy = w.storage.queue.policy) →
      (process settings usage).exec before = some (result, after) →
      Held delivery after m ∧ after.now = w.now ∧
        after.storage.queue.policy = w.storage.queue.policy :=
    fun _ _ _ _ ⟨held, clock, policy⟩ ran => ⟨held.processed ran,
      (process_cases ran).1.trans clock, (policy_processed ran).trans policy⟩
  exact pass_keeps keeps ⟨held, rfl, rfl⟩ ran

theorem exec_processNext {topic : String} {taken handled : World (Memory α) α}
    {outcome : Except BillingError PUnit}
    (claimed : (MessageBus.claim topic).exec w = some (.ok (some delivery), taken))
    (ran : (handle settings delivery).exec taken = some (outcome, handled)) :
    (processNext settings topic).exec w =
      ((settle delivery outcome).exec handled).map fun p => (p.1.map some, p.2) := by
  simp only [processNext, exec_bind, claimed, Option.bind_some, proceed_ok, exec_attempt, ran,
    Option.map_some]
  cases (settle delivery outcome).exec handled with
  | none => rfl
  | some p =>
    obtain ⟨settlement | e, last⟩ := p <;> rfl

/-- A summary is processed by an attempt at each of its observations, and comes to the verdict on
all results. The delivery of a summary is settled by it, and the failure that it reports is on
record. Nothing is left only if the grace period or the redelivery leaves the calendar. -/
theorem summary_settled (settings : EngineSettings α) (w : World (Memory α) α) :
    (∀ summary,
      (∃ results result left, (processSummary settings summary).exec w = some (result, left) ∧
        Attempts settings (summary.usages settings.catalog) w results left ∧
        Verdict results result) ∨
      (processSummary settings summary).exec w = none ∧
        w.now.minus? settings.contractGrace = none) ∧
    ∀ delivery taken summary,
      (MessageBus.claim Topic.tallySummary).exec w = some (.ok (some delivery), taken) →
      TallySummary.record.decoder delivery.payload.canonical = .ok summary →
      (∃ results result handled settlement last m,
        Attempts settings (summary.usages settings.catalog) taken results handled ∧
        Verdict results result ∧ DueAfter results settlement ∧
        (processNext settings Topic.tallySummary).exec w = some (.ok (some settlement), last) ∧
        m ∈ last.storage.queue.messages ∧ (m.id : Int) = delivery.id ∧
        SettledAs w.storage.queue.policy delivery w.now m result settlement) ∨
      (processNext settings Topic.tallySummary).exec w = none ∧
        (w.now.minus? settings.contractGrace = none ∨
          MessageQueue.redeliveryTime? w.storage.queue.policy delivery w.now = none) := by
  refine ⟨fun summary => ?_, fun delivery taken summary claimed decoded => ?_⟩
  · rw [exec_processSummary]
    rcases pass_attempts settings (summary.usages settings.catalog) w with
      ⟨results, left, ran, attempts⟩ | ⟨nothing, grace⟩
    · rw [ran]
      exact .inl ⟨results, verdict results, left, rfl, attempts, verdict_holds results⟩
    · rw [nothing]
      exact .inr ⟨rfl, grace⟩
  · obtain ⟨⟨before, held⟩, _, _, topic⟩ := held_of_claim claimed
    obtain ⟨clock, policy⟩ := frame_of_claim claimed
    have handled : (handle settings delivery).exec taken = _ := exec_handle_summary topic
    rw [decoded] at handled
    rcases pass_attempts settings (summary.usages settings.catalog) taken with
      ⟨results, left, ran, attempts⟩ | ⟨nothing, grace⟩
    · obtain ⟨still, sameClock, samePolicy⟩ := pass_held held ran
      have outcome : (handle settings delivery).exec taken =
          some ((verdict results).map fun _ => ⟨⟩, left) := by
        simp only [handled, ran, Option.map_some]
        rfl
      have cases := settle_cases still (verdict results)
      rw [samePolicy, policy, sameClock, clock] at cases
      rw [exec_processNext claimed outcome]
      rcases cases with ⟨settlement, last, m, settled, ⟨member, id, _⟩, kept⟩ | ⟨nothing, undue⟩
      · have holds := verdict_holds results
        exact .inl ⟨results, verdict results, left, settlement, last, m, attempts, holds,
          kept.dueAfter holds, by rw [settled]; rfl, member, id, kept⟩
      · exact .inr ⟨by rw [nothing]; rfl, .inr undue⟩
    · have unhandled : (handle settings delivery).exec taken = none := by
        simp only [handled, nothing, Option.map_none]
      exact .inr ⟨by simp [processNext, claimed, unhandled], .inl (clock ▸ grace)⟩

/-- Clusters are billed by their nodes, under contract. -/
def soldUnderContract : EngineSettings ℚ where
  catalog := ⟨[⟨"cluster", true, true, .hourly, [⟨"nodes", 1, false, some "nodes", none, none⟩]⟩]⟩
  contractGrace := ⟨0⟩
  retention := none
  stuckPendingAfter := ⟨0⟩

/-- One metric is unknown, and the other one waits for its contract. -/
def failingTwice : TallySummary ℚ where
  orgId := "org"
  snapshots := [⟨⟨8⟩, "cluster", ⟨0, 0⟩, "premium", "production", .aws, some "account", none,
    .hourly, some [⟨"PHYSICAL", "cores", 4, 4⟩, ⟨"PHYSICAL", "nodes", 3, 3⟩]⟩]

def failingQueued : World (Memory ℚ) ℚ :=
  { opening with storage := ⟨.empty, (MessageQueue.empty {}).publish
    ⟨Topic.tallySummary, failingTwice.toJson, [], none⟩ ⟨0, 0⟩⟩ }

/-- The failure that is worth another attempt decides, though another one came before it. -/
theorem summary_settled_failing :
    ∃ delivery taken summary,
      (MessageBus.claim Topic.tallySummary).exec failingQueued =
        some (.ok (some delivery), taken) ∧
      TallySummary.record.decoder delivery.payload.canonical = .ok summary ∧
      ∃ results result handled last m,
        Attempts soldUnderContract (summary.usages soldUnderContract.catalog) taken results handled ∧
        Verdict results result ∧ DueAfter results .retried ∧
        (processNext soldUnderContract Topic.tallySummary).exec failingQueued =
          some (.ok (some .retried), last) ∧
        m ∈ last.storage.queue.messages ∧ (m.id : Int) = delivery.id ∧
        SettledAs failingQueued.storage.queue.policy delivery failingQueued.now m result
          .retried := by
  let delivery : Delivery ℚ := ⟨1, Topic.tallySummary, failingTwice.toJson, [], 1⟩
  have claimed : (MessageBus.claim Topic.tallySummary).exec failingQueued =
    some (.ok (some delivery), _) := rfl
  have read : (TallySummary.record.decoder delivery.payload.canonical).isOk = true := by
    decide +kernel
  have answer : ((processNext soldUnderContract Topic.tallySummary).exec failingQueued).map (·.1) =
      some (.ok (some .retried)) := by
    decide +kernel
  cases decoded : TallySummary.record.decoder delivery.payload.canonical with
  | error e =>
    rw [decoded] at read
    cases read
  | ok summary =>
    refine ⟨delivery, _, summary, claimed, decoded, ?_⟩
    rcases (summary_settled soldUnderContract failingQueued).2 delivery _ summary claimed decoded
      with ⟨results, result, handled, settlement, last, m, attempts, verdict, due, ran, settled⟩ |
      ⟨nothing, _⟩
    · rw [ran] at answer
      obtain rfl : settlement = .retried := by simpa using answer
      exact ⟨results, result, handled, last, m, attempts, verdict, due, ran, settled⟩
    · rw [nothing] at answer
      cases answer

end MeteredBilling.Engine
