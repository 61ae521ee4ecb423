import MeteredBilling.Proofs.Conversation
import MeteredBilling.Proofs.Dates
import MeteredBilling.Proofs.Events
import MeteredBilling.Proofs.LedgerTransactions
import MeteredBilling.Proofs.Queue

/-!
# Delays

The delay after an attempt doubles up to its bound, and never falls. A released delivery waits that
long, and a claimed one counts as abandoned no earlier than the policy says, for as long as a span
of the calendar can hold the delay. One that no span holds is dropped as a whole, not cut.
-/

namespace MeteredBilling

open Calendar Engine

namespace Delay

/-- What is left of a delay on the calendar. -/
def kept (d : Delay) : Int := if (d : Int) ≤ Span.limit then d else 0

theorem toSpan_nanos (d : Delay) : d.toSpan.nanos = d.kept := by
  unfold toSpan kept
  split <;> rfl

end Delay

namespace DeliveryPolicy

variable (policy : DeliveryPolicy) {attempts later : Int}

/-- How often the delay has doubled, at most twenty times. -/
def doublings (attempts : Int) : Nat := (min (attempts - 1) 20).toNat

theorem doublings_mono (le : attempts ≤ later) : doublings attempts ≤ doublings later := by
  unfold doublings
  omega

/-- A product past the longest delay is past the bound too, so nothing is lost by cutting it. -/
theorem backoff_eq (bounded : policy.maxBackoff ≤ Delay.longest) (attempts : Int) :
    policy.backoff attempts =
      min (policy.initialBackoff * 2 ^ doublings attempts) policy.maxBackoff := by
  change min (min (policy.initialBackoff * 2 ^ doublings attempts) Delay.longest)
    policy.maxBackoff = _
  rw [min_assoc, min_eq_right bounded]

theorem backoff_mono (bounded : policy.maxBackoff ≤ Delay.longest) (le : attempts ≤ later) :
    policy.backoff attempts ≤ policy.backoff later := by
  have powers : 2 ^ doublings attempts ≤ 2 ^ doublings later :=
    Nat.pow_le_pow_right (by decide) (doublings_mono le)
  have products := Nat.mul_le_mul_left policy.initialBackoff powers
  rw [policy.backoff_eq bounded, policy.backoff_eq bounded]
  exact min_le_min_right _ products

end DeliveryPolicy

namespace MessageQueue

variable {α : Type} {q settled : MessageQueue α} {delivery : Delivery α} {reason : Complaint}
  {time : Instant}

theorem retry_availableAt (released : q.retry delivery reason time = .ok settled) :
    (∃ m ∈ settled.messages, (m.id : Int) = delivery.id) ∧
      ∀ m ∈ settled.messages, (m.id : Int) = delivery.id → m.availableAt = time := by
  unfold retry settle at released
  split at released
  · rename_i listed
    cases released
    constructor
    · obtain ⟨m, member, own⟩ := List.any_eq_true.mp listed
      have own : (m.id : Int) = delivery.id := of_decide_eq_true own
      refine ⟨_, mem_modify.mpr ⟨m, member, rfl⟩, ?_⟩
      rw [if_pos own]
      exact own
    · intro m member own
      obtain ⟨before, _, rfl⟩ := mem_modify.mp member
      split at own
      · rename_i same
        rw [if_pos same]
      · rename_i other
        exact absurd own other
  · cases released

end MessageQueue

namespace Memory

variable {α : Type} {w left : World (Memory α) α} {delivery : Delivery α} {reason : Complaint}

theorem retry_delayed
    (released : (MessageBus.retry delivery reason : Engine (Memory α) α PUnit).exec w =
      some (.ok ⟨⟩, left)) : ∃ time,
      time.nanos = w.now.nanos + (w.storage.queue.policy.backoff delivery.attempts).kept ∧
        w.storage.queue.retry delivery reason time = .ok left.storage.queue := by
  simp only [MessageBus.retry, exec_bind, exec_get, Option.bind_some, proceed_ok, exec_onCalendar]
    at released
  cases due : MessageQueue.redeliveryTime? w.storage.queue.policy delivery w.now with
  | none =>
    rw [due] at released
    cases released
  | some time =>
    rw [due, Option.map_some, Option.bind_some, proceed_ok, exec_settleQueue] at released
    refine ⟨time, ?_, ?_⟩
    · rw [← Delay.toSpan_nanos]
      exact Instant.nanos_plus? due
    · cases settled : w.storage.queue.retry delivery reason time with
      | error e =>
        rw [settled] at released
        cases released
      | ok queue =>
        rw [settled] at released
        cases released
        rfl

end Memory

namespace Sql.Session

variable {ρ α : Type} [Server ρ α] {w left : World (Session ρ α) α}

theorem retry_delayed [Amount α] {delivery : Delivery α} {reason : Complaint}
    {result : Except BillingError PUnit}
    (ran : (MessageBus.retry delivery reason : Engine (Session ρ α) α PUnit).exec w =
      some (result, left)) : ∃ time,
      time.nanos = w.now.nanos + (w.storage.policy.backoff delivery.attempts).kept ∧
        left.storage.sent = w.storage.sent ++
          [.release delivery.id w.storage.policy.maxAttempts time reason] := by
  simp only [MessageBus.retry, exec_bind, exec_get, Option.bind_some, proceed_ok, exec_onCalendar]
    at ran
  cases due : w.now.plus? (w.storage.policy.backoff delivery.attempts).toSpan with
  | none =>
    rw [due] at ran
    cases ran
  | some time =>
    rw [due, Option.map_some, Option.bind_some, proceed_ok, exec_discard, exec_send] at ran
    cases ran
    refine ⟨time, ?_, rfl⟩
    rw [← Delay.toSpan_nanos]
    exact Instant.nanos_plus? due

theorem claim_cutoff [Amount α] {topic : String}
    {result : Except BillingError (Option (Delivery α))}
    (ran : (MessageBus.claim topic : Engine (Session ρ α) α _).exec w = some (result, left)) :
    ∃ stale rest, stale.nanos = w.now.nanos - w.storage.policy.visibilityTimeout.kept ∧
      left.storage.sent = w.storage.sent ++
        .expire topic stale w.storage.policy.maxAttempts :: rest ∧
      (rest = [] ∨ rest = [.claim topic stale]) := by
  change (claimNext topic).exec w = some (result, left) at ran
  unfold claimNext staleBefore at ran
  simp only [exec_bind, exec_get, Option.bind_some, proceed_ok, exec_onCalendar] at ran
  cases back : w.now.minus? w.storage.policy.visibilityTimeout.toSpan with
  | none =>
    rw [back] at ran
    cases ran
  | some stale =>
    have cutoff : stale.nanos = w.now.nanos - w.storage.policy.visibilityTimeout.kept := by
      rw [← Delay.toSpan_nanos]
      exact Instant.nanos_minus? back
    rw [back, Option.map_some, Option.bind_some, proceed_ok, exec_bind, exec_get,
      Option.bind_some, proceed_ok, exec_bind, exec_discard, exec_send, Option.map_some,
      Option.bind_some] at ran
    refine ⟨stale, ?_⟩
    cases outcome : (Server.answer (.expire topic stale w.storage.policy.maxAttempts)
        w.storage.server).1.outcome with
    | error e =>
      rw [outcome] at ran
      cases ran
      exact ⟨[], cutoff, rfl, .inl rfl⟩
    | ok reply =>
      rw [outcome, map_ok, proceed_ok, exec_bind, exec_send, Option.bind_some] at ran
      refine ⟨[.claim topic stale], cutoff, ?_, .inr rfl⟩
      cases claimed : (Server.answer (.claim topic stale) (w.heard
          (.expire topic stale w.storage.policy.maxAttempts)).storage.server).1.outcome with
      | error e =>
        rw [claimed] at ran
        cases ran
        exact List.append_assoc ..
      | ok reply =>
        rw [claimed, proceed_ok, exec_ofResult] at ran
        cases ran
        exact List.append_assoc ..

end Sql.Session

/-- The delay after an attempt is the doubled one up to the bound, and never falls. A released
message waits that long from now, and only what was claimed longer ago than the visibility timeout
is taken for abandoned, where a delay that no span holds counts for nothing. -/
theorem redelivery_delays {ρ α : Type} [Amount α] [Sql.Server ρ α] (policy : DeliveryPolicy)
    (bounded : policy.maxBackoff ≤ Delay.longest) (delivery : Delivery α) (reason : Complaint)
    (topic : String) :
    (∀ attempts, policy.backoff attempts =
      min (policy.initialBackoff * 2 ^ (min (attempts - 1) 20).toNat) policy.maxBackoff) ∧
    (∀ attempts later, attempts ≤ later → policy.backoff attempts ≤ policy.backoff later) ∧
    (∀ w left : World (Memory α) α, w.storage.queue.policy = policy →
      (MessageBus.retry delivery reason : Engine (Memory α) α PUnit).exec w =
        some (.ok ⟨⟩, left) → ∃ time,
        time.nanos = w.now.nanos + (policy.backoff delivery.attempts).kept ∧
        (∃ m ∈ left.storage.queue.messages, (m.id : Int) = delivery.id) ∧
        ∀ m ∈ left.storage.queue.messages, (m.id : Int) = delivery.id → m.availableAt = time) ∧
    (∀ w left : World (Sql.Session ρ α) α, w.storage.policy = policy →
      (∀ result, (MessageBus.retry delivery reason : Engine (Sql.Session ρ α) α PUnit).exec w =
        some (result, left) → ∃ time,
        time.nanos = w.now.nanos + (policy.backoff delivery.attempts).kept ∧
        (time.toMicroseconds.nanos - time.nanos).natAbs < 1000 ∧
        left.storage.sent =
          w.storage.sent ++ [.release delivery.id policy.maxAttempts time reason]) ∧
      ∀ result, (MessageBus.claim topic : Engine (Sql.Session ρ α) α _).exec w =
        some (result, left) → ∃ stale rest,
        stale.nanos = w.now.nanos - policy.visibilityTimeout.kept ∧
        (stale.toMicroseconds.nanos - stale.nanos).natAbs < 1000 ∧
        left.storage.sent = w.storage.sent ++ .expire topic stale policy.maxAttempts :: rest ∧
        (rest = [] ∨ rest = [.claim topic stale])) := by
  refine ⟨policy.backoff_eq bounded, fun _ _ => policy.backoff_mono bounded, ?_, ?_⟩
  · rintro w left rfl released
    obtain ⟨time, delayed, settled⟩ := Memory.retry_delayed released
    exact ⟨time, delayed, MessageQueue.retry_availableAt settled⟩
  · rintro w left rfl
    constructor
    · intro result ran
      obtain ⟨time, delayed, sent⟩ := Sql.Session.retry_delayed ran
      exact ⟨time, delayed, time.nanos_toMicroseconds, sent⟩
    · intro result ran
      obtain ⟨stale, rest, cutoff, sent, statements⟩ := Sql.Session.claim_cutoff ran
      exact ⟨stale, rest, cutoff, stale.nanos_toMicroseconds, sent, statements⟩

/-- By default the third delay is of four seconds, and the message goes back with it. -/
theorem redelivery_delays_default :
    let policy : DeliveryPolicy := {}
    let released := (MessageBus.retry ⟨1, "topic", .null, [], 3⟩ (.remark "busy") :
      Engine (Sql.Session Sql.Session.Contended ℚ) ℚ PUnit).exec Sql.Session.contended
    policy.maxBackoff ≤ Delay.longest ∧ policy.backoff 3 = Delay.ofSeconds 4 ∧
      ∃ p ∈ released, ∃ time : Instant, time.nanos = 4000000000 ∧
        p.2.storage.sent = [.release 1 5 time (.remark "busy")] := by
  intro policy released
  have bounded : policy.maxBackoff ≤ Delay.longest := by decide
  obtain ⟨law, _, _, session⟩ := redelivery_delays (ρ := Sql.Session.Contended) policy bounded
    ⟨1, "topic", .null, [], 3⟩ (.remark "busy") "topic"
  have third : policy.backoff 3 = Delay.ofSeconds 4 := (law 3).trans (by decide)
  have completes : released.isSome = true := by decide +kernel
  obtain ⟨⟨result, left⟩, ran⟩ := Option.isSome_iff_exists.mp completes
  obtain ⟨time, delayed, _, sent⟩ := (session Sql.Session.contended left rfl).1 result ran
  refine ⟨bounded, third, (result, left), ran, time, ?_, sent⟩
  rw [delayed, third]
  decide

/-- A policy whose delays no span holds, by a fifth of a second. -/
def overlong : DeliveryPolicy where
  initialBackoff := Delay.ofSeconds 9223372036854776
  maxBackoff := Delay.ofSeconds 9223372036854776

/-- Under it a message that is released is due at once, though its delay is not nothing. -/
theorem overlong_delay_dropped :
    let w : World (Memory ℚ) ℚ := { opening with storage := .empty overlong }
    let rounds : Engine (Memory ℚ) ℚ PUnit := do
      discard (MessageBus.publish (.ofPayload "topic" .null))
      if let some delivery ← MessageBus.claim "topic" then
        MessageBus.retry delivery (.remark "busy")
    overlong.maxBackoff ≤ Delay.longest ∧
      overlong.backoff 1 = Delay.ofSeconds 9223372036854776 ∧
      ((rounds.exec w).map fun p => (p.1.isOk, p.2.storage.queue.messages.map fun m =>
        (m.attempts, m.status, m.availableAt))) = some (true, [(1, .queued, w.now)]) := by
  decide +kernel

end MeteredBilling
