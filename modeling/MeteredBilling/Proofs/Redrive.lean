import MeteredBilling.Proofs.EventCodec
import MeteredBilling.Proofs.Moves
import MeteredBilling.Proofs.Reopening

/-!
# Redrive

A dead letter that names a moment sends the event that it carries once more, as it went out the
first time, and puts its row back to pending. Any other one leaves rows and messages alone.
-/

namespace MeteredBilling

open Calendar Engine

variable {α : Type} [Amount α]

/-- The event is on its way once more from a moment on, and its row waits for it. -/
structure BillingEvent.Redriven (event : BillingEvent α) (moment now : Instant)
    (before after : Memory α) : Prop where
  policy : after.queue.policy = before.queue.policy
  messages : after.queue.messages = before.queue.messages ++
    [⟨before.queue.nextId, Topic.billableUsage, event.toMessage.payload, [], .queued, 0, moment,
      none⟩]
  rows : before.rows.ChangesFirst after.rows event.remittanceId fun row =>
    { row with
      status := .pending
      retryAfter := some moment
      billedOn := none
      errorCode := none
      updatedAt := now }
  /-- Where identifiers are unique, no other row has that of the event. -/
  others : (before.rows.rows.map (·.id)).Nodup →
    after.rows.entries = before.rows.entries.map fun (key, row) =>
      (key, if row.id = event.remittanceId then RowTable.reschedule moment now row else row)

namespace Memory

variable {event : BillingEvent α} {m : Memory α}

theorem markRetry_redriven (stored : ∃ row ∈ m.rows.rows, row.id = event.remittanceId)
    (moment now : Instant) : event.Redriven moment now m
      (m.markRetry event.remittanceId moment (some (event.toMessage.deliverAt moment)) now).2 := by
  rw [markRetry_stored _ _ _ _ _ stored]
  refine ⟨rfl, rfl, RowTable.changesFirst_modifyFirst _ stored, fun unique => ?_⟩
  simp only [RowTable.modifyFirst_eq_modify (RowTable.count_id_le unique event.remittanceId),
    RowTable.modify, RowTable.reschedule, beq_iff_eq]

end Memory

namespace Upkeep

variable {event : BillingEvent α} {header : Option String} {m : Memory α}

theorem redeliver_accepted {raw : String} {moment : Instant} (given : header = some raw)
    (accepted : DeadLetter.parseRetryAfter raw = .ok moment)
    (stored : ∃ row ∈ m.rows.rows, row.id = event.remittanceId) (now : Instant) :
    event.Redriven moment now m ((redeliver event header).effect m now) := by
  have read : DeadLetter.retryAfter event.remittanceId header = .ok moment := by
    rw [given]
    exact accepted
  rw [effect, read]
  exact Memory.markRetry_redriven stored moment now

theorem redeliver_rejected (rejected :
      (∀ raw moment, header = some raw → DeadLetter.parseRetryAfter raw ≠ .ok moment) ∨
      ∀ row ∈ m.rows.rows, row.id ≠ event.remittanceId) (now : Instant) :
    (redeliver event header).effect m now = m := by
  rw [effect]
  cases read : DeadLetter.retryAfter event.remittanceId header with
  | error e => rfl
  | ok moment =>
    rcases rejected with unread | gone
    · cases header with
      | none => cases read
      | some raw => exact absurd read (unread raw moment rfl)
    · simp only [Memory.markRetry_gone _ _ _ _ _ gone]

end Upkeep

theorem Engine.exec_handle_deadLetter {delivery : Delivery α} {event : BillingEvent α}
    (settings : EngineSettings α) (dead : delivery.topic = Topic.deadLetter)
    (decoded : BillingEvent.record.decoder delivery.payload.canonical = .ok event)
    (w : World (Memory α) α) : (handle settings delivery).exec w =
      (discard (handleDeadLetter event (delivery.headers.value? retryAfterHeader))).exec w := by
  have summaries : delivery.topic ≠ Topic.tallySummary := by
    rw [dead]
    decide
  have feedback : delivery.topic ≠ Topic.usageStatus := by
    rw [dead]
    decide
  unfold handle
  rw [if_neg summaries, if_neg feedback, if_pos dead, exec_bind, Worker.exec_decodePayload,
    decoded]
  rfl

/-- The payload of an event is read, as that event, if and only if its amounts are finite. A dead
letter with that payload and a timestamp puts the event on its way once more and its row back to
pending, and without a timestamp or a row it changes nothing. -/
theorem dead_letter_redrives (settings : EngineSettings α) (row : Remittance α) (usage : Usage α)
    (shown : usage.snapshotDate.Shown) (billedValue : α) :
    let event := BillingEvent.ofRow row billedValue usage
    let finite := Amount.isFinite billedValue ∧ Amount.isFinite row.factor
    let decoded := BillingEvent.record.decoder event.toMessage.payload.canonical
    ((∃ read, decoded = .ok read) ↔ finite) ∧ (finite → decoded = .ok event) ∧
      event.key = row.key ∧
      ∀ (delivery : Delivery α) (w : World (Memory α) α), finite →
        delivery.topic = Topic.deadLetter → delivery.payload = event.toMessage.payload →
        let header := delivery.headers.value? retryAfterHeader
        ∃ result left, (handle settings delivery).exec w = some (result, left) ∧
          (∀ raw moment, header = some raw → DeadLetter.parseRetryAfter raw = .ok moment →
            (∃ stored ∈ w.storage.rows.rows, stored.id = row.id) →
            event.Redriven moment w.now w.storage left.storage) ∧
          ((∀ raw moment, header = some raw → DeadLetter.parseRetryAfter raw ≠ .ok moment) ∨
            (∀ stored ∈ w.storage.rows.rows, stored.id ≠ row.id) →
            left.storage = w.storage) := by
  intro event finite decoded
  have reads : finite → decoded = .ok event := fun ⟨billed, factor⟩ =>
    BillingEvent.decode_toJson shown billed factor
  refine ⟨⟨?_, fun amounts => ⟨event, reads amounts⟩⟩, reads, rfl, ?_⟩
  · rintro ⟨read, given⟩
    by_contra unfit
    have unread : ∃ e, decoded = .error e := BillingEvent.decode_unfit unfit
    obtain ⟨e, refused⟩ := unread
    exact nomatch given.symm.trans refused
  · intro delivery w amounts dead payload header
    have carried : BillingEvent.record.decoder delivery.payload.canonical = .ok event := by
      rw [payload]
      exact reads amounts
    obtain ⟨result, notices, ran⟩ := Upkeep.exec_redeliver event header w
    refine ⟨result.map fun _ => ⟨⟩,
      { w with notices, storage := (Upkeep.redeliver event header).effect w.storage w.now }, ?_,
      ?_, ?_⟩
    · rw [exec_handle_deadLetter settings dead carried w, exec_discard, ran]
      rfl
    · intro raw moment given accepted stored
      exact Upkeep.redeliver_accepted given accepted stored w.now
    · intro rejected
      exact Upkeep.redeliver_rejected rejected w.now

/-- The row of the hours as they were emitted first. -/
def hoursEmitted : Remittance ℚ where
  id := ⟨1⟩
  key := (hoursRun 4).key
  remitted := 4
  gratis := 0
  factor := 1
  lastTotal := 4
  status := .pending
  errorCode := none
  billedOn := none
  retryAfter := none
  tallyId := ⟨7⟩
  pendingDate := ⟨0, 0⟩
  updatedAt := ⟨0, 0⟩

/-- Their event comes back after the row was rewritten and settled. -/
theorem dead_letter_redrives_hours :
    let event := BillingEvent.ofRow hoursEmitted 4 (hoursRun 4)
    let delivery : Delivery ℚ := ⟨1, Topic.deadLetter, event.toMessage.payload,
      [(retryAfterHeader, "1970-01-03T01:00:00+01:00")], 1⟩
    (hoursRun 4).snapshotDate.Shown ∧ (hoursRewritten.storage.rows.rows.map (·.id)).Nodup ∧
      BillingEvent.record.decoder event.toMessage.payload.canonical = .ok event ∧
      ∃ result left, (handle ⟨⟨[]⟩, ⟨0⟩, none, ⟨0⟩⟩ delivery).exec hoursRewritten =
          some (result, left) ∧
        event.Redriven ⟨172800, 0⟩ hoursRewritten.now hoursRewritten.storage left.storage := by
  intro event delivery
  have shown : (hoursRun 4).snapshotDate.Shown := ⟨by decide, by decide, .inl (by decide)⟩
  obtain ⟨_, reads, _, redrives⟩ :=
    dead_letter_redrives ⟨⟨[]⟩, ⟨0⟩, none, ⟨0⟩⟩ hoursEmitted (hoursRun 4) shown 4
  have accepted : DeadLetter.parseRetryAfter "1970-01-03T01:00:00+01:00" = .ok ⟨172800, 0⟩ := by
    decide +kernel
  have stored : ∃ row ∈ hoursRewritten.storage.rows.rows, row.id = hoursEmitted.id := by
    decide +kernel
  obtain ⟨result, left, ran, redriven, _⟩ :=
    redrives delivery hoursRewritten ⟨rfl, rfl⟩ rfl rfl
  exact ⟨shown, by decide +kernel, reads ⟨rfl, rfl⟩, result, left, ran,
    redriven _ _ rfl accepted stored⟩

end MeteredBilling
