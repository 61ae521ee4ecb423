import MeteredBilling.Engine.Feedback
import MeteredBilling.Proofs.Execution
import MeteredBilling.Proofs.Rows

/-!
# Upkeep

What happens to rows beside observations: feedback, dead letters, administration and retention.
Each operation changes or removes the rows that it selects, and a dead letter republishes its event.
-/

namespace MeteredBilling

open Calendar

/-- The part of a row that observations are accounted for in. -/
structure Amounts (α : Type) where
  remitted : α
  gratis : α
  factor : α
  lastTotal : α

def Remittance.amounts {α : Type} (row : Remittance α) : Amounts α :=
  ⟨row.remitted, row.gratis, row.factor, row.lastTotal⟩

/-- How many rows feedback settles, unless it is refused. -/
def StatusFeedback.answer {α : Type} (feedback : StatusFeedback) (rows : RowTable α)
    (now : Instant) : Except BillingError Nat :=
  if feedback.remittanceIds.isEmpty then
    .error (.invalidMessage "status feedback without remittance ids")
  else (feedback.toUpdate now).map fun update =>
    rows.count (RowTable.awaits feedback.remittanceIds update)

/-- An operation on rows that is no observation. -/
inductive Upkeep (α : Type)
  | acknowledge (feedback : StatusFeedback)
  | redeliver (event : BillingEvent α) (header : Option String)
  | giveUp (cutoff : Instant)
  | reset (request : ResetRequest)
  | expire (orgId : String) (cutoff : Instant)
  | deleteOrg (orgId : String)

namespace Upkeep

variable {α : Type} [Amount α]

def perform : Upkeep α → Engine (Memory α) α PUnit
  | acknowledge feedback => discard (Engine.handleStatus feedback)
  | redeliver event header => discard (Engine.handleDeadLetter event header)
  | giveUp cutoff => discard (RowStore.failStuck cutoff : Engine (Memory α) α Nat)
  | reset request => discard (RowStore.resetRemitted request : Engine (Memory α) α Nat)
  | expire orgId cutoff => discard (RowStore.deleteOlderThan orgId cutoff : Engine (Memory α) α Nat)
  | deleteOrg orgId => discard (RowStore.deleteByOrg orgId : Engine (Memory α) α Nat)

def effect (m : Memory α) (now : Instant) : Upkeep α → Memory α
  | acknowledge feedback =>
    match feedback.remittanceIds.isEmpty, feedback.toUpdate now with
    | false, .ok update =>
      { m with
        rows := m.rows.modify (RowTable.awaits feedback.remittanceIds update)
          (RowTable.acknowledge update now) }
    | _, _ => m
  | redeliver event header =>
    match DeadLetter.retryAfter event.remittanceId header with
    | .ok moment =>
      (m.markRetry event.remittanceId moment (some (event.toMessage.deliverAt moment)) now).2
    | .error _ => m
  | giveUp cutoff =>
    { m with rows := m.rows.modify (RowTable.isStuck cutoff) (RowTable.giveUp now) }
  | reset request =>
    { m with rows := m.rows.modify request.selects (RowTable.resetAmounts now) }
  | expire orgId cutoff => { m with rows := m.rows.remove (RowTable.isExpired orgId cutoff) }
  | deleteOrg orgId => { m with rows := m.rows.remove (·.key.orgId == orgId) }

omit [Amount α] in
theorem exec_reportUnsettled (feedback : StatusFeedback) (changed : Nat)
    (w : World (Memory α) α) : ∃ notices,
      (Engine.reportUnsettled feedback changed).exec w = some (.ok ⟨⟩, { w with notices }) := by
  simp only [Engine.reportUnsettled]
  split
  · exact ⟨_, rfl⟩
  · split
    · exact ⟨_, rfl⟩
    · exact ⟨w.notices, rfl⟩

theorem exec_acknowledge (feedback : StatusFeedback) (w : World (Memory α) α) :
    ∃ notices, (Engine.handleStatus feedback).exec w = some (
      feedback.answer w.storage.rows w.now,
      { w with notices, storage := (acknowledge feedback).effect w.storage w.now }) := by
  simp only [Engine.handleStatus, effect, StatusFeedback.answer]
  cases feedback.remittanceIds.isEmpty with
  | true => exact ⟨w.notices, rfl⟩
  | false =>
    cases read : feedback.toUpdate w.now with
    | error e => exact ⟨w.notices, by simp [read]⟩
    | ok update =>
      let select := RowTable.awaits (α := α) feedback.remittanceIds update
      let rows := w.storage.rows.modify select (RowTable.acknowledge update w.now)
      obtain ⟨notices, reported⟩ := exec_reportUnsettled feedback (w.storage.rows.count select)
        { w with storage := { w.storage with rows } }
      refine ⟨notices, ?_⟩
      have updated : (RowStore.updateStatus feedback.remittanceIds update :
          Engine (Memory α) α Nat).exec w = some (.ok (w.storage.rows.count select),
            { w with storage := { w.storage with rows } }) := rfl
      simp_all [select, rows]

theorem exec_redeliver (event : BillingEvent α) (header : Option String)
    (w : World (Memory α) α) :
    ∃ result notices, (Engine.handleDeadLetter event header).exec w = some (result,
      { w with notices, storage := (redeliver event header).effect w.storage w.now }) := by
  simp only [Engine.handleDeadLetter, effect]
  cases DeadLetter.retryAfter event.remittanceId header with
  | error e => exact ⟨.error e, w.notices, by simp⟩
  | ok moment =>
    let marked := w.storage.markRetry event.remittanceId moment
      (some (event.toMessage.deliverAt moment)) w.now
    have retried : (RowStore.markRetry event.remittanceId moment
        (some (event.toMessage.deliverAt moment)) : Engine (Memory α) α _).exec w =
        some (.ok marked.1, { w with storage := marked.2 }) := rfl
    cases found : marked.1 with
    | none => exact ⟨.ok none, w.notices ++ [.missingRemittance], by simp [retried, found, marked]⟩
    | some row => exact ⟨.ok (some row), w.notices, by simp [retried, found, marked]⟩

/-- Operations beside observations always end, and change the storage by their effect. -/
theorem exec_perform (u : Upkeep α) (w : World (Memory α) α) :
    ∃ result notices, u.perform.exec w =
      some (result, { w with notices, storage := u.effect w.storage w.now }) := by
  cases u with
  | acknowledge feedback =>
    obtain ⟨notices, ran⟩ := exec_acknowledge feedback w
    exact ⟨_, notices, by simp [perform, ran]; rfl⟩
  | redeliver event header =>
    obtain ⟨result, notices, ran⟩ := exec_redeliver event header w
    exact ⟨result.map fun _ => ⟨⟩, notices, by simp [perform, ran]⟩
  | giveUp cutoff => exact ⟨.ok ⟨⟩, w.notices, rfl⟩
  | reset request => exact ⟨.ok ⟨⟩, w.notices, rfl⟩
  | expire orgId cutoff => exact ⟨.ok ⟨⟩, w.notices, rfl⟩
  | deleteOrg orgId => exact ⟨.ok ⟨⟩, w.notices, rfl⟩

/-! ### The row of a key -/

omit [Amount α] in
/-- The operation sets the amounts of the row back, or removes it. -/
def disturbs (row : Remittance α) : Upkeep α → Bool
  | reset request => request.selects row
  | expire orgId cutoff => RowTable.isExpired orgId cutoff row
  | deleteOrg orgId => row.key.orgId == orgId
  | _ => false

theorem single_effect (u : Upkeep α) {m : Memory α} {now : Instant} {key : RemittanceKey}
    (single : m.rows.Single key) : (u.effect m now).rows.Single key := by
  cases u with
  | acknowledge feedback =>
    simp only [effect]
    split
    · exact RowTable.single_modify _ _ single
    · exact single
  | redeliver event header =>
    simp only [effect, Memory.markRetry]
    split
    · split
      · exact single
      · exact RowTable.single_modifyFirst _ _ single
    · exact single
  | giveUp cutoff => exact RowTable.single_modify _ _ single
  | reset request => exact RowTable.single_modify _ _ single
  | expire orgId cutoff => exact RowTable.single_remove _ single
  | deleteOrg orgId => exact RowTable.single_remove _ single

theorem amounts_effect (u : Upkeep α) {m : Memory α} {key : RemittanceKey} (now : Instant)
    (single : m.rows.Single key) (calm : ∀ row ∈ m.rows.get? key, u.disturbs row = false) :
    ((u.effect m now).rows.get? key).map (·.amounts) = (m.rows.get? key).map (·.amounts) := by
  cases u with
  | acknowledge feedback =>
    simp only [effect]
    split
    · exact RowTable.map_modify _ _ fun _ => rfl
    · rfl
  | redeliver event header =>
    simp only [effect, Memory.markRetry]
    split
    · split
      · rfl
      · exact RowTable.map_modifyFirst _ _ fun _ => rfl
    · rfl
  | giveUp cutoff => exact RowTable.map_modify _ _ fun _ => rfl
  | reset request =>
    rw [effect, RowTable.get?_modify]
    cases present : m.rows.get? key with
    | none => rfl
    | some row =>
      have unselected : request.selects row = false := calm row present
      simp [unselected]
  | expire orgId cutoff =>
    rw [effect, RowTable.get?_remove _ single]
    cases present : m.rows.get? key with
    | none => rfl
    | some row =>
      have kept : RowTable.isExpired orgId cutoff row = false := calm row present
      simp [Option.filter, kept]
  | deleteOrg orgId =>
    rw [effect, RowTable.get?_remove _ single]
    cases present : m.rows.get? key with
    | none => rfl
    | some row =>
      have kept : (row.key.orgId == orgId) = false := calm row present
      simp [Option.filter, kept]

theorem gone_of_disturbed {u : Upkeep α} {m : Memory α} {key : RemittanceKey} {row : Remittance α}
    (now : Instant) (single : m.rows.Single key) (present : m.rows.get? key = some row)
    (disturbed : u.disturbs row = true) (removes : ∀ request, u ≠ .reset request) :
    (u.effect m now).rows.get? key = none := by
  cases u with
  | acknowledge | redeliver | giveUp => cases disturbed
  | reset request => exact absurd rfl (removes request)
  | expire orgId cutoff =>
    have expired : RowTable.isExpired orgId cutoff row = true := disturbed
    rw [effect, RowTable.get?_remove _ single, present]
    simp [Option.filter, expired]
  | deleteOrg orgId =>
    have owned : (row.key.orgId == orgId) = true := disturbed
    rw [effect, RowTable.get?_remove _ single, present]
    simp [Option.filter, owned]

theorem row_of_disturbed {u : Upkeep α} {m : Memory α} {key : RemittanceKey} {row : Remittance α}
    (now : Instant) (single : m.rows.Single key) (present : m.rows.get? key = some row)
    (disturbed : u.disturbs row = true) : (u.effect m now).rows.get? key = none ∨
      (u.effect m now).rows.get? key = some (RowTable.resetAmounts now row) := by
  by_cases resets : ∃ request, u = .reset request
  · obtain ⟨request, rfl⟩ := resets
    have selected : request.selects row = true := disturbed
    rw [effect, RowTable.get?_modify, present]
    exact .inr (by simp [selected])
  · exact .inl (gone_of_disturbed now single present disturbed fun request same =>
      resets ⟨request, same⟩)

theorem queue_effect (u : Upkeep α) (m : Memory α) (now : Instant) :
    (u.effect m now).queue = m.queue ∨ ∃ message : Outbound α,
      message.topic = Topic.billableUsage ∧
        (u.effect m now).queue = m.queue.publish message now := by
  cases u with
  | redeliver event header =>
    simp only [effect, Memory.markRetry]
    split
    · split
      · exact .inl rfl
      · exact .inr ⟨_, rfl, rfl⟩
    · exact .inl rfl
  | acknowledge feedback =>
    simp only [effect]
    split <;> exact .inl rfl
  | giveUp | reset | expire | deleteOrg => exact .inl rfl

end Upkeep
end MeteredBilling
