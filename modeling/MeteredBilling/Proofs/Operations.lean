import MeteredBilling.Proofs.Observation

/-!
# Runs of operations

Observations, the operations beside them and the clock, in any order, and what every operation
leaves of the row of a key.
-/

namespace MeteredBilling

open Calendar

/-- A step of a run on the storage in memory. -/
inductive Operation (α : Type)
  | observe (usage : Usage α) (unit : MeasureUnit α) (coverage : Option (Coverage α))
  | upkeep (u : Upkeep α)
  | clock (moment : Instant)

variable {α : Type} [Amount α]

def Operation.perform : Operation α → Engine (Memory α) α PUnit
  | observe usage unit coverage => discard (Engine.apply usage unit coverage)
  | upkeep u => u.perform
  | clock moment => modify fun w => { w with now := moment }

namespace World

/-- The world that an operation leaves, whatever it comes to. -/
def after (w : World (Memory α) α) (operation : Operation α) : World (Memory α) α :=
  ((operation.perform.exec w).map (·.2)).getD w

def run (w : World (Memory α) α) (operations : List (Operation α)) : World (Memory α) α :=
  operations.foldl after w

variable {w : World (Memory α) α} {key : RemittanceKey}

theorem run_append (w : World (Memory α) α) (operations more : List (Operation α)) :
    w.run (operations ++ more) = (w.run operations).run more := List.foldl_append

theorem after_observe (w : World (Memory α) α) (usage : Usage α) (unit : MeasureUnit α)
    (coverage : Option (Coverage α)) :
    w.after (.observe usage unit coverage) =
      match Engine.decisionOn usage unit coverage w with
      | .ok taken =>
        { w with
          minted := Memory.mintedAfter w usage.key (.ok taken)
          storage := (w.storage.commit usage.key w.now taken).2 }
      | .error _ => w := by
  rw [after, Operation.perform, Engine.exec_discard, Engine.exec_apply]
  cases Engine.decisionOn usage unit coverage w <;> rfl

/-- An observation enqueues nothing but the event of the row that it leaves. -/
theorem queue_after_observe (w : World (Memory α) α) (usage : Usage α) (unit : MeasureUnit α)
    (coverage : Option (Coverage α)) :
    let later := w.after (.observe usage unit coverage)
    later.storage.queue = w.storage.queue ∨
      ∃ event : BillingEvent α, ∃ row ∈ later.storage.rows.get? event.key,
        event.remittanceId = row.id ∧ event.key = row.key ∧
          later.storage.queue = w.storage.queue.publish event.toMessage w.now := by
  dsimp only
  rw [after_observe, Engine.decisionOn_eq]
  cases Calculation.compute usage.currentTotal unit (w.storage.rows.get? usage.key) coverage with
  | error e => exact .inl rfl
  | ok calculation =>
    simp only [Engine.map_ok]
    cases calculation.advances with
    | false => exact .inl rfl
    | true =>
      cases Amount.lt 0 calculation.billed with
      | false => exact .inl rfl
      | true =>
        exact .inr ⟨.ofRow _ calculation.billed usage, _, RowTable.get?_put_self .., rfl, rfl, rfl⟩

theorem now_after_observe (w : World (Memory α) α) (usage : Usage α) (unit : MeasureUnit α)
    (coverage : Option (Coverage α)) : (w.after (.observe usage unit coverage)).now = w.now := by
  rw [after_observe]
  split <;> rfl

theorem after_upkeep (w : World (Memory α) α) (u : Upkeep α) :
    (w.after (.upkeep u)).storage = u.effect w.storage w.now := by
  obtain ⟨result, notices, ran⟩ := u.exec_perform w
  rw [after, Operation.perform, ran]
  rfl

theorem now_after_upkeep (w : World (Memory α) α) (u : Upkeep α) :
    (w.after (.upkeep u)).now = w.now := by
  obtain ⟨result, notices, ran⟩ := u.exec_perform w
  rw [after, Operation.perform, ran]
  rfl

theorem single_after (operation : Operation α) (single : w.storage.rows.Single key) :
    (w.after operation).storage.rows.Single key := by
  cases operation with
  | observe usage unit coverage =>
    rw [after_observe]
    split
    · rename_i taken _
      cases taken with
      | keep => exact single
      | write => exact RowTable.single_put _ single
    · exact single
  | upkeep u =>
    rw [after_upkeep]
    exact u.single_effect single
  | clock moment => exact single

theorem row_after_other {usage : Usage α} (unit : MeasureUnit α) (coverage : Option (Coverage α))
    (other : key ≠ usage.key) :
    (w.after (.observe usage unit coverage)).storage.rows.get? key = w.storage.rows.get? key := by
  rw [after_observe]
  split
  · rename_i taken _
    cases taken with
    | keep => rfl
    | write => exact RowTable.get?_put_other _ _ other
  · rfl

end World
end MeteredBilling
