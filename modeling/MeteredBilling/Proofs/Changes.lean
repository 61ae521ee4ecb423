import MeteredBilling.Proofs.Operations

/-!
# Changes of a row

All that one operation can make of the row of a key, with the condition under which it does, and
the runs of operations that start without rows.
-/

namespace MeteredBilling

open Calendar Engine

variable {α : Type} [Amount α] {w : World (Memory α) α} {key : RemittanceKey}

/-- What an operation at a moment makes of the row of a key, with an identifier for a new row. -/
inductive RowChange (now : Instant) (fresh : Uuid) (key : RemittanceKey) :
    Operation α → Option (Remittance α) → Option (Remittance α) → Prop
  | same (operation : Operation α) (row : Option (Remittance α)) :
      RowChange now fresh key operation row row
  | written {usage : Usage α} {unit : MeasureUnit α} {coverage : Option (Coverage α)}
      {prior : Option (Remittance α)} {calculation : Calculation α} (own : usage.key = key)
      (computed : Calculation.compute usage.currentTotal unit prior coverage = .ok calculation)
      (advances : calculation.advances = true) :
      RowChange now fresh key (.observe usage unit coverage) prior
        (some (Decision.nextRow usage prior calculation now fresh))
  | acknowledged {feedback : StatusFeedback} {update : StatusUpdate} {row : Remittance α}
      (read : feedback.toUpdate now = .ok update)
      (awaits : RowTable.awaits feedback.remittanceIds update row = true) :
      RowChange now fresh key (.upkeep (.acknowledge feedback)) (some row)
        (some (RowTable.acknowledge update now row))
  | rescheduled {event : BillingEvent α} {header : Option String} {moment : Instant}
      {row : Remittance α} (own : row.id = event.remittanceId)
      (read : DeadLetter.retryAfter event.remittanceId header = .ok moment) :
      RowChange now fresh key (.upkeep (.redeliver event header)) (some row)
        (some (RowTable.reschedule moment now row))
  | givenUp {cutoff : Instant} {row : Remittance α} (stuck : RowTable.isStuck cutoff row = true) :
      RowChange now fresh key (.upkeep (.giveUp cutoff)) (some row) (some (RowTable.giveUp now row))
  | reset {request : ResetRequest} {row : Remittance α} (selected : request.selects row = true) :
      RowChange now fresh key (.upkeep (.reset request)) (some row)
        (some (RowTable.resetAmounts now row))
  | removed {u : Upkeep α} {row : Remittance α} (disturbs : u.disturbs row = true)
      (removes : ∀ request, u ≠ .reset request) :
      RowChange now fresh key (.upkeep u) (some row) none

namespace RowChange

theorem modified {operation : Operation α} {now : Instant} {fresh : Uuid} {t : RowTable α}
    {select : Remittance α → Bool} {change : Remittance α → Remittance α}
    (changes : ∀ row, select row = true →
      RowChange now fresh key operation (some row) (some (change row))) :
    RowChange now fresh key operation (t.get? key) ((t.modify select change).get? key) := by
  rw [RowTable.get?_modify]
  cases t.get? key with
  | none => exact .same operation none
  | some row =>
    cases selected : select row with
    | false => simpa [selected] using same operation (some row)
    | true => simpa [selected] using changes row selected

theorem modifiedFirst {operation : Operation α} {now : Instant} {fresh : Uuid} {t : RowTable α}
    {select : Remittance α → Bool} {change : Remittance α → Remittance α}
    (changes : ∀ row, select row = true →
      RowChange now fresh key operation (some row) (some (change row))) :
    RowChange now fresh key operation (t.get? key) ((t.modifyFirst select change).get? key) := by
  rcases RowTable.get?_modifyFirst t select change key with kept | ⟨row, stored, selected, changed⟩
  · rw [kept]
    exact same operation _
  · rw [changed, Option.mem_def.mp stored]
    exact changes row selected

theorem kept_or_removed {u : Upkeep α} {now : Instant} {fresh : Uuid} {t : RowTable α}
    {select : Remittance α → Bool} (single : t.Single key)
    (disturbs : ∀ row, u.disturbs row = select row) (removes : ∀ request, u ≠ .reset request) :
    RowChange now fresh key (.upkeep u) (t.get? key) ((t.remove select).get? key) := by
  rw [RowTable.get?_remove _ single]
  cases t.get? key with
  | none => exact .same (.upkeep u) none
  | some row =>
    cases selected : select row with
    | false => simpa [Option.filter, selected] using same (.upkeep u) (some row)
    | true =>
      have gone : RowChange now fresh key (.upkeep u) (some row) none :=
        removed ((disturbs row).trans selected) removes
      simpa [Option.filter, selected] using gone

theorem upkeep (u : Upkeep α) {m : Memory α} {now : Instant} {fresh : Uuid}
    (single : m.rows.Single key) :
    RowChange now fresh key (.upkeep u) (m.rows.get? key) ((u.effect m now).rows.get? key) := by
  cases u with
  | acknowledge feedback =>
    simp only [Upkeep.effect]
    split
    · rename_i read
      exact modified fun row awaits => acknowledged read awaits
    · exact .same ..
  | redeliver event header =>
    simp only [Upkeep.effect, Memory.markRetry]
    split
    · rename_i read
      split
      · exact .same ..
      · exact modifiedFirst fun row own => rescheduled (beq_iff_eq.mp own) read
    · exact .same ..
  | giveUp cutoff => exact modified fun row stuck => givenUp stuck
  | reset request => exact modified fun row selected => reset selected
  | expire orgId cutoff => exact kept_or_removed single (fun row => rfl) (by simp)
  | deleteOrg orgId => exact kept_or_removed single (fun row => rfl) (by simp)

theorem observed (usage : Usage α) (unit : MeasureUnit α) (coverage : Option (Coverage α)) :
    RowChange w.now (w.mint (w.minted + 1)) key (.observe usage unit coverage)
      (w.storage.rows.get? key)
      ((w.after (.observe usage unit coverage)).storage.rows.get? key) := by
  by_cases own : usage.key = key
  · subst own
    rw [World.after_observe, decisionOn_eq]
    cases computed : Calculation.compute usage.currentTotal unit (w.storage.rows.get? usage.key)
      coverage with
    | error e => exact .same ..
    | ok calculation =>
      rw [map_ok]
      cases advances : calculation.advances with
      | false => exact .same ..
      | true =>
        have stored := RowTable.get?_put_self w.storage.rows usage.key (Decision.nextRow usage
          (w.storage.rows.get? usage.key) calculation w.now (w.mint (w.minted + 1)))
        have change : RowChange w.now (w.mint (w.minted + 1)) usage.key
            (.observe usage unit coverage) (w.storage.rows.get? usage.key) _ :=
          written rfl computed advances
        rw [← stored] at change
        exact change
  · rw [World.row_after_other unit coverage (Ne.symm own)]
    exact .same ..

/-- An observation in a usable unit, and anything else, leaves a usable factor. -/
theorem usable {operation : Operation α} {now : Instant} {fresh : Uuid}
    {key : RemittanceKey} {before after : Option (Remittance α)}
    (change : RowChange now fresh key operation before after)
    (unit : ∀ usage unit coverage, operation = .observe usage unit coverage →
      Amount.isUsableFactor unit.factor = true)
    (usable : ∀ row ∈ before, Amount.isUsableFactor row.factor = true) :
    ∀ later ∈ after, Amount.isUsableFactor later.factor = true := by
  intro later stored
  cases change with
  | same => exact usable later stored
  | written _ computed =>
    cases stored
    exact (congrArg _ (Calculation.compute_factor computed)).trans (unit _ _ _ rfl)
  | @acknowledged _ _ row | @rescheduled _ _ _ row | @givenUp _ row | @reset _ row =>
    cases stored
    exact usable row rfl
  | removed => cases stored

end RowChange

namespace World

theorem row_change (operation : Operation α) (single : w.storage.rows.Single key) :
    RowChange w.now (w.mint (w.minted + 1)) key operation (w.storage.rows.get? key)
      ((w.after operation).storage.rows.get? key) := by
  cases operation with
  | observe usage unit coverage => exact .observed usage unit coverage
  | upkeep u =>
    rw [after_upkeep]
    exact .upkeep u single
  | clock moment => exact .same ..

/-! ### Runs without rows at their start -/

/-- The world before anything was stored. -/
def withoutRows (w : World (Memory α) α) : World (Memory α) α :=
  { w with storage := { w.storage with rows := .empty } }

/-- What holds of the world without rows, and is kept by every operation, holds after a run. -/
theorem run_keeps {kept : World (Memory α) α → Prop}
    (keeps : ∀ w operation, kept w → kept (w.after operation)) (holds : kept w)
    (operations : List (Operation α)) : kept (w.run operations) := by
  induction operations generalizing w with
  | nil => exact holds
  | cons operation rest ih => exact ih (keeps w operation holds)

theorem single_run (operations : List (Operation α)) (key : RemittanceKey) :
    (w.withoutRows.run operations).storage.rows.Single key := by
  have keeps : ∀ (before : World (Memory α) α) operation, before.storage.rows.Single key →
      (before.after operation).storage.rows.Single key :=
    fun _ operation single => single_after operation single
  have holds : w.withoutRows.storage.rows.Single key := RowTable.single_of_absent rfl
  exact run_keeps keeps holds operations

end World
end MeteredBilling
