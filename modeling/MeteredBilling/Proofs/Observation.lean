import MeteredBilling.Engine.Billing
import MeteredBilling.Proofs.Accounting
import MeteredBilling.Proofs.Upkeep

/-!
# Observations

What the ledger makes of an observation on exact amounts: it refuses a total that falls, leaves a
row that needs nothing, and otherwise writes the row together with the event that bills it.
-/

namespace MeteredBilling.Engine

open Exact

variable {usage : Usage ℚ} {unit : MeasureUnit ℚ} {coverage : Option (Coverage ℚ)}
  {w : World (Memory ℚ) ℚ}

/-- What is decided of an observation in a world. -/
def decisionOn {α : Type} [Amount α] (usage : Usage α) (unit : MeasureUnit α)
    (coverage : Option (Coverage α)) (w : World (Memory α) α) : Except BillingError (Decision α) :=
  Memory.decision w usage.key (Decision.ofUsage usage unit coverage)

theorem exec_apply {α : Type} [Amount α] (usage : Usage α) (unit : MeasureUnit α)
    (coverage : Option (Coverage α)) (w : World (Memory α) α) :
    (apply usage unit coverage).exec w =
      some (match decisionOn usage unit coverage w with
        | .ok taken =>
          (.ok (w.storage.commit usage.key w.now taken).1,
            { w with
              minted := Memory.mintedAfter w usage.key (.ok taken)
              storage := (w.storage.commit usage.key w.now taken).2 })
        | .error e => (.error e, w)) :=
  Memory.exec_reconcile ..

theorem decisionOn_eq {α : Type} [Amount α] (usage : Usage α) (unit : MeasureUnit α)
    (coverage : Option (Coverage α)) (w : World (Memory α) α) :
    let row := w.storage.rows.get? usage.key
    decisionOn usage unit coverage w =
      (Calculation.compute usage.currentTotal unit row coverage).map fun calculation =>
        let next := Decision.nextRow usage row calculation w.now (w.mint (w.minted + 1))
        if calculation.advances then .write calculation next
          (if Amount.lt 0 calculation.billed then
            some (BillingEvent.ofRow next calculation.billed usage).toMessage else none)
        else .keep calculation := by
  intro row
  rw [decisionOn, Memory.decision, Decision.ofUsage]
  cases Calculation.compute usage.currentTotal unit row coverage with
  | error e => rfl
  | ok calculation =>
    rw [Calculation.ok_bind, map_ok]
    cases calculation.advances <;> rfl

theorem decisionOn_refused (unit : MeasureUnit ℚ) (coverage : Option (Coverage ℚ))
    (falls : ¬Follows usage.currentTotal (w.storage.rows.get? usage.key)) :
    ∃ e, decisionOn usage unit coverage w = .error e := by
  obtain ⟨row, _, refused⟩ := compute_of_not_follows unit coverage falls
  rw [decisionOn_eq, refused]
  exact ⟨_, rfl⟩

/-- What an observation comes to in a world if it is accepted. -/
def calculationOn (usage : Usage ℚ) (unit : MeasureUnit ℚ) (coverage : Option (Coverage ℚ))
    (w : World (Memory ℚ) ℚ) : Calculation ℚ :=
  exactly usage.currentTotal unit (w.storage.rows.get? usage.key) coverage

def rowOn (usage : Usage ℚ) (unit : MeasureUnit ℚ) (coverage : Option (Coverage ℚ))
    (w : World (Memory ℚ) ℚ) : Remittance ℚ :=
  rowAfter usage (w.storage.rows.get? usage.key) coverage w.now (w.mint (w.minted + 1)) unit

theorem lastTotal_rowOn {row : Remittance ℚ}
    (present : w.storage.rows.get? usage.key = some row) :
    (rowOn usage unit coverage w).lastTotal = max row.lastTotal usage.currentTotal := by
  rw [rowOn, present]
  rfl

def eventOn (usage : Usage ℚ) (unit : MeasureUnit ℚ) (coverage : Option (Coverage ℚ))
    (w : World (Memory ℚ) ℚ) : BillingEvent ℚ :=
  .ofRow (rowOn usage unit coverage w) (calculationOn usage unit coverage w).billed usage

theorem idle_or_advances (usage : Usage ℚ) (unit : MeasureUnit ℚ) (coverage : Option (Coverage ℚ))
    (w : World (Memory ℚ) ℚ) : (calculationOn usage unit coverage w).consumed = 0 ∨
      0 < (calculationOn usage unit coverage w).consumed :=
  (consumed_nonneg ..).eq_or_lt.imp Eq.symm id

variable (positive : 0 < unit.factor)
  (usable : ∀ row ∈ w.storage.rows.get? usage.key, 0 < row.factor)
  (follows : Follows usage.currentTotal (w.storage.rows.get? usage.key))

include positive usable follows

theorem decisionOn_kept (idle : (calculationOn usage unit coverage w).consumed = 0) :
    decisionOn usage unit coverage w = .ok (.keep (calculationOn usage unit coverage w)) := by
  have still : ¬(calculationOn usage unit coverage w).advances = true := by
    rw [Calculation.advances, lt_iff, idle]
    exact lt_irrefl 0
  rw [decisionOn_eq, compute_of_follows coverage positive usable follows, map_ok, ← calculationOn]
  exact congrArg _ (if_neg still)

theorem decisionOn_written (advances : 0 < (calculationOn usage unit coverage w).consumed) :
    decisionOn usage unit coverage w = .ok (.write (calculationOn usage unit coverage w)
      (rowOn usage unit coverage w)
      (if coverage.any (·.gratis) then none
        else some (eventOn usage unit coverage w).toMessage)) := by
  have moves : (calculationOn usage unit coverage w).advances = true := by
    rw [Calculation.advances, lt_iff]
    exact advances
  rw [decisionOn_eq, compute_of_follows coverage positive usable follows, map_ok, ← calculationOn,
    if_pos moves]
  cases free : coverage.any (·.gratis) with
  | true =>
    have nothing : Amount.lt 0 (calculationOn usage unit coverage w).billed = false := by
      simp [← Bool.not_eq_true, calculationOn, exactly, free]
    rw [nothing]
    rfl
  | false =>
    have due : Amount.lt 0 (calculationOn usage unit coverage w).billed = true := by
      have product := mul_pos advances positive
      simpa [calculationOn, exactly, free] using product
    rw [due]
    rfl

variable (coverage) in
theorem apply_accepted : ∃ row w', (apply usage unit coverage).exec w =
    some (.ok ⟨calculationOn usage unit coverage w, row⟩, w') := by
  rcases idle_or_advances usage unit coverage w with idle | advances
  · rw [exec_apply, decisionOn_kept positive usable follows idle]
    exact ⟨_, _, rfl⟩
  · rw [exec_apply, decisionOn_written positive usable follows advances]
    exact ⟨_, _, rfl⟩

end MeteredBilling.Engine
