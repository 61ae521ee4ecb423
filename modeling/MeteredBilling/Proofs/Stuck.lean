import Mathlib.Data.List.Induction
import MeteredBilling.Proofs.Reopening

/-!
# Rows that are stuck

A row that is given up has been pending since before the cutoff, or else a dead letter has put it
back to pending since then: that leaves the date of the row as it was.
-/

namespace MeteredBilling

open Calendar

variable {α : Type} [Amount α]

/-- Whence a row is pending after an operation: it was so before, or it is emitted anew at that
moment, or a dead letter has put it back. -/
theorem RowChange.pending {operation : Operation α} {now : Instant} {fresh : Uuid}
    {key : RemittanceKey} {before after : Option (Remittance α)}
    (change : RowChange now fresh key operation before after) :
    ∀ later ∈ after, later.status = .pending →
      (∃ row ∈ before, row.status = .pending ∧ row.pendingDate = later.pendingDate) ∨
      (later.pendingDate = now ∧ ∃ usage unit coverage, operation = .observe usage unit coverage) ∨
      ∃ event header, operation = .upkeep (.redeliver event header) ∧
        ∃ row ∈ before, row.id = event.remittanceId ∧ row.status ≠ .pending ∧
          row.pendingDate = later.pendingDate := by
  intro later stored waits
  cases change with
  | same => exact .inl ⟨later, stored, waits, rfl⟩
  | written =>
    cases stored
    exact .inr (.inl ⟨rfl, _, _, _, rfl⟩)
  | acknowledged read =>
    cases stored
    exact absurd waits (StatusFeedback.toUpdate_final read).2.2
  | @rescheduled event header _ row own =>
    cases stored
    by_cases waited : row.status = .pending
    · exact .inl ⟨row, rfl, waited, rfl⟩
    · exact .inr (.inr ⟨event, header, rfl, row, rfl, own, waited, rfl⟩)
  | givenUp =>
    cases stored
    cases waits
  | @reset _ row =>
    cases stored
    exact .inl ⟨row, rfl, waits, rfl⟩
  | removed => cases stored

namespace World

variable {w : World (Memory α) α} {key : RemittanceKey} {date cutoff : Instant}
  {operations : List (Operation α)} {operation : Operation α}

/-- The row of a key is pending, and stays so through all of the operations. -/
def PendingThrough (w : World (Memory α) α) (key : RemittanceKey)
    (operations : List (Operation α)) : Prop :=
  ∀ passed, passed <+: operations →
    ∃ row ∈ (w.run passed).storage.rows.get? key, row.status = .pending

theorem PendingThrough.nil {row : Remittance α} (stored : row ∈ w.storage.rows.get? key)
    (waits : row.status = .pending) : w.PendingThrough key [] := by
  intro passed start
  rw [List.prefix_nil.mp start]
  exact ⟨row, stored, waits⟩

theorem PendingThrough.snoc (through : w.PendingThrough key operations) {row : Remittance α}
    (stored : row ∈ (w.run (operations ++ [operation])).storage.rows.get? key)
    (waits : row.status = .pending) : w.PendingThrough key (operations ++ [operation]) := by
  intro passed start
  rcases List.prefix_concat_iff.mp start with rfl | earlier
  · exact ⟨row, stored, waits⟩
  · exact through passed earlier

/-- How the row of a key came to be pending with its date: at that moment, or by a dead letter
later on. It is pending ever since. -/
inductive PendingSince (w : World (Memory α) α) (key : RemittanceKey) (date : Instant) :
    List (Operation α) → Prop
  | emitted {early late : List (Operation α)} (clock : (w.run early).now = date)
      (through : (w.run early).PendingThrough key late) : PendingSince w key date (early ++ late)
  | deadLetter {early late : List (Operation α)} {event : BillingEvent α} {header : Option String}
      {row : Remittance α} (stored : row ∈ (w.run early).storage.rows.get? key)
      (own : row.id = event.remittanceId) (settled : row.status ≠ .pending)
      (dated : row.pendingDate = date)
      (through :
        ((w.run early).after (.upkeep (.redeliver event header))).PendingThrough key late) :
      PendingSince w key date (early ++ .upkeep (.redeliver event header) :: late)

theorem PendingSince.snoc (since : w.PendingSince key date operations) {row : Remittance α}
    (stored : row ∈ (w.run (operations ++ [operation])).storage.rows.get? key)
    (waits : row.status = .pending) : w.PendingSince key date (operations ++ [operation]) := by
  cases since with
  | @emitted early late clock through =>
    rw [List.append_assoc] at stored ⊢
    rw [run_append] at stored
    exact .emitted clock (through.snoc stored waits)
  | @deadLetter early late event header before present own settled dated through =>
    rw [List.append_assoc, List.cons_append] at stored ⊢
    rw [run_append] at stored
    exact .deadLetter present own settled dated (through.snoc stored waits)

theorem pending_since (start : World (Memory α) α) (operations : List (Operation α))
    (key : RemittanceKey) :
    ∀ row ∈ (start.withoutRows.run operations).storage.rows.get? key, row.status = .pending →
      start.withoutRows.PendingSince key row.pendingDate operations := by
  induction operations using List.reverseRecOn with
  | nil =>
    intro row stored
    cases stored
  | append_singleton operations operation ih =>
    intro row stored waits
    have last := stored
    rw [run_append] at last
    have change := row_change operation (single_run (w := start) operations key)
    rcases change.pending row last waits with
      ⟨before, present, waited, dated⟩ | ⟨dated, usage, unit, coverage, rfl⟩ |
      ⟨event, header, rfl, before, present, own, settled, dated⟩
    · rw [← dated]
      exact (ih before present waited).snoc stored waits
    · have clock : (start.withoutRows.run (operations ++ [.observe usage unit coverage])).now =
          row.pendingDate := by
        rw [run_append, dated]
        exact now_after_observe ..
      have since := PendingSince.emitted clock (.nil stored waits)
      rwa [List.append_nil] at since
    · exact .deadLetter present own settled dated (.nil last waits)

theorem PendingSince.or_reopened (since : w.PendingSince key date operations)
    (early : date < cutoff) :
    (∃ before later, operations = before ++ later ∧ (w.run before).now < cutoff ∧
      (w.run before).PendingThrough key later) ∨
    ∃ before event header later, operations = before ++ .upkeep (.redeliver event header) :: later ∧
      cutoff ≤ (w.run before).now ∧
      (∃ row ∈ (w.run before).storage.rows.get? key,
        row.id = event.remittanceId ∧ row.status ≠ .pending ∧ row.pendingDate < cutoff) ∧
      ((w.run before).after (.upkeep (.redeliver event header))).PendingThrough key later := by
  cases since with
  | @emitted before later clock through => exact .inl ⟨before, later, rfl, clock ▸ early, through⟩
  | @deadLetter before later event header row stored own settled dated through =>
    by_cases recent : cutoff ≤ (w.run before).now
    · exact .inr ⟨before, event, header, later, rfl, recent,
        ⟨row, stored, own, settled, dated ▸ early⟩, through⟩
    · -- the dead letter itself came before the cutoff
      refine .inl ⟨before ++ [.upkeep (.redeliver event header)], later, by simp, ?_, ?_⟩
      · rw [run_append]
        change ((w.run before).after (.upkeep (.redeliver event header))).now < cutoff
        rw [now_after_upkeep]
        simp only [Instant.le_iff, Instant.lt_iff] at recent ⊢
        omega
      · rw [run_append]
        exact through

/-- From a storage without rows, after any operations: giving up fails the rows that are pending and
dated before the cutoff. Each of them has been pending since a moment before the cutoff, or else was
settled then, and a dead letter has put it back to pending since without a new date. -/
theorem stuck_rows_given_up (start : World (Memory α) α) (operations : List (Operation α))
    (cutoff : Instant) (key : RemittanceKey) :
    let begun := start.withoutRows
    let w := begun.run operations
    ∀ row ∈ w.storage.rows.get? key,
      (w.after (.upkeep (.giveUp cutoff))).storage.rows.get? key =
        some (if RowTable.isStuck cutoff row then RowTable.giveUp w.now row else row) ∧
      (RowTable.isStuck cutoff row = true →
        (∃ before later, operations = before ++ later ∧ (begun.run before).now < cutoff ∧
          (begun.run before).PendingThrough key later) ∨
        ∃ before event header later,
          operations = before ++ .upkeep (.redeliver event header) :: later ∧
          cutoff ≤ (begun.run before).now ∧
          (∃ row ∈ (begun.run before).storage.rows.get? key,
            row.id = event.remittanceId ∧ row.status ≠ .pending ∧ row.pendingDate < cutoff) ∧
          ((begun.run before).after (.upkeep (.redeliver event header))).PendingThrough
            key later) := by
  intro begun w row stored
  constructor
  · rw [after_upkeep, Upkeep.effect, RowTable.get?_modify, Option.mem_def.mp stored]
    rfl
  · intro stuck
    obtain ⟨waits, early⟩ := RowTable.isStuck_iff.mp stuck
    exact (pending_since start operations key row stored waits).or_reopened early

/-- Hours that were emitted and acknowledged, 30 hours after that. -/
def longAcknowledged : World (Memory ℚ) ℚ :=
  opening.run [.observe (hoursRun 4) ⟨some "hours", 1⟩ none,
    .upkeep (.acknowledge ⟨[⟨1⟩], ⟨7⟩, .succeeded, none, none⟩), .clock ⟨108000, 0⟩]

/-- A row that a dead letter has put back a moment ago is failed as stuck for a day. -/
theorem reopened_row_given_up :
    let reopened := longAcknowledged.after hoursRefused
    let cutoff : Instant := ⟨108000 - 86400, 0⟩
    let status (w : World (Memory ℚ) ℚ) :=
      (w.storage.rows.get? (hoursRun 4).key).map (·.status)
    status longAcknowledged = some .succeeded ∧ longAcknowledged.now = ⟨108000, 0⟩ ∧
      status reopened = some .pending ∧ reopened.now = ⟨108000, 0⟩ ∧
      status (reopened.after (.upkeep (.giveUp cutoff))) = some .failed := by
  decide +kernel

end World
end MeteredBilling
