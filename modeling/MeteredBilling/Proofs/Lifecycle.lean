import MeteredBilling.Proofs.Changes

/-!
# The life of a row

What the state of a row tells of its error, its bill and its retry after any operations, and the
moves between states that no operation makes.
-/

namespace MeteredBilling

open Calendar

/-- What feedback that is taken writes to the rows. -/
theorem StatusFeedback.toUpdate_cases {feedback : StatusFeedback} {now : Instant}
    {update : StatusUpdate} (read : feedback.toUpdate now = .ok update) :
    (feedback.status = .succeeded ∧
      update = ⟨feedback.tallyId, .succeeded, none, some (feedback.billedOn.getD now)⟩) ∨
    (feedback.status = .failed ∧
      update = ⟨feedback.tallyId, .failed, some (feedback.errorCode.getD .unknown), none⟩) := by
  rw [toUpdate] at read
  split at read
  · rename_i succeeded
    exact .inl ⟨succeeded, (Except.ok.inj read).symm⟩
  · rename_i failed
    exact .inr ⟨failed, (Except.ok.inj read).symm⟩
  · cases read

theorem StatusFeedback.toUpdate_final {feedback : StatusFeedback} {now : Instant}
    {update : StatusUpdate} (read : feedback.toUpdate now = .ok update) :
    (feedback.status = .succeeded ∨ feedback.status = .failed) ∧
      update.tallyId = feedback.tallyId ∧ update.status ≠ .pending := by
  obtain ⟨succeeded, rfl⟩ | ⟨failed, rfl⟩ := toUpdate_cases read
  · exact ⟨.inl succeeded, rfl, by simp⟩
  · exact ⟨.inr failed, rfl, by simp⟩

variable {α : Type}

/-- The error, the date of the bill and the retry are what the state of the row allows. -/
def Remittance.Coherent (row : Remittance α) : Prop :=
  match row.status with
  | .pending => row.errorCode = none ∧ row.billedOn = none
  | .succeeded => row.errorCode = none ∧ row.billedOn.isSome = true
  | .failed => row.errorCode.isSome = true ∧ row.billedOn = none
  | .gratis => row.errorCode = none ∧ row.billedOn = none ∧ row.retryAfter = none

namespace RowChange

variable [Amount α] {operation : Operation α} {now : Instant} {fresh : Uuid} {key : RemittanceKey}
  {before after : Option (Remittance α)}

theorem coherent (change : RowChange now fresh key operation before after)
    (holds : ∀ row ∈ before, row.Coherent) : ∀ row ∈ after, row.Coherent := by
  cases change with
  | same => exact holds
  | @written _ _ _ _ calculation =>
    rintro _ ⟨⟩
    cases free : calculation.gratis with
    | true => simp [Remittance.Coherent, Decision.nextRow, free]
    | false => simp [Remittance.Coherent, Decision.nextRow, free]
  | acknowledged read =>
    rintro _ ⟨⟩
    obtain ⟨_, rfl⟩ | ⟨_, rfl⟩ := StatusFeedback.toUpdate_cases read
    · exact ⟨rfl, rfl⟩
    · exact ⟨rfl, rfl⟩
  | rescheduled =>
    rintro _ ⟨⟩
    exact ⟨rfl, rfl⟩
  | @givenUp _ row stuck =>
    rintro _ ⟨⟩
    -- Giving up does not look at the bill: a pending row has none.
    have waiting := holds row rfl
    rw [Remittance.Coherent, (RowTable.isStuck_iff.mp stuck).1] at waiting
    exact ⟨rfl, waiting.2⟩
  | @reset _ row =>
    rintro _ ⟨⟩
    exact holds row rfl
  | removed =>
    rintro _ ⟨⟩

/-- Only a pending row is settled: any other row keeps its state or is emitted anew. -/
theorem status (change : RowChange now fresh key operation before after) :
    ∀ row ∈ before, ∀ later ∈ after, row.status = .pending ∨ later.status = row.status ∨
      later.status = .pending ∨ later.status = .gratis := by
  cases change with
  | same =>
    intro row present later stored
    exact .inr (.inl (congrArg _ (Option.mem_unique stored present)))
  | @written _ _ _ _ calculation =>
    rintro row - _ ⟨⟩
    cases free : calculation.gratis with
    | true => exact .inr (.inr (.inr (by simp [Decision.nextRow, free])))
    | false => exact .inr (.inr (.inl (by simp [Decision.nextRow, free])))
  | acknowledged _ awaits =>
    rintro _ ⟨⟩ _ -
    exact .inl (RowTable.awaits_iff.mp awaits).2.2
  | rescheduled =>
    rintro _ - _ ⟨⟩
    exact .inr (.inr (.inl rfl))
  | givenUp stuck =>
    rintro _ ⟨⟩ _ -
    exact .inl (RowTable.isStuck_iff.mp stuck).1
  | reset =>
    rintro _ ⟨⟩ _ ⟨⟩
    exact .inr (.inl rfl)
  | removed =>
    rintro _ - _ ⟨⟩

end RowChange

variable [Amount α]

theorem coherent_run (start : World (Memory α) α) (operations : List (Operation α))
    (key : RemittanceKey) :
    ∀ row ∈ (start.withoutRows.run operations).storage.rows.get? key, row.Coherent := by
  have keeps : ∀ (w : World (Memory α) α) operation,
      (w.storage.rows.Single key ∧ ∀ row ∈ w.storage.rows.get? key, row.Coherent) →
        (w.after operation).storage.rows.Single key ∧
          ∀ row ∈ (w.after operation).storage.rows.get? key, row.Coherent :=
    fun w operation ⟨single, holds⟩ =>
      ⟨World.single_after operation single, (World.row_change operation single).coherent holds⟩
  have holds : start.withoutRows.storage.rows.Single key ∧
      ∀ row ∈ start.withoutRows.storage.rows.get? key, row.Coherent :=
    ⟨RowTable.single_of_absent rfl, fun row present => nomatch present⟩
  exact (World.run_keeps keeps holds operations).2

/-- After any operations from a storage without rows, every row is coherent with its state, and one
more operation moves no row between success and failure, nor a gratis row to one of them. -/
theorem row_lifecycle (start : World (Memory α) α) (operations : List (Operation α)) :
    let w := start.withoutRows.run operations
    (∀ row ∈ w.storage.rows.rows, row.Coherent) ∧
      ∀ operation key, ∀ row ∈ w.storage.rows.get? key,
        ∀ later ∈ (w.after operation).storage.rows.get? key,
          (row.status = .succeeded → later.status ≠ .failed) ∧
          (row.status = .failed → later.status ≠ .succeeded) ∧
          (row.status = .gratis → later.status ≠ .succeeded ∧ later.status ≠ .failed) := by
  intro w
  have single : ∀ key, w.storage.rows.Single key := World.single_run operations
  constructor
  · intro row member
    obtain ⟨key, present⟩ := RowTable.mem_rows single member
    exact coherent_run start operations key row present
  · intro operation key row present later stored
    have moves := (World.row_change operation (single key)).status row present later stored
    refine ⟨fun succeeded => ?_, fun failed => ?_, fun gratis => ?_⟩
    · rw [succeeded] at moves
      rcases moves with never | same | pending | gratis <;> simp_all
    · rw [failed] at moves
      rcases moves with never | same | pending | gratis <;> simp_all
    · rw [gratis] at moves
      rcases moves with never | same | pending | gratis <;> simp_all

end MeteredBilling
