import MeteredBilling.Proofs.Acknowledgement

/-!
# Dead letters

A dead letter puts the row of its remittance back to pending and its event back on the way, also
when the row was settled or rewritten since the event went out. Feedback on that event then leaves
the row pending.
-/

namespace MeteredBilling

open Calendar

variable {α : Type}

namespace RowTable

variable {t : RowTable α} {key : RemittanceKey} {row : Remittance α}

theorem row_mem (stored : t.get? key = some row) : row ∈ t.rows := by
  obtain ⟨front, rest, parts, _⟩ := List.lookup_eq_some_iff.mp stored
  rw [rows, parts, List.map_append, List.map_cons]
  exact List.mem_append_right _ List.mem_cons_self

/-- Of the rows with the identifier the first one is changed, and no other row. -/
def ChangesFirst (t t' : RowTable α) (id : Uuid) (change : Remittance α → Remittance α) : Prop :=
  ∃ front key row rest, t.entries = front ++ (key, row) :: rest ∧
    (∀ entry ∈ front, entry.2.id ≠ id) ∧ row.id = id ∧
    t'.entries = front ++ (key, change row) :: rest

theorem changesFirst_modifyFirst {id : Uuid} (change : Remittance α → Remittance α)
    (stored : ∃ row ∈ t.rows, row.id = id) :
    t.ChangesFirst (t.modifyFirst (·.id == id) change) id change := by
  have selected : ∃ row ∈ t.rows, (row.id == id) = true := by simpa using stored
  obtain ⟨front, key, row, rest, parts, passed, own, changed⟩ :=
    modifyFirst_parts change selected
  exact ⟨front, key, row, rest, parts, by simpa using passed, beq_iff_eq.mp own, changed⟩

end RowTable

namespace Memory

variable (m : Memory α) (id : Uuid) (moment : Instant) (republish : Option (Outbound α))
  (now : Instant)

theorem markRetry_gone (gone : ∀ row ∈ m.rows.rows, row.id ≠ id) :
    m.markRetry id moment republish now = (none, m) := by
  have missing : m.rows.rows.find? (·.id == id) = none := by
    rw [List.find?_eq_none]
    intro row member
    simpa using gone row member
  rw [markRetry, missing]

theorem markRetry_stored (stored : ∃ row ∈ m.rows.rows, row.id = id) :
    (m.markRetry id moment republish now).2 =
      ⟨m.rows.modifyFirst (·.id == id) (RowTable.reschedule moment now),
        m.queue.publish? republish now⟩ := by
  obtain ⟨row, member, own⟩ := stored
  unfold markRetry
  cases found : m.rows.rows.find? (·.id == id) with
  | none => exact absurd own (by simpa using List.find?_eq_none.mp found row member)
  | some row => rfl

theorem rows_markRetry (unique : (m.rows.rows.map (·.id)).Nodup) (key : RemittanceKey) :
    (m.markRetry id moment republish now).2.rows.get? key = (m.rows.get? key).map fun row =>
      if row.id = id then RowTable.reschedule moment now row else row := by
  by_cases stored : ∃ row ∈ m.rows.rows, row.id = id
  · rw [markRetry_stored m id moment republish now stored]
    simp only [RowTable.modifyFirst_eq_modify (RowTable.count_id_le unique id),
      RowTable.get?_modify, beq_iff_eq]
  · have gone : ∀ row ∈ m.rows.rows, row.id ≠ id := by simpa using stored
    rw [markRetry_gone m id moment republish now gone]
    cases found : m.rows.get? key with
    | none => rfl
    | some row => rw [Option.map_some, if_neg (gone row (RowTable.row_mem found))]

theorem queue_markRetry :
    (m.markRetry id moment republish now).2.queue =
      if ∃ row ∈ m.rows.rows, row.id = id then m.queue.publish? republish now else m.queue := by
  by_cases stored : ∃ row ∈ m.rows.rows, row.id = id
  · rw [markRetry_stored m id moment republish now stored, if_pos stored]
  · rw [markRetry_gone m id moment republish now (by simpa using stored), if_neg stored]

end Memory

variable [Amount α]

/-- In any world, a dead letter that names a moment puts a row of its remittance back to pending,
whatever its state and its tally, and enqueues its event once more if there is such a row. Where
identifiers are unique, this is all that becomes of the rows. Feedback on a tally, that of the event
too, leaves the rows of all other tallies as they are. -/
theorem dead_letter_reopens (w : World (Memory α) α) (event : BillingEvent α)
    (header : Option String) :
    let left := w.after (.upkeep (.redeliver event header))
    match DeadLetter.retryAfter event.remittanceId header with
    | .error _ => left.storage = w.storage
    | .ok moment =>
      ((∃ row ∈ w.storage.rows.rows, row.id = event.remittanceId) →
        w.storage.rows.ChangesFirst left.storage.rows event.remittanceId
          (RowTable.reschedule moment w.now)) ∧
      ((∀ row ∈ w.storage.rows.rows, row.id ≠ event.remittanceId) → left.storage = w.storage) ∧
      ((w.storage.rows.rows.map (·.id)).Nodup → ∀ key,
        left.storage.rows.get? key = (w.storage.rows.get? key).map fun row =>
          if row.id = event.remittanceId then RowTable.reschedule moment w.now row else row) ∧
      left.storage.queue = (if ∃ row ∈ w.storage.rows.rows, row.id = event.remittanceId then
        w.storage.queue.publish (event.toMessage.deliverAt moment) w.now else w.storage.queue) ∧
      ∀ key, ∀ row ∈ left.storage.rows.get? key, ∀ feedback : StatusFeedback,
        row.tallyId ≠ feedback.tallyId →
          (left.after (.upkeep (.acknowledge feedback))).storage.rows.get? key = some row := by
  intro left
  have effect : left.storage = (Upkeep.redeliver event header).effect w.storage w.now :=
    World.after_upkeep w _
  cases read : DeadLetter.retryAfter event.remittanceId header with
  | error e => simpa [Upkeep.effect, read] using effect
  | ok moment =>
    simp only [Upkeep.effect, read] at effect
    refine ⟨fun stored => ?_, fun gone => ?_, fun unique key => ?_, ?_,
      fun key row stored feedback other => ?_⟩
    · rw [effect, Memory.markRetry_stored _ _ _ _ _ stored]
      exact RowTable.changesFirst_modifyFirst _ stored
    · rw [effect, Memory.markRetry_gone _ _ _ _ _ gone]
    · rw [effect]
      exact Memory.rows_markRetry _ _ _ _ _ unique key
    · rw [effect]
      exact Memory.queue_markRetry ..
    · rw [World.after_upkeep, Upkeep.effect_acknowledge, RowTable.get?_modify,
        Option.mem_def.mp stored, Option.map_some, if_pos rfl,
        StatusFeedback.settle_other other]

/-! ### A row that was rewritten -/

/-- Hours that were emitted, observed anew by another tally, and acknowledged for that. -/
def hoursRewritten : World (Memory ℚ) ℚ :=
  opening.run [.observe (hoursRun 4) ⟨some "hours", 1⟩ none,
    .observe { hoursRun 9 with tallyId := ⟨8⟩ } ⟨some "hours", 1⟩ none,
    .upkeep (.acknowledge ⟨[⟨1⟩], ⟨8⟩, .succeeded, none, none⟩)]

/-- The event of the hours that were emitted first. -/
def firstHours : BillingEvent ℚ := ⟨⟨1⟩, (hoursRun 4).key, none, 4, 1, ⟨7⟩, ⟨0, 0⟩⟩

/-- A dead letter of it. -/
def hoursRefused : Operation ℚ := .upkeep (.redeliver firstHours (some "1970-01-03T00:00:00Z"))

/-- Feedback on the event comes too late. -/
theorem dead_letter_reopens_rewritten :
    let left := hoursRewritten.after hoursRefused
    (hoursRewritten.storage.rows.rows.map (·.id)).Nodup ∧
      ∃ row ∈ hoursRewritten.storage.rows.get? (hoursRun 4).key,
        row.status = .succeeded ∧ row.id = firstHours.remittanceId ∧
        row.tallyId ≠ firstHours.tallyId ∧
        let pending := RowTable.reschedule ⟨172800, 0⟩ hoursRewritten.now row
        left.storage.rows.get? (hoursRun 4).key = some pending ∧
        ∀ feedback : StatusFeedback, feedback.tallyId = firstHours.tallyId →
          (left.after (.upkeep (.acknowledge feedback))).storage.rows.get? (hoursRun 4).key =
            some pending := by
  intro left
  have unique : (hoursRewritten.storage.rows.rows.map (·.id)).Nodup := by decide +kernel
  have settled : (hoursRewritten.storage.rows.get? (hoursRun 4).key).map (fun row =>
      (row.id, row.tallyId, row.status)) = some (firstHours.remittanceId, ⟨8⟩, .succeeded) := by
    decide +kernel
  have read : DeadLetter.retryAfter firstHours.remittanceId (some "1970-01-03T00:00:00Z") =
      .ok ⟨172800, 0⟩ := by decide +kernel
  obtain ⟨row, stored, seen⟩ := Option.map_eq_some_iff.mp settled
  obtain ⟨own, tally, status⟩ : row.id = firstHours.remittanceId ∧ row.tallyId = ⟨8⟩ ∧
      row.status = .succeeded := by
    simpa using seen
  have reopens := dead_letter_reopens hoursRewritten firstHours (some "1970-01-03T00:00:00Z")
  simp only [read] at reopens
  obtain ⟨_, _, rows, _, untouched⟩ := reopens
  have back := rows unique (hoursRun 4).key
  rw [stored, Option.map_some, if_pos own] at back
  have other : row.tallyId ≠ firstHours.tallyId := by
    rw [tally]
    decide
  refine ⟨unique, row, stored, status, own, other, back, fun feedback late => ?_⟩
  exact untouched _ _ back feedback (late ▸ other)

theorem settled_row_reopened :
    let row (w : World (Memory ℚ) ℚ) :=
      (w.storage.rows.get? (hoursRun 4).key).map fun row => (row.id, row.tallyId, row.status)
    let messages (w : World (Memory ℚ) ℚ) := w.storage.queue.messages.length
    row hoursRewritten = some (⟨1⟩, ⟨8⟩, .succeeded) ∧ messages hoursRewritten = 2 ∧
      row (hoursRewritten.after hoursRefused) = some (⟨1⟩, ⟨8⟩, .pending) ∧
      messages (hoursRewritten.after hoursRefused) = 3 := by
  decide +kernel

end MeteredBilling
