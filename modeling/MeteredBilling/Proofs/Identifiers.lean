import MeteredBilling.Proofs.Changes
import MeteredBilling.Proofs.Reopening

/-!
# Identifiers of rows

The ledger finds a row by its key, feedback and dead letters find it by its identifier. As long as
no fresh identifier repeats both find the same row, and the identifier of a row that is deleted
finds nothing any more.
-/

namespace MeteredBilling

open Calendar Engine

variable {α : Type} [Amount α]

namespace RowChange

variable {operation : Operation α} {now : Instant} {fresh : Uuid} {key : RemittanceKey}
  {before after : Option (Remittance α)}

theorem own_key (change : RowChange now fresh key operation before after)
    (own : ∀ row ∈ before, row.key = key) : ∀ later ∈ after, later.key = key := by
  intro later stored
  cases change with
  | same => exact own later stored
  | written observed =>
    cases stored
    exact observed
  | @acknowledged _ _ row | @rescheduled _ _ _ row | @givenUp _ row | @reset _ row =>
    cases stored
    exact own row rfl
  | removed => cases stored

/-- A row keeps its identifier, unless it is created by an observation of its key. -/
theorem identifier (change : RowChange now fresh key operation before after) :
    ∀ later ∈ after, (∃ row ∈ before, later.id = row.id) ∨
      before = none ∧ later.id = fresh ∧ ∃ usage unit coverage,
        operation = .observe usage unit coverage ∧ usage.key = key := by
  intro later stored
  cases change with
  | same => exact .inl ⟨later, stored, rfl⟩
  | written own =>
    cases stored
    cases before with
    | none => exact .inr ⟨rfl, rfl, _, _, _, rfl, own⟩
    | some row => exact .inl ⟨row, rfl, rfl⟩
  | @acknowledged _ _ row | @rescheduled _ _ _ row | @givenUp _ row | @reset _ row =>
    cases stored
    exact .inl ⟨row, rfl, rfl⟩
  | removed => cases stored

end RowChange

/-- The feedback without one of the rows that it lists. -/
def StatusFeedback.without (feedback : StatusFeedback) (id : Uuid) : StatusFeedback :=
  { feedback with remittanceIds := feedback.remittanceIds.filter (· ≠ id) }

namespace World

variable {w : World (Memory α) α} {key : RemittanceKey}

/-! ### Fresh identifiers -/

/-- The identifiers given out after the first count, up to the last, all differ. -/
def NeverRepeats (mint : Nat → Uuid) (first last : Nat) : Prop :=
  ∀ i j, first < i → i < j → j ≤ last → mint i ≠ mint j

theorem mint_after (w : World (Memory α) α) (operation : Operation α) :
    (w.after operation).mint = w.mint := by
  cases operation with
  | observe usage unit coverage =>
    rw [after_observe]
    split <;> rfl
  | upkeep u =>
    obtain ⟨result, notices, ran⟩ := u.exec_perform w
    rw [after, Operation.perform, ran]
    rfl
  | clock moment => rfl

theorem minted_after (w : World (Memory α) α) (operation : Operation α) :
    w.minted ≤ (w.after operation).minted := by
  cases operation with
  | observe usage unit coverage =>
    rw [after_observe]
    split
    · simp only [Memory.mintedAfter]
      split <;> omega
    · exact Nat.le_refl _
  | upkeep u =>
    obtain ⟨result, notices, ran⟩ := u.exec_perform w
    rw [after, Operation.perform, ran]
    exact Nat.le_refl _
  | clock moment => exact Nat.le_refl _

/-- A row that is created takes a fresh identifier. -/
theorem minted_of_created {usage : Usage α} {unit : MeasureUnit α} {coverage : Option (Coverage α)}
    (absent : w.storage.rows.get? usage.key = none)
    (stored : (w.after (.observe usage unit coverage)).storage.rows.get? usage.key ≠ none) :
    (w.after (.observe usage unit coverage)).minted = w.minted + 1 := by
  rw [after_observe] at stored ⊢
  split
  · rename_i taken decided
    cases taken with
    | keep calculation =>
      rw [decided] at stored
      exact absurd absent stored
    | write calculation row event =>
      simp [Memory.mintedAfter, Decision.takesIdentifier, absent]
  · rename_i decided
    rw [decided] at stored
    exact absurd absent stored

/-- A row keeps its identifier, or it is created and takes the next one. -/
theorem kept_or_created {operation : Operation α} (single : w.storage.rows.Single key) :
    ∀ row ∈ (w.after operation).storage.rows.get? key,
      (∃ prior ∈ w.storage.rows.get? key, row.id = prior.id) ∨
      row.id = w.mint (w.minted + 1) ∧ (w.after operation).minted = w.minted + 1 ∧
        ∃ usage unit coverage, operation = .observe usage unit coverage ∧ usage.key = key := by
  intro row stored
  rcases (row_change operation single).identifier row stored with kept |
    ⟨absent, fresh, usage, unit, coverage, rfl, rfl⟩
  · exact .inl kept
  · have created : (w.after (.observe usage unit coverage)).storage.rows.get? usage.key ≠ none := by
      rw [stored]
      exact Option.some_ne_none row
    exact .inr ⟨fresh, minted_of_created absent created, usage, unit, coverage, rfl, rfl⟩

/-! ### Rows with identifiers -/

/-- The identifier was given out since a first count. -/
def Drawn (first : Nat) (w : World (Memory α) α) (id : Uuid) : Prop :=
  ∃ n, first < n ∧ n ≤ w.minted ∧ id = w.mint n

/-- The rows of a world have the keys that they are stored under, and identifiers that were given
out since a first count, no two of them the same. -/
structure Identified (first : Nat) (w : World (Memory α) α) : Prop where
  since : first ≤ w.minted
  single : ∀ key, w.storage.rows.Single key
  own : ∀ key, ∀ row ∈ w.storage.rows.get? key, row.key = key
  drawn : ∀ key, ∀ row ∈ w.storage.rows.get? key, w.Drawn first row.id
  distinct : ∀ key key', ∀ row ∈ w.storage.rows.get? key, ∀ row' ∈ w.storage.rows.get? key',
    row.id = row'.id → key = key'

omit [Amount α] in
theorem Identified.nodup {first : Nat} (identified : w.Identified first) :
    (w.storage.rows.rows.map (·.id)).Nodup := by
  have keys : (w.storage.rows.entries.map (·.1)).Nodup :=
    List.nodup_iff_count_le_one.mpr identified.single
  rw [RowTable.rows, List.map_map]
  refine List.Nodup.map_on (fun entry listed entry' listed' same => ?_) keys.of_map
  have stored := RowTable.get?_of_mem (identified.single entry.1) listed
  have stored' := RowTable.get?_of_mem (identified.single entry'.1) listed'
  have key := identified.distinct entry.1 entry'.1 entry.2 stored entry'.2 stored' same
  rw [key] at stored
  exact Prod.ext key (Option.mem_unique stored stored')

/-- The identifier was given out since a first count, and no row has it. -/
structure Spent (first : Nat) (w : World (Memory α) α) (id : Uuid) : Prop where
  drawn : w.Drawn first id
  unused : ∀ key, ∀ row ∈ w.storage.rows.get? key, row.id ≠ id

section Step

variable {first : Nat} {operation : Operation α} {id : Uuid}

theorem Drawn.after (drawn : w.Drawn first id) : (w.after operation).Drawn first id := by
  obtain ⟨n, above, below, rfl⟩ := drawn
  exact ⟨n, above, below.trans (w.minted_after operation), by rw [mint_after]⟩

omit [Amount α] in
theorem Drawn.ne_fresh (drawn : w.Drawn first id)
    (never : NeverRepeats w.mint first (w.minted + 1)) : id ≠ w.mint (w.minted + 1) := by
  obtain ⟨n, above, below, rfl⟩ := drawn
  exact never n (w.minted + 1) above (by omega) (Nat.le_refl _)

theorem Identified.after (identified : w.Identified first)
    (never : NeverRepeats w.mint first (w.after operation).minted) :
    (w.after operation).Identified first where
  since := identified.since.trans (w.minted_after operation)
  single key := single_after operation (identified.single key)
  own key := (row_change operation (identified.single key)).own_key (identified.own key)
  drawn key row stored := by
    rcases kept_or_created (identified.single key) row stored with
      ⟨prior, present, same⟩ | ⟨fresh, count, _⟩
    · exact same ▸ (identified.drawn key prior present).after
    · have above := identified.since
      exact ⟨w.minted + 1, by omega, by omega, by rw [fresh, mint_after]⟩
  distinct key key' row stored row' stored' same := by
    rcases kept_or_created (identified.single key) row stored with
        ⟨prior, present, id⟩ | ⟨id, count, usage, _, _, observed, own⟩ <;>
      rcases kept_or_created (identified.single key') row' stored' with
        ⟨prior', present', id'⟩ | ⟨id', count', usage', _, _, observed', own'⟩
    · exact identified.distinct key key' prior present prior' present' (by rw [← id, same, id'])
    · rw [count'] at never
      exact absurd (by rw [← id, same, id']) ((identified.drawn key prior present).ne_fresh never)
    · rw [count] at never
      exact absurd (by rw [← id', ← same, id])
        ((identified.drawn key' prior' present').ne_fresh never)
    · cases observed.symm.trans observed'
      exact own.symm.trans own'

theorem Spent.after (spent : w.Spent first id) (identified : w.Identified first)
    (never : NeverRepeats w.mint first (w.after operation).minted) :
    (w.after operation).Spent first id where
  drawn := spent.drawn.after
  unused key row stored := by
    rcases kept_or_created (identified.single key) row stored with
      ⟨prior, present, same⟩ | ⟨fresh, count, _⟩
    · exact same ▸ spent.unused key prior present
    · rw [count] at never
      exact fresh ▸ (spent.drawn.ne_fresh never).symm

/-- An operation that deletes a row spends its identifier. -/
theorem Identified.spent_of_deleted (identified : w.Identified first)
    (never : NeverRepeats w.mint first (w.after operation).minted) {row : Remittance α}
    (stored : row ∈ w.storage.rows.get? key)
    (deleted : (w.after operation).storage.rows.get? key = none) :
    (w.after operation).Spent first row.id where
  drawn := (identified.drawn key row stored).after
  unused key' row' stored' same := by
    rcases kept_or_created (identified.single key') row' stored' with
      ⟨prior, present, id⟩ | ⟨fresh, count, _⟩
    · obtain rfl := identified.distinct key key' row stored prior present (by rw [← same, id])
      rw [deleted] at stored'
      cases stored'
    · rw [count] at never
      exact (identified.drawn key row stored).ne_fresh never (by rw [← same, fresh])

end Step

/-! ### Runs -/

section Run

variable {first : Nat} {operations : List (Operation α)} {id : Uuid}

theorem minted_run (w : World (Memory α) α) (operations : List (Operation α)) :
    w.minted ≤ (w.run operations).minted := by
  induction operations generalizing w with
  | nil => exact Nat.le_refl _
  | cons operation rest ih => exact (w.minted_after operation).trans (ih (w.after operation))

theorem mint_run (w : World (Memory α) α) (operations : List (Operation α)) :
    (w.run operations).mint = w.mint := by
  induction operations generalizing w with
  | nil => rfl
  | cons operation rest ih => exact (ih (w.after operation)).trans (w.mint_after operation)

omit [Amount α] in
theorem NeverRepeats.mono {mint : Nat → Uuid} {last last' : Nat}
    (never : NeverRepeats mint first last) (le : last' ≤ last) : NeverRepeats mint first last' :=
  fun i j above less below => never i j above less (below.trans le)

theorem Identified.run (identified : w.Identified first)
    (never : NeverRepeats w.mint first (w.run operations).minted) :
    (w.run operations).Identified first := by
  induction operations generalizing w with
  | nil => exact identified
  | cons operation rest ih =>
    have step := identified.after (never.mono (minted_run (w.after operation) rest))
    exact ih step (by rwa [mint_after])

theorem Spent.run (spent : w.Spent first id) (identified : w.Identified first)
    (never : NeverRepeats w.mint first (w.run operations).minted) :
    (w.run operations).Spent first id := by
  induction operations generalizing w with
  | nil => exact spent
  | cons operation rest ih =>
    have now := never.mono (minted_run (w.after operation) rest)
    exact ih (spent.after identified now) (identified.after now) (by rwa [mint_after])

/-- At some point of a run a row with the identifier is deleted. -/
def Deleted (start : World (Memory α) α) (history : List (Operation α)) (id : Uuid) : Prop :=
  ∃ early operation late key, ∃ row ∈ (start.run early).storage.rows.get? key,
    history = early ++ operation :: late ∧ row.id = id ∧
      ((start.run early).after operation).storage.rows.get? key = none

theorem Deleted.spent (deleted : w.Deleted operations id) (identified : w.Identified first)
    (never : NeverRepeats w.mint first (w.run operations).minted) :
    (w.run operations).Spent first id := by
  obtain ⟨early, operation, late, key, row, stored, rfl, rfl, gone⟩ := deleted
  rw [run_append] at never ⊢
  have before : NeverRepeats (w.run early).mint first
      ((w.run early).run (operation :: late)).minted := by
    rwa [mint_run]
  have earlier := identified.run (never.mono (minted_run (w.run early) (operation :: late)))
  have moment := before.mono (minted_run ((w.run early).after operation) late)
  exact (earlier.spent_of_deleted moment stored gone).run (earlier.after moment)
    (by rwa [mint_after])

/-- Through all of the operations the key has a row. -/
def StoredThrough (w : World (Memory α) α) (key : RemittanceKey)
    (operations : List (Operation α)) : Prop :=
  ∀ passed, passed <+: operations → (w.run passed).storage.rows.get? key ≠ none

theorem StoredThrough.keeps (through : w.StoredThrough key operations)
    (single : w.storage.rows.Single key) {row : Remittance α}
    (stored : row ∈ w.storage.rows.get? key) (own : row.key = key) :
    ∃ later ∈ (w.run operations).storage.rows.get? key, later.id = row.id ∧ later.key = key := by
  induction operations generalizing w row with
  | nil => exact ⟨row, stored, rfl, own⟩
  | cons operation rest ih =>
    obtain ⟨next, present⟩ := Option.ne_none_iff_exists'.mp
      (through [operation] ⟨rest, rfl⟩)
    have through' : (w.after operation).StoredThrough key rest := fun passed start =>
      through (operation :: passed) (List.prefix_cons_inj operation |>.mpr start)
    have change := row_change operation single
    rcases change.identifier next present with ⟨prior, before, same⟩ | ⟨absent, _⟩
    · obtain rfl := Option.mem_unique stored before
      have owned : ∀ row ∈ w.storage.rows.get? key, row.key = key :=
        fun row listed => Option.mem_unique listed stored ▸ own
      obtain ⟨later, last, id, kept⟩ := ih through' (single_after operation single) present
        (change.own_key owned next present)
      exact ⟨later, last, id.trans same, kept⟩
    · rw [absent] at stored
      cases stored

end Run

/-! ### Feedback on a row that is gone -/

theorem redeliver_gone {event : BillingEvent α} (header : Option String)
    (gone : ∀ row ∈ w.storage.rows.rows, row.id ≠ event.remittanceId) :
    (w.after (.upkeep (.redeliver event header))).storage = w.storage := by
  rw [after_upkeep, Upkeep.effect]
  split
  · rw [Memory.markRetry_gone _ _ _ _ _ gone]
  · rfl

theorem acknowledge_gone {feedback : StatusFeedback}
    (gone : ∀ row ∈ w.storage.rows.rows, row.id ∉ feedback.remittanceIds) :
    (w.after (.upkeep (.acknowledge feedback))).storage = w.storage := by
  rw [after_upkeep, Upkeep.effect]
  split
  · rw [RowTable.modify_of_none]
    intro row member
    by_contra awaits
    exact gone row member (RowTable.awaits_iff.mp (by simpa using awaits)).1
  · rfl

omit [Amount α] in
theorem settle_without {feedback : StatusFeedback} {id : Uuid} {row : Remittance α}
    (other : row.id ≠ id) (moment : Instant) :
    (feedback.without id).settle moment row = feedback.settle moment row := by
  have awaits (update : StatusUpdate) :
      RowTable.awaits (feedback.without id).remittanceIds update row =
        RowTable.awaits feedback.remittanceIds update row := by
    rw [Bool.eq_iff_iff, RowTable.awaits_iff, RowTable.awaits_iff]
    simp [StatusFeedback.without, other]
  have read : (feedback.without id).toUpdate moment = feedback.toUpdate moment := rfl
  simp only [StatusFeedback.settle, read, awaits]

/-- An identifier that no row has makes no difference to feedback. -/
theorem acknowledge_without (feedback : StatusFeedback) {id : Uuid}
    (gone : ∀ row ∈ w.storage.rows.rows, row.id ≠ id) :
    (w.after (.upkeep (.acknowledge (feedback.without id)))).storage =
      (w.after (.upkeep (.acknowledge feedback))).storage := by
  have rows : w.storage.rows.modify (fun _ => true) ((feedback.without id).settle w.now) =
      w.storage.rows.modify (fun _ => true) (feedback.settle w.now) :=
    RowTable.modify_congr fun row member => by
      rw [settle_without (gone row member)]
  rw [after_upkeep, after_upkeep, Upkeep.effect_acknowledge, Upkeep.effect_acknowledge, rows]

end World

open World

/-- After any operations from a storage without rows, provided that the identifiers given out
meanwhile differ: every row has the key that it is stored under, no two rows share an identifier,
and a row keeps its identifier for as long as it is there. What an observation enqueues names the
row that it leaves under its key. Dead letters and feedback for rows that have been deleted change
neither rows nor messages, and in feedback that lists other rows too they make no difference. -/
theorem row_identity (start : World (Memory α) α) (history : List (Operation α))
    (never : NeverRepeats start.mint start.minted (start.withoutRows.run history).minted) :
    let w := start.withoutRows.run history
    (∀ entry ∈ w.storage.rows.entries, entry.2.key = entry.1) ∧
    (w.storage.rows.rows.map (·.id)).Nodup ∧
    (∀ key operations, ∀ row ∈ w.storage.rows.get? key, w.StoredThrough key operations →
      ∃ later ∈ (w.run operations).storage.rows.get? key, later.id = row.id ∧ later.key = row.key) ∧
    (∀ usage unit coverage,
      let later := w.after (.observe usage unit coverage)
      later.storage.queue = w.storage.queue ∨
        ∃ event : BillingEvent α, ∃ row ∈ later.storage.rows.get? event.key,
          event.remittanceId = row.id ∧ event.key = row.key ∧
            later.storage.queue = w.storage.queue.publish event.toMessage w.now) ∧
    (∀ event header, start.withoutRows.Deleted history event.remittanceId →
      (w.after (.upkeep (.redeliver event header))).storage = w.storage) ∧
    (∀ feedback, (∀ id ∈ feedback.remittanceIds, start.withoutRows.Deleted history id) →
      (w.after (.upkeep (.acknowledge feedback))).storage = w.storage) ∧
    ∀ feedback id, start.withoutRows.Deleted history id →
      (w.after (.upkeep (.acknowledge (feedback.without id)))).storage =
        (w.after (.upkeep (.acknowledge feedback))).storage := by
  intro w
  have nothing : start.withoutRows.Identified start.minted := by
    refine ⟨Nat.le_refl _, fun key => RowTable.single_of_absent rfl, ?_, ?_, ?_⟩
    · exact fun key row stored => nomatch stored
    · exact fun key row stored => nomatch stored
    · exact fun key key' row stored => nomatch stored
  have identified : w.Identified start.minted := nothing.run never
  have gone : ∀ id, start.withoutRows.Deleted history id →
      ∀ row ∈ w.storage.rows.rows, row.id ≠ id := by
    intro id deleted row member
    obtain ⟨key, stored⟩ := RowTable.mem_rows identified.single member
    exact (deleted.spent nothing never).unused key row stored
  refine ⟨?_, ?_, ?_, queue_after_observe w, ?_, ?_, ?_⟩
  · intro entry member
    exact identified.own entry.1 entry.2 (RowTable.get?_of_mem (identified.single entry.1) member)
  · exact identified.nodup
  · intro key operations row stored through
    have own := identified.own key row stored
    obtain ⟨later, present, same, kept⟩ := through.keeps (identified.single key) stored own
    exact ⟨later, present, same, kept.trans own.symm⟩
  · exact fun event header deleted => redeliver_gone header (gone event.remittanceId deleted)
  · exact fun feedback deleted => acknowledge_gone fun row member named =>
      gone row.id (deleted row.id named) row member rfl
  · exact fun feedback id deleted => acknowledge_without feedback (gone id deleted)

/-- Hours are observed, the rows of their organisation are deleted, and more hours are observed. -/
def recreatedHours : List (Operation ℚ) :=
  [.observe (hoursRun 4) ⟨some "hours", 2⟩ none, .upkeep (.deleteOrg "org"),
    .observe (hoursRun 9) ⟨some "hours", 2⟩ none]

/-- The dead letter of the row that is gone leaves the one that has taken its place as it is. -/
theorem row_identity_hours :
    let w := opening.withoutRows.run recreatedHours
    NeverRepeats opening.mint opening.minted w.minted ∧
      opening.withoutRows.Deleted recreatedHours ⟨1⟩ ∧
      (w.storage.rows.get? (hoursRun 0).key).map (·.id) = some ⟨2⟩ ∧
      ∀ event header, event.remittanceId = ⟨1⟩ →
        (w.after (.upkeep (.redeliver event header))).storage = w.storage := by
  intro w
  have count : w.minted = 2 := by decide +kernel
  have never : NeverRepeats opening.mint opening.minted w.minted := by
    intro i j above less below
    have start : opening.minted = 0 := rfl
    obtain ⟨rfl, rfl⟩ : i = 1 ∧ j = 2 := by omega
    decide
  have deleted : opening.withoutRows.Deleted recreatedHours ⟨1⟩ := by
    have created : ((opening.withoutRows.run (recreatedHours.take 1)).storage.rows.get?
        (hoursRun 0).key).map (·.id) = some ⟨1⟩ := by
      decide +kernel
    have gone : ((opening.withoutRows.run (recreatedHours.take 2)).storage.rows.get?
        (hoursRun 0).key).isNone = true := by
      decide +kernel
    obtain ⟨row, stored, id⟩ := Option.map_eq_some_iff.mp created
    exact ⟨recreatedHours.take 1, .upkeep (.deleteOrg "org"), recreatedHours.drop 2,
      (hoursRun 0).key, row, stored, rfl, id, Option.isNone_iff_eq_none.mp gone⟩
  refine ⟨never, deleted, by decide +kernel, fun event header named => ?_⟩
  exact (row_identity opening recreatedHours never).2.2.2.2.1 event header (named ▸ deleted)

end MeteredBilling
