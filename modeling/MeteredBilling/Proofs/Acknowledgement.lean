import MeteredBilling.Proofs.Events
import MeteredBilling.Proofs.Lifecycle

/-!
# Acknowledgements

An emission is settled by the first feedback that lists its row and carries its tally. Feedback on
other tallies neither settles the row nor changes what this feedback comes to.
-/

namespace MeteredBilling

open Calendar

variable {α : Type}

/-! ### One message -/

namespace StatusFeedback

variable {feedback other : StatusFeedback} {moment : Instant} {row : Remittance α}

/-- The feedback is final, lists the row, and is on the tally that the row was emitted for. -/
def settles (feedback : StatusFeedback) (row : Remittance α) : Bool :=
  (feedback.status == .succeeded || feedback.status == .failed) &&
    feedback.remittanceIds.contains row.id && row.tallyId == feedback.tallyId

/-- The row that feedback leaves. -/
def settle (feedback : StatusFeedback) (moment : Instant) (row : Remittance α) : Remittance α :=
  match feedback.toUpdate moment with
  | .ok update =>
    if RowTable.awaits feedback.remittanceIds update row then RowTable.acknowledge update moment row
    else row
  | .error _ => row

theorem settles_iff : feedback.settles row = true ↔
    (feedback.status = .succeeded ∨ feedback.status = .failed) ∧ row.id ∈ feedback.remittanceIds ∧
      row.tallyId = feedback.tallyId := by
  simp [settles, and_assoc]

theorem toUpdate_of_final (moment : Instant)
    (final : feedback.status = .succeeded ∨ feedback.status = .failed) :
    ∃ update, feedback.toUpdate moment = .ok update := by
  rcases final with succeeded | failed
  · exact ⟨_, by rw [toUpdate, succeeded]⟩
  · exact ⟨_, by rw [toUpdate, failed]⟩

theorem settle_pending (pending : row.status = .pending) (settles : feedback.settles row = true) :
    ∃ update, feedback.toUpdate moment = .ok update ∧
      feedback.settle moment row = RowTable.acknowledge update moment row := by
  obtain ⟨final, listed, tally⟩ := settles_iff.mp settles
  obtain ⟨update, read⟩ := toUpdate_of_final moment final
  have own := (toUpdate_final read).2.1
  have awaits : RowTable.awaits feedback.remittanceIds update row = true :=
    RowTable.awaits_iff.mpr ⟨listed, tally.trans own.symm, pending⟩
  refine ⟨update, read, ?_⟩
  rw [settle, read]
  exact if_pos awaits

theorem settle_same (beside : row.status = .pending → feedback.settles row = false) :
    feedback.settle moment row = row := by
  rw [settle]
  split
  · rename_i update read
    refine if_neg fun awaits => ?_
    obtain ⟨listed, tally, pending⟩ := RowTable.awaits_iff.mp awaits
    obtain ⟨final, own, _⟩ := toUpdate_final read
    have settles := settles_iff.mpr ⟨final, listed, tally.trans own⟩
    rw [beside pending] at settles
    cases settles
  · rfl

theorem settle_tally : (feedback.settle moment row).tallyId = row.tallyId := by
  rw [settle]
  split
  · split <;> rfl
  · rfl

theorem settle_other (other : row.tallyId ≠ feedback.tallyId) :
    feedback.settle moment row = row :=
  settle_same fun _ => by simp [settles, other]

theorem settle_comm (different : feedback.tallyId ≠ other.tallyId) (moment : Instant)
    (row : Remittance α) : other.settle moment (feedback.settle moment row) =
      feedback.settle moment (other.settle moment row) := by
  by_cases own : row.tallyId = feedback.tallyId
  · have beside : row.tallyId ≠ other.tallyId := own ▸ different
    have still : (feedback.settle moment row).tallyId ≠ other.tallyId := by rwa [settle_tally]
    rw [settle_other beside, settle_other still]
  · have beside : (other.settle moment row).tallyId ≠ feedback.tallyId := by rwa [settle_tally]
    rw [settle_other own, settle_other beside]

/-- Feedback on another tally leaves the rows that wait for an update waiting. -/
theorem awaits_settle {ids : List Uuid} {update : StatusUpdate}
    (different : feedback.tallyId ≠ update.tallyId) :
    RowTable.awaits ids update (feedback.settle moment row) = RowTable.awaits ids update row := by
  by_cases own : row.tallyId = feedback.tallyId
  · have beside (other : Remittance α) (same : other.tallyId = row.tallyId) :
        RowTable.awaits ids update other = false := by
      rw [← Bool.not_eq_true, RowTable.awaits_iff]
      intro awaits
      exact different (own.symm.trans (same.symm.trans awaits.2.1))
    rw [beside row rfl, beside _ settle_tally]
  · rw [settle_other own]

theorem answer_settle {t : RowTable α} {now : Instant}
    (different : feedback.tallyId ≠ other.tallyId) :
    other.answer (t.modify (fun _ => true) (feedback.settle moment)) now = other.answer t now := by
  rw [answer, answer]
  cases read : other.toUpdate now with
  | error e => rfl
  | ok update =>
    have own := (toUpdate_final read).2.1
    have same (row : Remittance α) :
        RowTable.awaits other.remittanceIds update (feedback.settle moment row) =
          RowTable.awaits other.remittanceIds update row :=
      awaits_settle (own ▸ different)
    rw [Engine.map_ok, Engine.map_ok, RowTable.count_modify same]

end StatusFeedback

namespace Upkeep

variable [Amount α] {feedback : StatusFeedback} {m : Memory α} {now : Instant}

theorem effect_acknowledge : (acknowledge feedback).effect m now =
    { m with rows := m.rows.modify (fun _ => true) (feedback.settle now) } := by
  have beside (same : ∀ row : Remittance α, feedback.settle now row = row) :
      m = { m with rows := m.rows.modify (fun _ => true) (feedback.settle now) } := by
    rw [RowTable.modify_same same]
  rw [effect]
  split
  · rename_i update listed read
    have same (row : Remittance α) : (if RowTable.awaits feedback.remittanceIds update row then
        RowTable.acknowledge update now row else row) = feedback.settle now row := by
      rw [StatusFeedback.settle, read]
    rw [RowTable.modify_eq same]
  · rename_i refused
    refine beside fun row => ?_
    cases read : feedback.toUpdate now with
    | error e => rw [StatusFeedback.settle, read]
    | ok update =>
      have unlisted : feedback.remittanceIds = [] := by
        by_contra listed
        exact refused update (by simpa using listed) read
      exact StatusFeedback.settle_same fun _ => by simp [StatusFeedback.settles, unlisted]

/-- Feedback is taken, and acknowledges as many rows as it is answered with, or it is refused. -/
theorem answer_cases (feedback : StatusFeedback) (m : Memory α) (now : Instant) :
    (∃ update, feedback.toUpdate now = .ok update ∧
      feedback.answer m.rows now =
        .ok (m.rows.count (RowTable.awaits feedback.remittanceIds update)) ∧
      ((acknowledge feedback).effect m now).rows = m.rows.modify
        (RowTable.awaits feedback.remittanceIds update) (RowTable.acknowledge update now)) ∨
      ∃ e, feedback.answer m.rows now = .error e ∧ (acknowledge feedback).effect m now = m := by
  simp only [StatusFeedback.answer, effect]
  cases feedback.remittanceIds.isEmpty with
  | true => exact .inr ⟨_, rfl, rfl⟩
  | false =>
    cases feedback.toUpdate now with
    | error e => exact .inr ⟨e, rfl, rfl⟩
    | ok update => exact .inl ⟨update, rfl, rfl, rfl⟩

end Upkeep

/-- The result tells how many rows changed, and an error that nothing did. -/
def Tells (before after : Memory α) : Except BillingError Nat → Prop
  | .ok changed => ∃ keys : List RemittanceKey, keys.Nodup ∧ keys.length = changed ∧
      ∀ key, key ∈ keys ↔ after.rows.get? key ≠ before.rows.get? key
  | .error _ => after = before

theorem tells_answer [Amount α] (feedback : StatusFeedback) {m : Memory α} (now : Instant)
    (single : ∀ key, m.rows.Single key) :
    Tells m ((Upkeep.acknowledge feedback).effect m now) (feedback.answer m.rows now) := by
  rcases Upkeep.answer_cases feedback m now with ⟨update, read, answered, left⟩ | ⟨e, refused, same⟩
  · rw [answered]
    have changes (row : Remittance α)
        (awaits : RowTable.awaits feedback.remittanceIds update row = true) :
        RowTable.acknowledge update now row ≠ row := by
      intro same
      have still : update.status = .pending :=
        (congrArg Remittance.status same).trans (RowTable.awaits_iff.mp awaits).2.2
      exact (StatusFeedback.toUpdate_final read).2.2 still
    have counted := RowTable.changed_keys single changes
    rw [← left] at counted
    exact counted
  · rw [refused]
    exact same

/-! ### Runs of messages -/

def Operation.feedback? : Operation α → Option StatusFeedback
  | upkeep (.acknowledge feedback) => some feedback
  | _ => none

namespace World

variable [Amount α] {w : World (Memory α) α} {key : RemittanceKey}

/-- The feedback of a run, each message with the moment at which it is handled. -/
def feedback (w : World (Memory α) α) : List (Operation α) → List (StatusFeedback × Instant)
  | [] => []
  | operation :: rest =>
    match operation.feedback? with
    | some message => (message, w.now) :: feedback (w.after operation) rest
    | none => feedback (w.after operation) rest

/-- In the run nothing but feedback changes the row of the key. -/
def OnlyFeedback (key : RemittanceKey) (w : World (Memory α) α) : List (Operation α) → Prop
  | [] => True
  | operation :: rest =>
    (operation.feedback? = none →
      (w.after operation).storage.rows.get? key = w.storage.rows.get? key) ∧
      OnlyFeedback key (w.after operation) rest

theorem row_after_feedback (message : StatusFeedback) :
    (w.after (.upkeep (.acknowledge message))).storage.rows.get? key =
      (w.storage.rows.get? key).map (message.settle w.now) := by
  rw [after_upkeep, Upkeep.effect_acknowledge, RowTable.get?_modify]
  simp only [if_true]

end World

/-- A row under a run of messages: the first one that settles it, while it is pending, decides. -/
structure Settled (messages : List (StatusFeedback × Instant)) (row last : Remittance α) :
    Prop where
  others : last = { row with
    status := last.status
    errorCode := last.errorCode
    billedOn := last.billedOn
    updatedAt := last.updatedAt }
  first : row.status = .pending → ∀ message moment,
    messages.find? (·.1.settles row) = some (message, moment) →
      message.toUpdate moment =
        .ok ⟨message.tallyId, last.status, last.errorCode, last.billedOn⟩
  unsettled : (∀ message ∈ messages, message.1.settles row = false) → last = row
  kept : row.status ≠ .pending → last = row

namespace Settled

variable {message : StatusFeedback} {moment : Instant}
  {messages : List (StatusFeedback × Instant)} {row last : Remittance α}

theorem refl (row : Remittance α) : Settled [] row row where
  others := rfl
  first _ _ _ found := nomatch found
  unsettled _ := rfl
  kept _ := rfl

theorem cons (later : Settled messages (message.settle moment row) last) :
    Settled ((message, moment) :: messages) row last := by
  by_cases decided : row.status = .pending ∧ message.settles row = true
  · obtain ⟨pending, settles⟩ := decided
    obtain ⟨update, read, taken⟩ := StatusFeedback.settle_pending pending settles
    obtain ⟨_, own, final⟩ := StatusFeedback.toUpdate_final read
    rw [taken] at later
    obtain rfl : last = RowTable.acknowledge update moment row := later.kept final
    refine ⟨rfl, fun _ other since found => ?_, fun beside => ?_, fun moved => (moved pending).elim⟩
    · simp only [List.find?_cons, settles] at found
      cases found
      rw [read, ← own]
      rfl
    · have never := beside (message, moment) List.mem_cons_self
      rw [settles] at never
      cases never
  · have skips : row.status = .pending → message.settles row = false := fun pending =>
      Bool.eq_false_of_not_eq_true fun settles => decided ⟨pending, settles⟩
    rw [StatusFeedback.settle_same skips] at later
    refine ⟨later.others, fun pending other since found => ?_, fun beside => ?_, later.kept⟩
    · simp only [List.find?_cons, skips pending] at found
      exact later.first pending other since found
    · exact later.unsettled fun other member => beside other (List.mem_cons_of_mem _ member)

end Settled

variable [Amount α]

theorem settled_run {w : World (Memory α) α} {key : RemittanceKey} {row : Remittance α}
    {operations : List (Operation α)} (present : w.storage.rows.get? key = some row)
    (only : w.OnlyFeedback key operations) :
    ∃ last, (w.run operations).storage.rows.get? key = some last ∧
      Settled (w.feedback operations) row last := by
  induction operations generalizing w row with
  | nil => exact ⟨row, present, .refl row⟩
  | cons operation rest ih =>
    obtain ⟨spares, only⟩ := only
    rw [World.feedback]
    split
    · rename_i message read
      have sent : operation = .upkeep (.acknowledge message) := by
        cases operation with
        | upkeep u =>
          cases u with
          | acknowledge feedback => exact congrArg _ (congrArg _ (Option.some.inj read))
          | redeliver | giveUp | reset | expire | deleteOrg => cases read
        | observe | clock => cases read
      subst sent
      have stored : (w.after (.upkeep (.acknowledge message))).storage.rows.get? key =
          some (message.settle w.now row) := by
        rw [World.row_after_feedback, present, Option.map_some]
      obtain ⟨last, left, settled⟩ := ih stored only
      exact ⟨last, left, settled.cons⟩
    · rename_i other
      exact ih ((spares other).trans present) only

/-- From any state that operations reach: a pending row is settled by the first final feedback that
lists it and carries its tally, and stays as it is without one or if it is not pending; feedback
tells how many rows it changed, and changes none if it is refused; and feedback on two tallies, at
one moment, comes to the same in either order. -/
theorem settled_once (start : World (Memory α) α) (history : List (Operation α)) :
    let w := start.withoutRows.run history
    (∀ key operations, w.OnlyFeedback key operations → ∀ row ∈ w.storage.rows.get? key,
      ∃ last, (w.run operations).storage.rows.get? key = some last ∧
        Settled (w.feedback operations) row last) ∧
    (∀ feedback, ∃ result w', (Engine.handleStatus feedback).exec w = some (result, w') ∧
      Tells w.storage w'.storage result) ∧
    ∀ one other : StatusFeedback, one.tallyId ≠ other.tallyId →
      let first := w.after (.upkeep (.acknowledge one))
      let second := w.after (.upkeep (.acknowledge other))
      (first.after (.upkeep (.acknowledge other))).storage =
          (second.after (.upkeep (.acknowledge one))).storage ∧
        ((Engine.handleStatus other).exec first).map (·.1) =
          ((Engine.handleStatus other).exec w).map (·.1) := by
  intro w
  have single : ∀ key, w.storage.rows.Single key := World.single_run history
  refine ⟨fun key operations only row present => settled_run present only, fun feedback => ?_, ?_⟩
  · obtain ⟨notices, ran⟩ := Upkeep.exec_acknowledge feedback w
    exact ⟨_, _, ran, tells_answer feedback w.now single⟩
  · intro one other different first second
    constructor
    · have rows : (w.storage.rows.modify (fun _ => true) (one.settle w.now)).modify
          (fun _ => true) (other.settle w.now) = _ :=
        RowTable.modify_comm (StatusFeedback.settle_comm different w.now)
      simp only [first, second, World.after_upkeep, World.now_after_upkeep,
        Upkeep.effect_acknowledge, rows]
    · obtain ⟨notices, ran⟩ := Upkeep.exec_acknowledge other w
      obtain ⟨notices', ran'⟩ := Upkeep.exec_acknowledge other first
      have same : other.answer first.storage.rows first.now =
          other.answer w.storage.rows w.now := by
        rw [World.now_after_upkeep, World.after_upkeep, Upkeep.effect_acknowledge]
        exact StatusFeedback.answer_settle different
      rw [ran, ran', Option.map_some, Option.map_some, same]

/-- Success of the tally that the hours were emitted for. -/
def hoursBilled : StatusFeedback := ⟨[⟨5⟩, ⟨1⟩, ⟨1⟩], ⟨7⟩, .succeeded, none, none⟩

/-- Failure of another tally, then success, then a failure that is too late. -/
def hoursAcknowledged : List (Operation ℚ) :=
  [.upkeep (.acknowledge ⟨[⟨1⟩], ⟨8⟩, .failed, none, none⟩), .clock ⟨60, 0⟩,
    .upkeep (.acknowledge hoursBilled), .clock ⟨90, 0⟩,
    .upkeep (.acknowledge ⟨[⟨1⟩], ⟨7⟩, .failed, none, none⟩)]

theorem settled_once_hours :
    let w := opening.withoutRows.run [.observe (hoursRun 4) ⟨some "hours", 1⟩ none]
    w.OnlyFeedback (hoursRun 4).key hoursAcknowledged ∧
      ∃ row ∈ w.storage.rows.get? (hoursRun 4).key, row.status = .pending ∧
        ∃ last, (w.run hoursAcknowledged).storage.rows.get? (hoursRun 4).key = some last ∧
          last.status = .succeeded ∧ last.errorCode = none ∧ last.billedOn = some ⟨60, 0⟩ := by
  have law := (settled_once opening [.observe (hoursRun 4) ⟨some "hours", 1⟩ none]).1
  dsimp only at law ⊢
  generalize read : opening.withoutRows.run [.observe (hoursRun 4) ⟨some "hours", 1⟩ none] = w
    at law ⊢
  have only : w.OnlyFeedback (hoursRun 4).key hoursAcknowledged :=
    ⟨nofun, fun _ => rfl, nofun, fun _ => rfl, nofun, trivial⟩
  have decided : (w.storage.rows.get? (hoursRun 4).key).map (fun row => (row.status,
      (w.feedback hoursAcknowledged).find? (·.1.settles row))) =
        some (.pending, some (hoursBilled, ⟨60, 0⟩)) := by
    rw [← read]
    decide +kernel
  obtain ⟨row, present, found⟩ := Option.map_eq_some_iff.mp decided
  obtain ⟨pending, found⟩ := Prod.mk.inj found
  obtain ⟨last, left, settled⟩ := law _ _ only row present
  have update := settled.first pending hoursBilled ⟨60, 0⟩ found
  obtain ⟨_, status, error, billed⟩ := StatusUpdate.mk.inj (Except.ok.inj update)
  exact ⟨only, row, present, pending, last, left, status.symm, error.symm, billed.symm⟩

end MeteredBilling
