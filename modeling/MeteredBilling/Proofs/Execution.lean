import MeteredBilling.Memory.Storage

/-!
# Execution

What the operations of the engine come to in a world: a result with the world that is left, or
nothing at all when a moment leaves the calendar.
-/

namespace MeteredBilling.Engine

variable {σ α β γ : Type} {w w' : World σ α}

/-- The result of an operation in a world, with the world that it leaves. -/
def exec (x : Engine σ α β) (w : World σ α) : Option (Except BillingError β × World σ α) :=
  x.run.run w

/-- Goes on from a result, unless it is an error. -/
def proceed (f : β → Engine σ α γ) :
    Except BillingError β × World σ α → Option (Except BillingError γ × World σ α)
  | (.ok b, w) => (f b).exec w
  | (.error e, w) => some (.error e, w)

@[simp] theorem proceed_ok (f : β → Engine σ α γ) (b : β) :
    proceed f (.ok b, w) = (f b).exec w := rfl

@[simp] theorem proceed_error (f : β → Engine σ α γ) (e : BillingError) :
    proceed f (.error e, w) = some (.error e, w) := rfl

@[simp] theorem exec_pure (b : β) : (pure b : Engine σ α β).exec w = some (.ok b, w) := rfl

@[simp] theorem exec_throw (e : BillingError) :
    (throw e : Engine σ α β).exec w = some (.error e, w) := rfl

@[simp] theorem exec_bind (x : Engine σ α β) (f : β → Engine σ α γ) :
    (x >>= f).exec w = (x.exec w).bind (proceed f) := by
  change ((x.run.run w).bind fun p => _) = _
  unfold exec
  cases x.run.run w with
  | none => rfl
  | some p =>
    obtain ⟨result, left⟩ := p
    cases result <;> rfl

@[simp] theorem map_ok (f : β → γ) (b : β) :
    (Except.ok b : Except BillingError β).map f = .ok (f b) := rfl

@[simp] theorem map_error (f : β → γ) (e : BillingError) :
    (Except.error e : Except BillingError β).map f = .error e := rfl

@[simp] theorem exec_map (f : β → γ) (x : Engine σ α β) :
    (f <$> x).exec w = (x.exec w).map fun p => (p.1.map f, p.2) := by
  rw [map_eq_pure_bind, exec_bind]
  cases x.exec w with
  | none => rfl
  | some p =>
    obtain ⟨result, left⟩ := p
    cases result <;> rfl

@[simp] theorem exec_discard (x : Engine σ α β) :
    (discard x).exec w = (x.exec w).map fun p => (p.1.map fun _ => ⟨⟩, p.2) :=
  exec_map (fun _ => PUnit.unit) x

@[simp] theorem exec_get : (get : Engine σ α (World σ α)).exec w = some (.ok w, w) := rfl

@[simp] theorem exec_set (left : World σ α) :
    (set left : Engine σ α PUnit).exec w = some (.ok ⟨⟩, left) := rfl

@[simp] theorem exec_modify (f : World σ α → World σ α) :
    (modify f : Engine σ α PUnit).exec w = some (.ok ⟨⟩, f w) := rfl

@[simp] theorem exec_ofResult (result : Except BillingError β) :
    (ofResult result : Engine σ α β).exec w = some (result, w) := rfl

@[simp] theorem exec_onCalendar (moment : Option Calendar.Instant) :
    (onCalendar moment : Engine σ α _).exec w = moment.map fun t => (.ok t, w) := rfl

@[simp] theorem exec_now : (now : Engine σ α _).exec w = some (.ok w.now, w) := rfl

@[simp] theorem exec_notice (n : Notice) :
    (notice n : Engine σ α PUnit).exec w =
      some (.ok ⟨⟩, { w with notices := w.notices ++ [n] }) := rfl

@[simp] theorem exec_attempt (x : Engine σ α β) :
    (attempt x).exec w = (x.exec w).map fun p => (.ok p.1, p.2) := by
  change ((x.run.run w).bind fun p => _) = _
  unfold exec
  cases x.run.run w <;> rfl

theorem ext {x y : Engine σ α β} (same : ∀ w, x.exec w = y.exec w) : x = y := funext same

/-! ### Attempts -/

theorem attempt_bind (x : Engine σ α β) (f : β → Engine σ α γ) :
    attempt (x >>= f) = attempt x >>= fun result =>
      match result with
      | .ok b => attempt (f b)
      | .error e => pure (.error e) := by
  refine ext fun w => ?_
  simp only [exec_attempt, exec_bind]
  cases x.exec w with
  | none => rfl
  | some p =>
    obtain ⟨result, left⟩ := p
    cases result <;> simp

theorem attempt_ofResult (result : Except BillingError β) :
    attempt (ofResult result : Engine σ α β) = pure result := rfl

theorem attempt_attempt (x : Engine σ α β) :
    attempt (attempt x) = attempt x >>= fun result => pure (.ok result) := by
  refine ext fun w => ?_
  simp only [exec_attempt, exec_bind]
  cases x.exec w <;> rfl

theorem attempt_mapM (items : List β) (f : β → Engine σ α γ) :
    attempt (items.mapM fun item => attempt (f item)) =
      (items.mapM fun item => attempt (f item)) >>= fun results => pure (.ok results) := by
  induction items with
  | nil => rfl
  | cons item rest ih =>
    simp only [List.mapM_cons, bind_assoc, pure_bind]
    rw [attempt_bind, attempt_attempt, bind_assoc]
    congr 1
    funext result
    rw [pure_bind]
    simp only []
    rw [attempt_bind, ih, bind_assoc]
    rfl

end MeteredBilling.Engine

namespace MeteredBilling.Memory

open Engine

variable {α β : Type} {w w' : World (Memory α) α}

/-! ### The storage in memory -/

@[simp] theorem exec_update (change : Calendar.Instant → Memory α → β × Memory α) :
    (update change).exec w =
      some (.ok (change w.now w.storage).1,
        { w with storage := (change w.now w.storage).2 }) := rfl

@[simp] theorem exec_read (view : Memory α → β) :
    (read view).exec w = some (.ok (view w.storage), w) := rfl

@[simp] theorem exec_settleQueue
    (change : MessageQueue α → Except BillingError (MessageQueue α)) :
    (settleQueue change).exec w = some (match change w.storage.queue with
      | .ok queue => (.ok ⟨⟩, { w with storage := { w.storage with queue } })
      | .error e => (.error e, w)) := by
  unfold settleQueue
  cases settled : change w.storage.queue <;> simp [settled]

theorem exec_claim (topic : String) (w : World (Memory α) α) :
    (MessageBus.claim topic : Engine (Memory α) α _).exec w =
      some (.ok (w.storage.queue.claim topic w.now).1,
        { w with storage := { w.storage with
          queue := (w.storage.queue.claim topic w.now).2 } }) := rfl

theorem exec_settle (id : Int) (change : QueuedMessage α → QueuedMessage α)
    (w : World (Memory α) α) :
    (∃ e, (settleQueue (·.settle id change)).exec w = some (.error e, w)) ∨
      (settleQueue (·.settle id change)).exec w = some (.ok ⟨⟩,
        { w with storage := { w.storage with queue := w.storage.queue.modify id change } }) := by
  rw [exec_settleQueue]
  unfold MessageQueue.settle
  by_cases listed : w.storage.queue.messages.any fun m => (m.id : Int) = id
  · exact .inr (by rw [if_pos listed])
  · exact .inl ⟨_, by rw [if_neg listed]⟩

theorem exec_retry {delivery : Delivery α} {moment : Calendar.Instant} (reason : Complaint)
    (due : MessageQueue.redeliveryTime? w.storage.queue.policy delivery w.now = some moment) :
    (MessageBus.retry delivery reason : Engine (Memory α) α PUnit).exec w =
      (settleQueue (·.settle delivery.id fun m => { m with
        status := if w.storage.queue.policy.maxAttempts ≤ m.attempts then .dead else .queued
        availableAt := moment
        lastError := some reason })).exec w := by
  simp only [MessageBus.retry, exec_bind, exec_get, Option.bind_some, proceed_ok, due,
    exec_onCalendar, Option.map_some, exec_settleQueue]
  rfl

/-- What is decided on the row of a key in a world. -/
def decision (w : World (Memory α) α) (key : RemittanceKey) (decide : Decide α) :
    Except BillingError (Decision α) :=
  decide w.now (w.mint (w.minted + 1)) (w.storage.rows.get? key)

/-- The identifiers given out once a decision is taken. -/
def mintedAfter (w : World (Memory α) α) (key : RemittanceKey)
    (decision : Except BillingError (Decision α)) : Nat :=
  if Decision.takesIdentifier (w.storage.rows.get? key) decision then w.minted + 1 else w.minted

theorem exec_reconcile (key : RemittanceKey) (decide : Decide α) :
    (reconcile key decide).exec w = some (match decision w key decide with
      | .ok taken =>
        (.ok (w.storage.commit key w.now taken).1,
          { w with
            minted := mintedAfter w key (.ok taken)
            storage := (w.storage.commit key w.now taken).2 })
      | .error e => (.error e, w)) := by
  unfold reconcile Engine.decide decision mintedAfter
  cases decided : decide w.now (w.mint (w.minted + 1)) (w.storage.rows.get? key) with
  | error e => simp [decided, Decision.takesIdentifier]
  | ok taken =>
    simp only [exec_bind, exec_read, Option.bind_some, proceed_ok, exec_get, decided]
    split
    · simp only [exec_bind, exec_set, exec_ofResult, Option.bind_some, proceed_ok, exec_update]
    · simp only [exec_ofResult, Option.bind_some, proceed_ok, exec_update]

end MeteredBilling.Memory
