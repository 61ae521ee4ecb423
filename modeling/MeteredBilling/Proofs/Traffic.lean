import MeteredBilling.Proofs.Execution
import MeteredBilling.Proofs.Queue

/-!
# Traffic on the bus

Publications, claims and settlements by any number of workers, in the order in which they take
effect. Each delivery is settled once at the most, by the worker that claimed it, and from that
alone follow the exclusive hold on a message, the bound on its attempts and the finality of its end.
-/

namespace MeteredBilling

open Calendar Engine

variable {α : Type}

/-- A use of the bus, or a move of the clock. A message for later carries the moment from which it
may be delivered. -/
inductive BusCall (α : Type)
  | publish (message : Outbound α)
  | claim (topic : String)
  | ack (delivery : Delivery α)
  | retry (delivery : Delivery α) (reason : Complaint)
  | poison (delivery : Delivery α) (reason : Complaint)
  | clock (moment : Instant)

def BusCall.settled? : BusCall α → Option (Delivery α)
  | ack delivery | retry delivery _ | poison delivery _ => some delivery
  | _ => none

def BusCall.published? : BusCall α → Option (Outbound α)
  | publish message => some message
  | _ => none

/-- A world, with the calls on its bus so far. -/
structure Traffic (α : Type) where
  world : World (Memory α) α
  /-- The messages published, under the numbers that they were given. -/
  published : List (Int × Outbound α)
  claims : List (Delivery α)
  /-- The deliveries that were claimed and not settled yet. -/
  unsettled : List (Delivery α)

namespace Traffic

abbrev queue (t : Traffic α) : MessageQueue α := t.world.storage.queue

def start (w : World (Memory α) α) (policy : DeliveryPolicy) : Traffic α :=
  ⟨{ w with storage := { w.storage with queue := .empty policy } }, [], [], []⟩

/-- Settles a delivery. It stays unsettled if the settlement fails. -/
def settle (t : Traffic α) (delivery : Delivery α) (settlement : Engine (Memory α) α PUnit) :
    Traffic α :=
  match settlement.exec t.world with
  | some (.ok _, world) =>
    { t with
      world
      unsettled := t.unsettled.filter fun other =>
        ¬(other.id = delivery.id ∧ other.attempts = delivery.attempts) }
  | some (.error _, world) => { t with world }
  | none => t

def step (t : Traffic α) : BusCall α → Traffic α
  | .publish message =>
    match (MessageBus.publish message : Engine (Memory α) α Int).exec t.world with
    | some (.ok id, world) => { t with world, published := t.published ++ [(id, message)] }
    | _ => t
  | .claim topic =>
    match (MessageBus.claim topic : Engine (Memory α) α (Option (Delivery α))).exec t.world with
    | some (.ok (some delivery), world) =>
      ⟨world, t.published, t.claims ++ [delivery], t.unsettled ++ [delivery]⟩
    | some (_, world) => { t with world }
    | none => t
  | .ack delivery => t.settle delivery (MessageBus.ack delivery)
  | .retry delivery reason => t.settle delivery (MessageBus.retry delivery reason)
  | .poison delivery reason => t.settle delivery (MessageBus.poison delivery reason)
  | .clock moment => { t with world := { t.world with now := moment } }

def run (t : Traffic α) (calls : List (BusCall α)) : Traffic α := calls.foldl step t

/-- Every settlement is of a delivery that was claimed and not settled before. -/
def Orderly (t : Traffic α) : List (BusCall α) → Prop
  | [] => True
  | call :: rest =>
    (∀ delivery ∈ call.settled?, delivery ∈ t.unsettled) ∧ (t.step call).Orderly rest

theorem run_append (t : Traffic α) (calls later : List (BusCall α)) :
    t.run (calls ++ later) = (t.run calls).run later := List.foldl_append

theorem orderly_append {t : Traffic α} {calls later : List (BusCall α)} :
    t.Orderly (calls ++ later) ↔ t.Orderly calls ∧ (t.run calls).Orderly later := by
  induction calls generalizing t with
  | nil => simp [Orderly, run]
  | cons call rest ih =>
    rw [List.cons_append, Orderly, Orderly, ih, and_assoc]
    rfl

/-! ### What a call comes to -/

/-- The delivery of a message in its present state. -/
def delivery (m : QueuedMessage α) : Delivery α :=
  ⟨m.id, m.topic, m.payload, m.headers, m.attempts⟩

/-- The record of a message after a delivery of it was settled. -/
structure Releases (policy : DeliveryPolicy) (m released : QueuedMessage α) : Prop where
  same : delivery released = delivery m
  ended : released.status ≠ .processing
  again : released.status = .queued → m.attempts < policy.maxAttempts

/-- All that a call can make of the traffic. -/
inductive Change (t : Traffic α) : Traffic α → Prop
  | rest {w : World (Memory α) α} (queue : w.storage.queue = t.queue) :
      Change t { t with world := w }
  | publish {w : World (Memory α) α} (message : Outbound α) (now : Instant)
      (queue : w.storage.queue = t.queue.publish message now) :
      Change t { t with
        world := w
        published := t.published ++ [((t.queue.nextId : Int), message)] }
  | claim {w : World (Memory α) α} {m : QueuedMessage α} (member : m ∈ t.queue.messages)
      (queued : m.status = .queued)
      (queue : w.storage.queue = t.queue.modify m.id fun m =>
        { m with status := .processing, attempts := m.attempts + 1 }) :
      Change t ⟨w, t.published, t.claims ++ [m.deliver], t.unsettled ++ [m.deliver]⟩
  | settle {w : World (Memory α) α} {held : Delivery α} (unsettled : held ∈ t.unsettled)
      {change : QueuedMessage α → QueuedMessage α}
      (releases : ∀ m, Releases t.queue.policy m (change m))
      (queue : w.storage.queue = t.queue.modify held.id change) :
      Change t { t with
        world := w
        unsettled := t.unsettled.filter fun other =>
          ¬(other.id = held.id ∧ other.attempts = held.attempts) }

theorem change_settle {t : Traffic α} {held : Delivery α} (unsettled : held ∈ t.unsettled)
    {settlement : Engine (Memory α) α PUnit} {change : QueuedMessage α → QueuedMessage α}
    (releases : ∀ m, Releases t.queue.policy m (change m))
    (ran : settlement.exec t.world =
      (Memory.settleQueue (·.settle held.id change)).exec t.world) :
    Change t (t.settle held settlement) := by
  unfold Traffic.settle
  rw [ran]
  rcases Memory.exec_settle held.id change t.world with ⟨e, failed⟩ | done
  · rw [failed]
    exact .rest rfl
  · rw [done]
    exact .settle unsettled releases rfl

theorem change_claim (t : Traffic α) (topic : String) : Change t (t.step (.claim topic)) := by
  rw [step, Memory.exec_claim, MessageQueue.claim]
  cases next : t.world.storage.queue.next? topic t.world.now with
  | none => exact .rest rfl
  | some m =>
    obtain ⟨member, due⟩ := MessageQueue.next?_due next
    simp only [QueuedMessage.isDue, Bool.and_eq_true, beq_iff_eq] at due
    exact .claim member due.1.2 rfl

theorem change_ack {t : Traffic α} {held : Delivery α} (unsettled : held ∈ t.unsettled) :
    Change t (t.step (.ack held)) := by
  have releases (m : QueuedMessage α) :
      Releases t.queue.policy m { m with status := .acked } := ⟨rfl, by simp, by simp⟩
  exact change_settle unsettled releases rfl

theorem change_poison {t : Traffic α} {held : Delivery α} (unsettled : held ∈ t.unsettled)
    (reason : Complaint) : Change t (t.step (.poison held reason)) := by
  have releases (m : QueuedMessage α) :
      Releases t.queue.policy m { m with status := .poisoned, lastError := some reason } :=
    ⟨rfl, by simp, by simp⟩
  exact change_settle unsettled releases rfl

theorem releases_retry (policy : DeliveryPolicy) (time : Instant) (reason : Complaint)
    (m : QueuedMessage α) :
    Releases policy m { m with
      status := if policy.maxAttempts ≤ m.attempts then .dead else .queued
      availableAt := time
      lastError := some reason } where
  same := rfl
  ended := by
    dsimp only
    split <;> simp
  again queued := by
    -- with its attempts used up it would be dead
    refine Int.not_le.mp fun used => ?_
    simp [used] at queued

theorem change_retry {t : Traffic α} {held : Delivery α} (unsettled : held ∈ t.unsettled)
    (reason : Complaint) : Change t (t.step (.retry held reason)) := by
  cases due : MessageQueue.redeliveryTime? t.queue.policy held t.world.now with
  | none =>
    have stopped : (MessageBus.retry held reason : Engine (Memory α) α PUnit).exec t.world =
        none := by simp [MessageBus.retry, due]
    rw [step, settle, stopped]
    exact .rest rfl
  | some time =>
    exact change_settle unsettled (releases_retry t.queue.policy time reason)
      (Memory.exec_retry reason due)

theorem change_step {t : Traffic α} {call : BusCall α}
    (orderly : ∀ delivery ∈ call.settled?, delivery ∈ t.unsettled) : Change t (t.step call) := by
  cases call with
  | publish message => exact .publish message t.world.now rfl
  | claim topic => exact change_claim t topic
  | ack held => exact change_ack (orderly held rfl)
  | retry held reason => exact change_retry (orderly held rfl) reason
  | poison held reason => exact change_poison (orderly held rfl) reason
  | clock moment => exact .rest rfl

end Traffic
end MeteredBilling
