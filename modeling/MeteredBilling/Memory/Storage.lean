import MeteredBilling.Engine.World
import MeteredBilling.Memory.Rows
import MeteredBilling.Message.Queue

/-!
# Storage in memory

Rows and messages side by side, which makes every write of a row with its event a single step.
-/

namespace MeteredBilling

open Calendar

structure Memory (α : Type) where
  rows : RowTable α
  queue : MessageQueue α

namespace Memory

variable {α β : Type}

def empty (policy : DeliveryPolicy) : Memory α := ⟨.empty, .empty policy⟩

/-- What a decision on the row of `key` makes of the storage, and the outcome reported. -/
def commit (m : Memory α) (key : RemittanceKey) (now : Instant) : Decision α → Outcome α × Memory α
  | .keep calculation => (⟨calculation, none⟩, m)
  | .write calculation row event =>
    (⟨calculation, some row⟩, ⟨m.rows.put key row, m.queue.publish? event now⟩)

/-- Puts the first row of an identifier back to pending and republishes its event; nothing happens
if there is no such row. -/
def markRetry (m : Memory α) (id : Uuid) (retryAfter : Instant) (republish : Option (Outbound α))
    (now : Instant) : Option (Remittance α) × Memory α :=
  match m.rows.rows.find? (·.id == id) with
  | none => (none, m)
  | some row =>
    (some (RowTable.reschedule retryAfter now row),
      ⟨m.rows.modifyFirst (·.id == id) (RowTable.reschedule retryAfter now),
        m.queue.publish? republish now⟩)

/-! ### The storage as the engine sees it -/

/-- Runs a change of the storage that cannot fail. -/
def update (change : Instant → Memory α → β × Memory α) : Engine (Memory α) α β :=
  modifyGet fun w =>
    let (result, storage) := change w.now w.storage
    (result, { w with storage })

def read (view : Memory α → β) : Engine (Memory α) α β := return view (← get).storage

/-- Changes the selected rows and tells how many there were. -/
def changeRows (select : Remittance α → Bool) (change : Instant → Remittance α → Remittance α) :
    Engine (Memory α) α Nat :=
  update fun now m => (m.rows.count select, { m with rows := m.rows.modify select (change now) })

def removeRows (select : Remittance α → Bool) : Engine (Memory α) α Nat :=
  update fun _ m => (m.rows.count select, { m with rows := m.rows.remove select })

def settleQueue (change : MessageQueue α → Except BillingError (MessageQueue α)) :
    Engine (Memory α) α PUnit := do
  let w ← get
  let queue ← Engine.ofResult (change w.storage.queue)
  set { w with storage := { w.storage with queue } }

def reconcile (key : RemittanceKey) (decide : Decide α) : Engine (Memory α) α (Outcome α) := do
  let prior ← read (·.rows.get? key)
  let decision ← Engine.decide decide prior
  update fun now m => m.commit key now decision

instance [Zero α] : RowStore (Memory α) α where
  reconcile := reconcile
  findByKey key := read (·.rows.get? key)
  find filter := read (·.rows.collect filter.selects)
  findByTally tallyId := read (·.rows.collect (·.tallyId == tallyId))
  updateStatus ids change :=
    changeRows (RowTable.awaits ids change) (RowTable.acknowledge change)
  markRetry id retryAfter republish := update fun now m => m.markRetry id retryAfter republish now
  deleteOlderThan orgId cutoff := removeRows (RowTable.isExpired orgId cutoff)
  deleteByOrg orgId := removeRows (·.key.orgId == orgId)
  resetRemitted request := changeRows request.selects RowTable.resetAmounts
  failStuck cutoff := changeRows (RowTable.isStuck cutoff) RowTable.giveUp

instance : MessageBus (Memory α) α where
  publish message :=
    update fun now m => (m.queue.nextId, { m with queue := m.queue.publish message now })
  claim topic :=
    update fun now m =>
      let (delivery, queue) := m.queue.claim topic now
      (delivery, { m with queue })
  ack delivery := settleQueue (·.ack delivery)
  retry delivery reason := do
    let w ← get
    let time ← Engine.onCalendar
      (MessageQueue.redeliveryTime? w.storage.queue.policy delivery w.now)
    settleQueue (·.retry delivery reason time)
  poison delivery reason := settleQueue (·.poison delivery reason)

end Memory
end MeteredBilling
