import Mathlib.Logic.Function.Basic
import MeteredBilling.Proofs.Moves
import MeteredBilling.Proofs.Operations

/-!
# Workers side by side

Any number of workers on one storage, whose steps come in any order, with publications, operations
on rows, and changes of the clock and of the contract service in between. The run keeps record of
what the resolver answered and of the observations that failed.
-/

namespace MeteredBilling

open Calendar Engine

variable {α : Type} [Amount α]

/-- What the resolver answered to an observation while a message was processed. -/
structure Quote (α : Type) where
  messageId : Int
  usage : Usage α
  coverage : Coverage α

/-- One delivery of a message. -/
structure Attempt where
  messageId : Int
  number : Int
  deriving DecidableEq, Repr

omit [Amount α] in
def Delivery.attempt (delivery : Delivery α) : Attempt := ⟨delivery.id, delivery.attempts⟩

namespace Worker

/-- The answer of the resolver in the step, if the observation is priced by it. -/
def quoted (settings : EngineSettings α) (w : World (Memory α) α) : Worker α → List (Quote α)
  | pricing delivery usage _ _ =>
    match (price settings usage).exec w, (resolveCoverage settings.catalog usage).exec w with
    | some (.ok _, _), some (.ok coverage, _) => [⟨delivery.id, usage, coverage⟩]
    | _, _ => []
  | _ => []

/-- The delivery of the observation that fails in the step. -/
def failed (settings : EngineSettings α) (w : World (Memory α) α) : Worker α → List Attempt
  | pricing delivery usage _ _ =>
    match (price settings usage).exec w with
    | some (.error _, _) => [delivery.attempt]
    | _ => []
  | posting delivery usage unit coverage _ _ =>
    match (post usage unit coverage).exec w with
    | some (.error _, _) => [delivery.attempt]
    | _ => []
  | _ => []

end Worker

structure System (α : Type) where
  world : World (Memory α) α
  workers : Nat → Worker α
  /-- The answers of the resolver so far, the latest last. -/
  quotes : List (Quote α)
  /-- The deliveries with an observation that failed, the latest last. -/
  failures : List Attempt

inductive Event (α : Type)
  /-- A worker takes a step; the topic is the one that an idle worker claims from. -/
  | work (worker : Nat) (topic : String)
  | publish (message : Outbound α)
  | upkeep (u : Upkeep α)
  | clock (moment : Instant)
  | contracts (service : ContractService α)

namespace System

def step (settings : EngineSettings α) (s : System α) : Event α → System α
  | .work i topic =>
    let (moved, world) := (s.workers i).move settings topic s.world
    ⟨world, Function.update s.workers i moved, s.quotes ++ (s.workers i).quoted settings s.world,
      s.failures ++ (s.workers i).failed settings s.world⟩
  | .publish message =>
    let queue := s.world.storage.queue.publish message s.world.now
    { s with world := { s.world with storage := { s.world.storage with queue } } }
  | .upkeep u => { s with world := s.world.after (.upkeep u) }
  | .clock moment => { s with world := { s.world with now := moment } }
  | .contracts service => { s with world := { s.world with contracts := service } }

theorem workers_step (settings : EngineSettings α) (s : System α) (i : Nat) (topic : String) :
    (s.step settings (.work i topic)).workers =
      Function.update s.workers i ((s.workers i).move settings topic s.world).1 := rfl

def run (settings : EngineSettings α) (s : System α) (events : List (Event α)) : System α :=
  events.foldl (step settings) s

theorem run_concat (settings : EngineSettings α) (s : System α) (events : List (Event α))
    (event : Event α) :
    s.run settings (events ++ [event]) = (s.run settings events).step settings event :=
  List.foldl_concat ..

/-- What every step keeps is kept by every run. -/
theorem run_keeps {settings : EngineSettings α} {kept : System α → Prop}
    (keeps : ∀ s event, kept s → kept (s.step settings event)) {s : System α} (holds : kept s)
    (events : List (Event α)) : kept (s.run settings events) := by
  induction events generalizing s with
  | nil => exact holds
  | cons event rest ih => exact ih (keeps s event holds)

omit [Amount α] in
/-- Nothing is stored, and no worker has begun. -/
def start (world : World (Memory α) α) (policy : DeliveryPolicy) : System α where
  world := { world with storage := .empty policy }
  workers _ := .idle
  quotes := []
  failures := []

/-! ### Records of messages -/

theorem quiet_upkeep (w : World (Memory α) α) (u : Upkeep α) :
    w.storage.queue.Quiet (w.after (.upkeep u)).storage.queue := by
  rw [World.after_upkeep]
  exact u.quiet_effect w.storage w.now

/-- The workers rest, and the queue gets one message more at the most. -/
structure Rests (s s' : System α) : Prop where
  workers : s'.workers = s.workers
  quotes : s'.quotes = s.quotes
  failures : s'.failures = s.failures
  queue : s.world.storage.queue.Quiet s'.world.storage.queue

theorem work_or_rests (settings : EngineSettings α) (s : System α) (event : Event α) :
    (∃ i topic, event = .work i topic) ∨ s.Rests (s.step settings event) := by
  cases event with
  | work i topic => exact .inl ⟨i, topic, rfl⟩
  | publish message => exact .inr ⟨rfl, rfl, rfl, .inr ⟨message, s.world.now, rfl⟩⟩
  | upkeep u => exact .inr ⟨rfl, rfl, rfl, quiet_upkeep s.world u⟩
  | clock | contracts => exact .inr ⟨rfl, rfl, rfl, .inl rfl⟩

omit [Amount α] in
/-- The record of a delivery that is not settled. -/
def Holds (q : MessageQueue α) (delivery : Delivery α) (m : QueuedMessage α) : Prop :=
  m ∈ q.messages ∧ (m.id : Int) = delivery.id ∧ m.topic = delivery.topic ∧
    m.payload = delivery.payload ∧ m.attempts = delivery.attempts ∧ m.status = .processing

/-- Messages are numbered, and every delivery that a worker holds is on record and in no other
hands. -/
structure Consistent (s : System α) : Prop where
  numbered : s.world.storage.queue.Numbered
  held : ∀ i delivery, (s.workers i).delivery? = some delivery →
    ∃ m, Holds s.world.storage.queue delivery m
  exclusive : ∀ i j delivery other, (s.workers i).delivery? = some delivery →
    (s.workers j).delivery? = some other → delivery.id = other.id → i = j

namespace Consistent

open MessageQueue Worker

variable {settings : EngineSettings α} {s s' : System α}

omit [Amount α] in
theorem start (world : World (Memory α) α) (policy : DeliveryPolicy) :
    Consistent (System.start world policy) where
  numbered n m place := by simp [System.start, Memory.empty, MessageQueue.empty] at place
  held i delivery busy := by cases busy
  exclusive i j delivery other busy := by cases busy

omit [Amount α] in
theorem holds_quiet {q settled : MessageQueue α} {delivery : Delivery α} {m : QueuedMessage α}
    (quiet : q.Quiet settled) (holds : Holds q delivery m) : Holds settled delivery m :=
  ⟨quiet.keeps holds.1, holds.2⟩

omit [Amount α] in
theorem holds_modify {q : MessageQueue α} {delivery : Delivery α} {m : QueuedMessage α} {id : Int}
    (change : QueuedMessage α → QueuedMessage α) (other : (m.id : Int) ≠ id)
    (holds : Holds q delivery m) : Holds (q.modify id change) delivery m :=
  ⟨mem_modify.mpr ⟨m, holds.1, by rw [if_neg other]⟩, holds.2⟩

omit [Amount α] in
theorem rests (consistent : Consistent s) (rests : s.Rests s') : Consistent s' where
  numbered := consistent.numbered.quiet rests.queue
  held i delivery busy := by
    rw [rests.workers] at busy
    obtain ⟨m, holds⟩ := consistent.held i delivery busy
    exact ⟨m, holds_quiet rests.queue holds⟩
  exclusive := by
    rw [rests.workers]
    exact consistent.exclusive

omit [Amount α] in
theorem delivery_update {workers : Nat → Worker α} {i j : Nat} {moved : Worker α}
    {delivery : Delivery α}
    (busy : (Function.update workers i moved j).delivery? = some delivery) :
    j = i ∧ moved.delivery? = some delivery ∨ j ≠ i ∧ (workers j).delivery? = some delivery := by
  by_cases mine : j = i
  · subst mine
    exact .inl ⟨rfl, by rwa [Function.update_self] at busy⟩
  · exact .inr ⟨mine, by rwa [Function.update_of_ne mine] at busy⟩

omit [Amount α] in
/-- A worker that goes on with its delivery, or lets go of it, takes none from another. -/
theorem kept {i : Nat} {moved : Worker α} {world : World (Memory α) α} (consistent : Consistent s)
    (numbered : world.storage.queue.Numbered)
    (less : ∀ delivery, moved.delivery? = some delivery →
      (s.workers i).delivery? = some delivery)
    (holds : ∀ j delivery, (s.workers j).delivery? = some delivery →
      (j = i → moved.delivery? = some delivery) → ∃ m, Holds world.storage.queue delivery m)
    (quotes : List (Quote α)) (failures : List Attempt) :
    Consistent ⟨world, Function.update s.workers i moved, quotes, failures⟩ := by
  have before : ∀ j delivery, (Function.update s.workers i moved j).delivery? = some delivery →
      (s.workers j).delivery? = some delivery ∧ (j = i → moved.delivery? = some delivery) := by
    intro j delivery busy
    rcases delivery_update busy with ⟨rfl, own⟩ | ⟨other, away⟩
    · exact ⟨less delivery own, fun _ => own⟩
    · exact ⟨away, fun mine => absurd mine other⟩
  refine ⟨numbered, fun j delivery busy => ?_, fun j k delivery other busy busy' same => ?_⟩
  · obtain ⟨busy, mine⟩ := before j delivery busy
    exact holds j delivery busy mine
  · exact consistent.exclusive j k delivery other (before j delivery busy).1
      (before k other busy').1 same

omit [Amount α] in
/-- A worker that claims a message holds it alone: it was queued, and what others hold is in
processing. -/
theorem claim {i : Nat} {m : QueuedMessage α} {world : World (Memory α) α}
    (consistent : Consistent s) (member : m ∈ s.world.storage.queue.messages)
    (queued : m.status = .queued)
    (queue : world.storage.queue = s.world.storage.queue.modify m.id claimed)
    (quotes : List (Quote α)) (failures : List Attempt) :
    Consistent ⟨world, Function.update s.workers i (.holding m.deliver), quotes, failures⟩ := by
  have free : ∀ j delivery, (s.workers j).delivery? = some delivery → delivery.id ≠ m.id := by
    intro j delivery busy same
    obtain ⟨held, holds⟩ := consistent.held j delivery busy
    have equal := consistent.numbered.unique holds.1 member
      (Int.natCast_inj.mp (holds.2.1.trans same))
    have processing := holds.2.2.2.2.2
    rw [equal, queued] at processing
    cases processing
  refine ⟨?_, fun j delivery busy => ?_, fun j k delivery other busy busy' same => ?_⟩
  · change world.storage.queue.Numbered
    rw [queue]
    exact consistent.numbered.modify _ fun _ => rfl
  · change ∃ held, Holds world.storage.queue delivery held
    rw [queue]
    rcases delivery_update busy with ⟨rfl, own⟩ | ⟨_, away⟩
    · cases own
      exact ⟨claimed m, mem_modify.mpr ⟨m, member, by rw [if_pos rfl]⟩, rfl, rfl, rfl, rfl, rfl⟩
    · obtain ⟨held, holds⟩ := consistent.held j delivery away
      have other := free j delivery away
      exact ⟨held, holds_modify _ (by rwa [holds.2.1]) holds⟩
  · rcases delivery_update busy with ⟨rfl, own⟩ | ⟨_, away⟩ <;>
      rcases delivery_update busy' with ⟨mine, own'⟩ | ⟨_, away'⟩
    · exact mine.symm
    · cases own
      exact absurd same.symm (free k other away')
    · cases own'
      exact absurd same (free j delivery away)
    · exact consistent.exclusive j k delivery other away away' same

theorem work {i : Nat} {moved : Worker α} {world : World (Memory α) α} (consistent : Consistent s)
    (moves : Moves settings (s.workers i) s.world moved world) (quotes : List (Quote α))
    (failures : List Attempt) :
    Consistent ⟨world, Function.update s.workers i moved, quotes, failures⟩ := by
  rcases moves.queue with ⟨quiet, same⟩ | ⟨m, member, queued, _, rfl, queue⟩ |
    ⟨delivery, outcome, change, settling, rfl, settles, queue⟩
  · refine consistent.kept (consistent.numbered.quiet quiet) ?_ ?_ quotes failures
    · intro delivery busy
      rcases same with same | none
      · rwa [← same]
      · rw [none] at busy
        cases busy
    · intro j delivery busy _
      obtain ⟨m, holds⟩ := consistent.held j delivery busy
      exact ⟨m, holds_quiet quiet holds⟩
  · exact consistent.claim member queued queue quotes failures
  · refine consistent.kept ?_ (fun delivery busy => by cases busy) ?_ quotes failures
    · rw [queue]
      exact consistent.numbered.modify _ fun m => (settles m).1
    · intro j other busy mine
      by_cases same : j = i
      · cases mine same
      · rw [queue]
        obtain ⟨m, holds⟩ := consistent.held j other busy
        refine ⟨m, holds_modify _ (fun equal => same ?_) holds⟩
        have own : (s.workers i).delivery? = some delivery := by rw [settling]; rfl
        exact consistent.exclusive j i other delivery busy own (holds.2.1.symm.trans equal)

/-- A record stays on the queue. Unless it is claimed again, it becomes acknowledged only when the
worker that holds it settles without an error. -/
theorem successor {i : Nat} {moved : Worker α} {world : World (Memory α) α}
    (consistent : Consistent s) (moves : Moves settings (s.workers i) s.world moved world)
    {m : QueuedMessage α} (member : m ∈ s.world.storage.queue.messages) :
    ∃ m' ∈ world.storage.queue.messages, m'.id = m.id ∧ m.attempts ≤ m'.attempts ∧
      (m'.attempts = m.attempts → m'.status = .acked → m.status = .acked ∨
        ∃ delivery, s.workers i = settling delivery (.ok ()) ∧
          Holds s.world.storage.queue delivery m) := by
  rcases moves.queue with ⟨quiet, _⟩ | ⟨claimed, _, _, _, _, queue⟩ |
    ⟨delivery, outcome, change, settling, _, settles, queue⟩
  · exact ⟨m, quiet.keeps member, rfl, le_rfl, fun _ acked => .inl acked⟩
  · refine ⟨_, by rw [queue]; exact mem_modify.mpr ⟨m, member, rfl⟩, ?_⟩
    split
    · refine ⟨rfl, Int.le_add_one le_rfl, fun same => ?_⟩
      exact absurd same (Int.lt_succ m.attempts).ne'
    · exact ⟨rfl, le_rfl, fun _ acked => .inl acked⟩
  · refine ⟨_, by rw [queue]; exact mem_modify.mpr ⟨m, member, rfl⟩, ?_⟩
    split
    · rename_i same
      obtain ⟨id, _, _, attempts, status⟩ := settles m
      refine ⟨id, attempts.ge, fun _ acked => .inr ⟨delivery, ?_, ?_⟩⟩
      · rcases outcome with e | _
        · simp [acked] at status
        · exact settling
      · obtain ⟨held, holds⟩ := consistent.held i delivery (by rw [settling]; rfl)
        rwa [consistent.numbered.unique member holds.1 (Int.natCast_inj.mp (same.trans holds.2.1.symm))]
    · exact ⟨rfl, le_rfl, fun _ acked => .inl acked⟩

/-- A record is acknowledged already, or by the worker that settles its delivery. -/
theorem acknowledged {i : Nat} {moved : Worker α} {world : World (Memory α) α}
    (consistent : Consistent s) (moves : Moves settings (s.workers i) s.world moved world)
    {m : QueuedMessage α} (member : m ∈ world.storage.queue.messages) (acked : m.status = .acked) :
    m ∈ s.world.storage.queue.messages ∨
      ∃ delivery, s.workers i = settling delivery (.ok ()) ∧ (m.id : Int) = delivery.id ∧
        m.topic = delivery.topic ∧ m.payload = delivery.payload ∧
          m.attempts = delivery.attempts := by
  rcases moves.queue with ⟨quiet, _⟩ | ⟨_, _, _, _, _, queue⟩ |
    ⟨delivery, outcome, change, settling, _, settles, queue⟩
  · rcases quiet.mem member with before | queued
    · exact .inl before
    · rw [queued] at acked
      cases acked
  · rw [queue] at member
    obtain ⟨before, listed, rfl⟩ := mem_modify.mp member
    split at acked
    · cases acked
    · rename_i other
      exact .inl (by rwa [if_neg other])
  · rw [queue] at member
    obtain ⟨before, listed, rfl⟩ := mem_modify.mp member
    split at acked
    · rename_i same
      obtain ⟨id, topic, payload, attempts, status⟩ := settles before
      rcases outcome with e | _
      · simp [acked] at status
      · obtain ⟨held, holds⟩ := consistent.held i delivery (by rw [settling]; rfl)
        have equal := consistent.numbered.unique listed holds.1
          (Int.natCast_inj.mp (same.trans holds.2.1.symm))
        rw [if_pos same, id, topic, payload, attempts, equal]
        exact .inr ⟨delivery, settling, holds.2.1, holds.2.2.1, holds.2.2.2.1, holds.2.2.2.2.1⟩
    · rename_i other
      exact .inl (by rwa [if_neg other])

theorem step (consistent : Consistent s) (event : Event α) :
    Consistent (s.step settings event) := by
  rcases s.work_or_rests settings event with ⟨i, topic, rfl⟩ | rests
  · exact consistent.work (moves settings topic (s.workers i) s.world) _ _
  · exact consistent.rests rests

theorem run (consistent : Consistent s) (events : List (Event α)) :
    Consistent (s.run settings events) :=
  run_keeps (fun _ event consistent => consistent.step event) consistent events

end Consistent

end System
end MeteredBilling
