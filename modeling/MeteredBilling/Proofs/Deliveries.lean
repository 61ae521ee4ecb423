import Mathlib.Data.List.Basic
import Mathlib.Data.List.Nodup
import MeteredBilling.Proofs.Events
import MeteredBilling.Proofs.Traffic

/-!
# Deliveries

What calls on the bus keep of every record: a message is in processing exactly while one delivery of
it is unsettled, its attempts count its claims within the bound, and once it is acknowledged,
poisoned or dead nothing touches it again.
-/

namespace MeteredBilling

open Calendar Engine

variable {α : Type}

namespace MessageQueue

variable {q : MessageQueue α} {id : Int} {change : QueuedMessage α → QueuedMessage α}

theorem Numbered.id_le (numbered : q.Numbered) {m : QueuedMessage α} (member : m ∈ q.messages) :
    m.id ≤ q.messages.length := by
  obtain ⟨n, place⟩ := List.mem_iff_getElem?.mp member
  have number := numbered n m place
  obtain ⟨bound, _⟩ := List.getElem?_eq_some_iff.mp place
  omega

theorem Numbered.ids (numbered : q.Numbered) :
    (q.messages.map fun m => (m.id : Int)).Nodup := by
  rw [List.nodup_iff_injective_get]
  intro i j same
  have first := numbered i _ (List.getElem?_eq_getElem (by simpa using i.isLt))
  have second := numbered j _ (List.getElem?_eq_getElem (by simpa using j.isLt))
  simp only [List.get_eq_getElem, List.getElem_map] at same
  exact Fin.ext (by omega)

theorem Numbered.only (numbered : q.Numbered) {m : QueuedMessage α} (member : m ∈ q.messages) :
    q.messages.filter (fun other => (other.id : Int) = m.id) = [m] := by
  obtain ⟨before, after, parts⟩ := List.append_of_mem member
  have ids := numbered.ids
  rw [parts, List.map_append, List.map_cons] at ids
  have apart := List.nodup_middle.mp ids
  rw [← List.map_append, List.nodup_cons, List.mem_map, not_exists] at apart
  have others {other : QueuedMessage α} (listed : other ∈ before ++ after) :
      ¬decide ((other.id : Int) = m.id) = true :=
    fun same => apart.1 other ⟨listed, of_decide_eq_true same⟩
  rw [parts, List.filter_append, List.filter_cons_of_pos (by simp),
    List.filter_eq_nil_iff.mpr fun _ listed => others (List.mem_append_left _ listed),
    List.filter_eq_nil_iff.mpr fun _ listed => others (List.mem_append_right _ listed)]
  rfl

theorem map_modify {β : Type} (view : QueuedMessage α → β)
    (keeps : ∀ m, view (change m) = view m) :
    (q.modify id change).messages.map view = q.messages.map view := by
  rw [modify, List.map_map]
  refine List.map_congr_left fun m _ => ?_
  rw [Function.comp_apply]
  split
  · exact keeps m
  · rfl

theorem mem_modify_other {m : QueuedMessage α} (member : m ∈ q.messages)
    (other : (m.id : Int) ≠ id) : m ∈ (q.modify id change).messages :=
  mem_modify.mpr ⟨m, member, by rw [if_neg other]⟩

end MessageQueue

namespace Traffic

open MessageQueue

variable {policy : DeliveryPolicy} {t t' : Traffic α}

def heldOf (t : Traffic α) (id : Int) : List (Delivery α) := t.unsettled.filter fun d => d.id = id

def claimsOf (t : Traffic α) (id : Int) : Nat := t.claims.countP fun d => d.id = id

/-- What a record tells of the calls so far. -/
structure Recorded (policy : DeliveryPolicy) (t : Traffic α) (m : QueuedMessage α) : Prop where
  attempts : m.attempts = t.claimsOf m.id
  bounded : m.attempts ≤ max 1 policy.maxAttempts
  again : m.status = .queued → m.attempts < max 1 policy.maxAttempts
  held : t.heldOf m.id = if m.status = .processing then [delivery m] else []

namespace Recorded

variable {m : QueuedMessage α} {d : Delivery α} {w : World (Memory α) α}

theorem claim_own (recorded : Recorded policy t m) (queued : m.status = .queued) :
    Recorded policy ⟨w, t.published, t.claims ++ [m.deliver], t.unsettled ++ [m.deliver]⟩
      { m with status := .processing, attempts := m.attempts + 1 } := by
  obtain ⟨attempts, _, again, held⟩ := recorded
  rw [if_neg (by simp [queued]), heldOf] at held
  refine ⟨?_, again queued, nofun, ?_⟩
  · simp only [claimsOf, List.countP_append] at attempts ⊢
    simp [attempts, QueuedMessage.deliver]
  · simp [heldOf, held, QueuedMessage.deliver, delivery]

theorem claim_other (recorded : Recorded policy t m) (other : d.id ≠ m.id) :
    Recorded policy ⟨w, t.published, t.claims ++ [d], t.unsettled ++ [d]⟩ m := by
  obtain ⟨attempts, bounded, again, held⟩ := recorded
  refine ⟨?_, bounded, again, ?_⟩
  · simpa [claimsOf, List.countP_append, other] using attempts
  · simpa [heldOf, List.filter_append, other] using held

theorem settle_own (recorded : Recorded policy t m) (processing : m.status = .processing)
    {released : QueuedMessage α} (releases : Releases policy m released) :
    Recorded policy ⟨w, t.published, t.claims, t.unsettled.filter fun other =>
      ¬(other.id = (delivery m).id ∧ other.attempts = (delivery m).attempts)⟩ released := by
  obtain ⟨attempts, bounded, _, held⟩ := recorded
  have id : released.id = m.id := Int.ofNat_inj.mp (congrArg Delivery.id releases.same)
  have same : released.attempts = m.attempts := congrArg Delivery.attempts releases.same
  rw [if_pos processing] at held
  constructor
  case attempts =>
    rw [same, id]
    exact attempts
  case bounded =>
    rw [same]
    exact bounded
  case again =>
    intro queued
    have left := releases.again queued
    rw [same]
    omega
  case held =>
    -- the delivery that is settled was the only one of the record
    rw [if_neg releases.ended, id]
    refine List.filter_eq_nil_iff.mpr fun d left => ?_
    obtain ⟨unsettled, another⟩ := List.mem_filter.mp left
    simp only [decide_eq_true_eq] at another ⊢
    intro own
    have only : d ∈ t.heldOf m.id := List.mem_filter.mpr ⟨unsettled, by simp [own]⟩
    rw [held] at only
    obtain rfl := List.mem_singleton.mp only
    exact another ⟨rfl, rfl⟩

theorem settle_other (recorded : Recorded policy t m) (other : d.id ≠ m.id) :
    Recorded policy ⟨w, t.published, t.claims, t.unsettled.filter fun left =>
      ¬(left.id = d.id ∧ left.attempts = d.attempts)⟩ m := by
  obtain ⟨attempts, bounded, again, held⟩ := recorded
  refine ⟨attempts, bounded, again, ?_⟩
  rw [← held, heldOf, heldOf, List.filter_filter]
  refine List.filter_congr fun left _ => ?_
  by_cases own : left.id = m.id
  · simp [own, other.symm]
  · simp [own]

end Recorded

/-- What calls in order leave of the traffic. -/
structure Sound (policy : DeliveryPolicy) (t : Traffic α) : Prop where
  bus : t.queue.policy = policy
  numbered : t.queue.Numbered
  published : t.queue.messages.map (fun m => ((m.id : Int), m.topic, m.payload, m.headers)) =
    t.published.map fun p => (p.1, p.2.topic, p.2.payload, p.2.headers)
  claimed : ∀ d ∈ t.claims, ∃ m ∈ t.queue.messages, (m.id : Int) = d.id
  unsettled : ∀ d ∈ t.unsettled, d ∈ t.claims
  recorded : ∀ m ∈ t.queue.messages, Recorded policy t m

namespace Sound

theorem start (w : World (Memory α) α) (policy : DeliveryPolicy) :
    Sound policy (Traffic.start w policy) where
  bus := rfl
  numbered n m place := by simp [Traffic.start, MessageQueue.empty] at place
  published := rfl
  claimed d member := by cases member
  unsettled d member := by cases member
  recorded m member := by cases member

theorem of_unsettled (sound : Sound policy t) {held : Delivery α} (unsettled : held ∈ t.unsettled) :
    ∃ m ∈ t.queue.messages, m.status = .processing ∧ held = delivery m := by
  obtain ⟨m, member, id⟩ := sound.claimed held (sound.unsettled held unsettled)
  have own : held ∈ t.heldOf m.id := List.mem_filter.mpr ⟨unsettled, by simp [id]⟩
  rw [(sound.recorded m member).held] at own
  split at own
  · rename_i processing
    exact ⟨m, member, processing, List.mem_singleton.mp own⟩
  · cases own

theorem fresh (sound : Sound policy t) {d : Delivery α} (claimed : d ∈ t.claims) :
    d.id ≠ t.queue.nextId := by
  obtain ⟨m, member, id⟩ := sound.claimed d claimed
  have bound := sound.numbered.id_le member
  rw [← id, nextId]
  omega

theorem publish (sound : Sound policy t) {w : World (Memory α) α} {message : Outbound α}
    {now : Instant} (queue : w.storage.queue = t.queue.publish message now) :
    Sound policy
      ⟨w, t.published ++ [((t.queue.nextId : Int), message)], t.claims, t.unsettled⟩ where
  bus := by
    rw [Traffic.queue, queue]
    exact sound.bus
  numbered := by
    rw [Traffic.queue, queue]
    exact sound.numbered.publish message now
  published := by
    rw [Traffic.queue, queue, MessageQueue.publish, List.map_append, List.map_append,
      sound.published]
    rfl
  claimed d member := by
    obtain ⟨m, listed, id⟩ := sound.claimed d member
    exact ⟨m, by rw [Traffic.queue, queue]; exact mem_publish.mpr (.inl listed), id⟩
  unsettled := sound.unsettled
  recorded m member := by
    rw [Traffic.queue, queue] at member
    rcases mem_publish.mp member with before | rfl
    · obtain ⟨attempts, bounded, again, held⟩ := sound.recorded m before
      exact ⟨attempts, bounded, again, held⟩
    · -- nothing was claimed yet under the number of the new message
      have never : t.claimsOf t.queue.nextId = 0 :=
        List.countP_eq_zero.mpr fun d claimed => by simpa using sound.fresh claimed
      have free : t.heldOf t.queue.nextId = [] :=
        List.filter_eq_nil_iff.mpr fun d held => by
          simpa using sound.fresh (sound.unsettled d held)
      refine ⟨?_, ?_, fun _ => ?_, ?_⟩
      · exact (congrArg Nat.cast never).symm
      · change (0 : Int) ≤ _
        omega
      · change (0 : Int) < _
        omega
      · exact free

/-- One message is changed, and its number, topic, payload and headers are kept. -/
theorem modify (sound : Sound policy t) {w : World (Memory α) α} {id : Int}
    {change : QueuedMessage α → QueuedMessage α} {claims unsettled : List (Delivery α)}
    (queue : w.storage.queue = t.queue.modify id change)
    (keeps : ∀ m, ((change m).id, (change m).topic, (change m).payload, (change m).headers) =
      (m.id, m.topic, m.payload, m.headers))
    (claimed : ∀ d ∈ claims, ∃ m ∈ t.queue.messages, (m.id : Int) = d.id)
    (known : ∀ d ∈ unsettled, d ∈ claims)
    (recorded : ∀ m ∈ t.queue.messages, Recorded policy ⟨w, t.published, claims, unsettled⟩
      (if (m.id : Int) = id then change m else m)) :
    Sound policy ⟨w, t.published, claims, unsettled⟩ := by
  have number (m : QueuedMessage α) : (change m).id = m.id := congrArg (·.1) (keeps m)
  constructor
  case bus =>
    rw [Traffic.queue, queue]
    exact sound.bus
  case numbered =>
    rw [Traffic.queue, queue]
    exact sound.numbered.modify id number
  case published =>
    rw [Traffic.queue, queue, map_modify]
    · exact sound.published
    · intro m
      exact congrArg (fun p => ((p.1 : Int), p.2)) (keeps m)
  case claimed =>
    intro d member
    obtain ⟨m, listed, same⟩ := claimed d member
    rw [Traffic.queue, queue]
    refine ⟨_, mem_modify.mpr ⟨m, listed, rfl⟩, ?_⟩
    split
    · rw [number]
      exact same
    · exact same
  case unsettled => exact known
  case recorded =>
    intro m listed
    rw [Traffic.queue, queue] at listed
    obtain ⟨before, stored, rfl⟩ := mem_modify.mp listed
    exact recorded before stored

theorem claim (sound : Sound policy t) {w : World (Memory α) α} {taken : QueuedMessage α}
    (member : taken ∈ t.queue.messages) (queued : taken.status = .queued)
    (queue : w.storage.queue = t.queue.modify taken.id fun m =>
      { m with status := .processing, attempts := m.attempts + 1 }) :
    Sound policy
      ⟨w, t.published, t.claims ++ [taken.deliver], t.unsettled ++ [taken.deliver]⟩ := by
  refine sound.modify queue (fun _ => rfl) (fun d claimed => ?_) (fun d unsettled => ?_)
    (fun m listed => ?_)
  · rcases List.mem_append.mp claimed with earlier | last
    · exact sound.claimed d earlier
    · rw [List.mem_singleton.mp last]
      exact ⟨taken, member, rfl⟩
  · rcases List.mem_append.mp unsettled with earlier | last
    · exact List.mem_append_left _ (sound.unsettled d earlier)
    · exact List.mem_append_right _ last
  · by_cases same : (m.id : Int) = taken.id
    · obtain rfl := sound.numbered.unique listed member (Int.ofNat_inj.mp same)
      rw [if_pos same]
      exact (sound.recorded m listed).claim_own queued
    · rw [if_neg same]
      exact (sound.recorded m listed).claim_other (Ne.symm same)

theorem settle (sound : Sound policy t) {w : World (Memory α) α} {held : Delivery α}
    (unsettled : held ∈ t.unsettled) {change : QueuedMessage α → QueuedMessage α}
    (releases : ∀ m, Releases t.queue.policy m (change m))
    (queue : w.storage.queue = t.queue.modify held.id change) :
    Sound policy ⟨w, t.published, t.claims, t.unsettled.filter fun other =>
      ¬(other.id = held.id ∧ other.attempts = held.attempts)⟩ := by
  obtain ⟨holder, member, processing, rfl⟩ := sound.of_unsettled unsettled
  refine sound.modify queue (fun m => ?_) sound.claimed (fun d left => ?_) (fun m listed => ?_)
  · exact congrArg (fun d => (d.id.toNat, d.topic, d.payload, d.headers)) (releases m).same
  · exact sound.unsettled d (List.mem_filter.mp left).1
  · by_cases same : (m.id : Int) = (delivery holder).id
    · obtain rfl := sound.numbered.unique listed member (Int.ofNat_inj.mp same)
      rw [if_pos same]
      exact (sound.recorded m listed).settle_own processing (sound.bus ▸ releases m)
    · rw [if_neg same]
      exact (sound.recorded m listed).settle_other (Ne.symm same)

theorem rest (sound : Sound policy t) {w : World (Memory α) α} (queue : w.storage.queue = t.queue) :
    Sound policy { t with world := w } := by
  refine ⟨?_, ?_, ?_, ?_, sound.unsettled, ?_⟩ <;> rw [Traffic.queue, queue]
  · exact sound.bus
  · exact sound.numbered
  · exact sound.published
  · exact sound.claimed
  · intro m member
    obtain ⟨attempts, bounded, again, held⟩ := sound.recorded m member
    exact ⟨attempts, bounded, again, held⟩

theorem change (sound : Sound policy t) (change : Change t t') : Sound policy t' := by
  cases change with
  | rest queue => exact sound.rest queue
  | publish message now queue => exact sound.publish queue
  | claim member queued queue => exact sound.claim member queued queue
  | settle unsettled releases queue => exact sound.settle unsettled releases queue

theorem run (sound : Sound policy t) {calls : List (BusCall α)} (orderly : t.Orderly calls) :
    Sound policy (t.run calls) := by
  induction calls generalizing t with
  | nil => exact sound
  | cons call rest ih => exact ih (sound.change (change_step orderly.1)) orderly.2

/-! ### Settlements -/

end Sound

/-- The settlement succeeds. It replaces the record, and no other. -/
def Settles (t : Traffic α) (m : QueuedMessage α) (settlement : Engine (Memory α) α PUnit)
    (released : QueuedMessage α) : Prop :=
  ∃ left, settlement.exec t.world = some (.ok ⟨⟩, left) ∧
    left.storage.queue.messages = t.queue.messages.map fun other =>
      if other.id = m.id then released else other

/-- Every settlement of the delivery of a record succeeds. Only the moment of a redelivery can stand
in the way, which has to be on the calendar. -/
structure Settleable (t : Traffic α) (m : QueuedMessage α) : Prop where
  ack : t.Settles m (MessageBus.ack (delivery m)) { m with status := .acked }
  poison (reason : Complaint) : t.Settles m (MessageBus.poison (delivery m) reason)
    { m with status := .poisoned, lastError := some reason }
  retry (reason : Complaint) (moment : Instant)
    (due : redeliveryTime? t.queue.policy (delivery m) t.world.now = some moment) :
    t.Settles m (MessageBus.retry (delivery m) reason)
      { m with
        status := if t.queue.policy.maxAttempts ≤ m.attempts then .dead else .queued
        availableAt := moment
        lastError := some reason }

namespace Sound

theorem settles (sound : Sound policy t) {m : QueuedMessage α} (member : m ∈ t.queue.messages)
    {settlement : Engine (Memory α) α PUnit} (change : QueuedMessage α → QueuedMessage α)
    (ran : settlement.exec t.world =
      (Memory.settleQueue (·.settle (delivery m).id change)).exec t.world) :
    t.Settles m settlement (change m) := by
  have listed : (t.queue.messages.any fun other => (other.id : Int) = (delivery m).id) = true :=
    List.any_eq_true.mpr ⟨m, member, decide_eq_true rfl⟩
  rw [Memory.exec_settleQueue, MessageQueue.settle, if_pos listed] at ran
  refine ⟨_, ran, List.map_congr_left fun other stored => ?_⟩
  by_cases same : other.id = m.id
  · obtain rfl := sound.numbered.unique stored member same
    have own : (other.id : Int) = (delivery other).id := rfl
    rw [if_pos own, if_pos rfl]
  · have apart : (other.id : Int) ≠ (delivery m).id := fun own => same (Int.ofNat_inj.mp own)
    rw [if_neg same, if_neg apart]

theorem settleable (sound : Sound policy t) {m : QueuedMessage α}
    (member : m ∈ t.queue.messages) : t.Settleable m where
  ack := sound.settles member (fun m => { m with status := .acked }) rfl
  poison reason :=
    sound.settles member (fun m => { m with status := .poisoned, lastError := some reason }) rfl
  retry reason moment due :=
    sound.settles member (fun m =>
      { m with
        status := if t.queue.policy.maxAttempts ≤ m.attempts then .dead else .queued
        availableAt := moment
        lastError := some reason }) (Memory.exec_retry reason due)

/-! ### Messages that are settled for good -/

theorem final_change (sound : Sound policy t) (change : Change t t') {m : QueuedMessage α}
    (member : m ∈ t.queue.messages) (final : m.status ∈ [.acked, .poisoned, .dead]) :
    m ∈ t'.queue.messages ∧ t'.claimsOf m.id = t.claimsOf m.id := by
  -- what a call takes from the queue, or settles, is another message
  have other {taken : QueuedMessage α} (listed : taken ∈ t.queue.messages)
      (current : taken.status = .queued ∨ taken.status = .processing) :
      (m.id : Int) ≠ taken.id := by
    intro same
    obtain rfl := sound.numbered.unique member listed (Int.ofNat_inj.mp same)
    rcases current with status | status <;> simp [status] at final
  cases change with
  | rest queue => exact ⟨by rwa [Traffic.queue, queue], rfl⟩
  | publish message now queue =>
    exact ⟨by rw [Traffic.queue, queue]; exact mem_publish.mpr (.inl member), rfl⟩
  | claim listed queued queue =>
    have apart := other listed (.inl queued)
    refine ⟨by rw [Traffic.queue, queue]; exact mem_modify_other member apart, ?_⟩
    simp [claimsOf, List.countP_append, QueuedMessage.deliver, apart.symm]
  | settle unsettled releases queue =>
    obtain ⟨holder, listed, processing, rfl⟩ := sound.of_unsettled unsettled
    have apart := other listed (.inr processing)
    exact ⟨by rw [Traffic.queue, queue]; exact mem_modify_other member apart, rfl⟩

theorem final_run (sound : Sound policy t) {calls : List (BusCall α)} (orderly : t.Orderly calls)
    {m : QueuedMessage α} (member : m ∈ t.queue.messages)
    (final : m.status ∈ [.acked, .poisoned, .dead]) :
    m ∈ (t.run calls).queue.messages ∧ (t.run calls).claimsOf m.id = t.claimsOf m.id := by
  induction calls generalizing t with
  | nil => exact ⟨member, rfl⟩
  | cons call rest ih =>
    have change := change_step orderly.1
    obtain ⟨stays, claims⟩ := sound.final_change change member final
    obtain ⟨ended, all⟩ := ih (sound.change change) orderly.2 stays
    exact ⟨ended, all.trans claims⟩

end Sound

/-! ### The messages published -/

theorem published_settle (t : Traffic α) (held : Delivery α)
    (settlement : Engine (Memory α) α PUnit) :
    (t.settle held settlement).published = t.published := by
  unfold settle
  split <;> rfl

theorem published_step (t : Traffic α) (call : BusCall α) :
    ∃ id, (t.step call).published = t.published ++ call.published?.toList.map ((id, ·)) := by
  have nothing : t.published = t.published ++ [] := (List.append_nil _).symm
  cases call with
  | publish message => exact ⟨_, rfl⟩
  | claim topic =>
    refine ⟨0, ?_⟩
    rw [step, Memory.exec_claim]
    cases (t.world.storage.queue.claim topic t.world.now).1 <;> exact nothing
  | ack held | retry held reason | poison held reason =>
    refine ⟨0, ?_⟩
    rw [step, published_settle]
    exact nothing
  | clock moment => exact ⟨0, nothing⟩

theorem published_run (t : Traffic α) (calls : List (BusCall α)) :
    ∃ more, (t.run calls).published = t.published ++ more ∧
      more.map (·.2) = calls.filterMap (·.published?) := by
  induction calls generalizing t with
  | nil => exact ⟨[], (List.append_nil _).symm, rfl⟩
  | cons call rest ih =>
    obtain ⟨id, first⟩ := published_step t call
    obtain ⟨more, others, messages⟩ := ih (t.step call)
    refine ⟨call.published?.toList.map ((id, ·)) ++ more, ?_, ?_⟩
    · rw [← List.append_assoc, ← first]
      exact others
    · rw [List.map_append, messages, List.filterMap_cons]
      cases call.published? <;> rfl

theorem Sound.listed (sound : Sound policy t) {p : Int × Outbound α} (published : p ∈ t.published) :
    ∃ m, t.queue.messages.filter (fun m => (m.id : Int) = p.1) = [m] ∧
      m.topic = p.2.topic ∧ m.payload = p.2.payload ∧ m.headers = p.2.headers := by
  have row : (p.1, p.2.topic, p.2.payload, p.2.headers) ∈
      t.queue.messages.map fun m => ((m.id : Int), m.topic, m.payload, m.headers) := by
    rw [sound.published]
    exact List.mem_map_of_mem published
  obtain ⟨m, member, same⟩ := List.mem_map.mp row
  obtain ⟨id, topic, payload, headers⟩ : (m.id : Int) = p.1 ∧ m.topic = p.2.topic ∧
      m.payload = p.2.payload ∧ m.headers = p.2.headers := by simpa using same
  refine ⟨m, ?_, topic, payload, headers⟩
  rw [← id]
  exact sound.numbered.only member

theorem Sound.ids (sound : Sound policy t) : (t.published.map (·.1)).Nodup := by
  have same := congrArg (List.map (·.1)) sound.published
  simp only [List.map_map, Function.comp_def] at same
  rw [← same]
  exact sound.numbered.ids

/-- From an empty bus, with publications, claims and settlements of any number of workers in any
order and with any moves of the clock, each delivery settled once at the most: every message stays
on record once, as it was published; it is in processing exactly while one delivery of it is
unsettled, which bears its attempts; its attempts are its claims, and within the bound; once
acknowledged, poisoned or dead it never changes, nor is it claimed; a claim is answered with the
message that waits for the longest; and the settlement of a delivery that is unsettled succeeds. -/
theorem delivery_protocol (w : World (Memory α) α) (policy : DeliveryPolicy)
    (calls later : List (BusCall α))
    (orderly : (Traffic.start w policy).Orderly (calls ++ later)) :
    let t := (Traffic.start w policy).run calls
    let ended := t.run later
    t.published.map (·.2) = calls.filterMap (·.published?) ∧
    (t.published.map (·.1)).Nodup ∧
    (∀ p ∈ t.published, ∃ m, ended.queue.messages.filter (fun m => (m.id : Int) = p.1) = [m] ∧
      m.topic = p.2.topic ∧ m.payload = p.2.payload ∧ m.headers = p.2.headers) ∧
    (∀ m ∈ t.queue.messages,
      t.heldOf m.id = (if m.status = .processing then [delivery m] else []) ∧
      m.attempts = t.claimsOf m.id ∧ m.attempts ≤ max 1 policy.maxAttempts ∧
      (m.status ∈ [.acked, .poisoned, .dead] →
        m ∈ ended.queue.messages ∧ ended.claimsOf m.id = t.claimsOf m.id)) ∧
    (∀ topic, ∃ answer left,
      (MessageBus.claim topic : Engine (Memory α) α (Option (Delivery α))).exec t.world =
        some (.ok answer, left) ∧
      t.queue.Answers topic t.world.now answer) ∧
    t.queue.policy = policy ∧
    ∀ d ∈ t.unsettled, ∃ m ∈ t.queue.messages, d = delivery m ∧ t.Settleable m := by
  intro t ended
  obtain ⟨before, after⟩ := orderly_append.mp orderly
  have sound : Sound policy t := (Sound.start w policy).run before
  have last : Sound policy ended := sound.run after
  obtain ⟨all, shown, messages⟩ := published_run (Traffic.start w policy) calls
  obtain ⟨more, grown, _⟩ := published_run t later
  refine ⟨by rw [shown]; exact messages, sound.ids, fun p published => ?_, fun m member => ?_,
    fun topic => ?_, sound.bus, fun d unsettled => ?_⟩
  · exact last.listed (by rw [grown]; exact List.mem_append_left _ published)
  · obtain ⟨attempts, bounded, _, held⟩ := sound.recorded m member
    exact ⟨held, attempts, bounded, fun final => sound.final_run after member final⟩
  · exact ⟨_, _, Memory.exec_claim topic t.world, sound.numbered.answers topic t.world.now⟩
  · obtain ⟨m, member, _, held⟩ := sound.of_unsettled unsettled
    exact ⟨m, member, held, sound.settleable member⟩

/-- Two workers take three messages. One gives its message back until it is dead, the other is done
with the second message and holds the third. -/
def twoWorkers : List (BusCall ℚ) :=
  [.publish (.ofPayload "topic" .null), .publish (.ofPayload "topic" (.bool true)),
    .publish (.ofPayload "topic" (.bool false)), .claim "topic", .claim "topic",
    .retry ⟨1, "topic", .null, [], 1⟩ (.remark "busy"), .ack ⟨2, "topic", .bool true, [], 1⟩,
    .claim "topic", .clock ⟨2, 0⟩, .claim "topic",
    .retry ⟨1, "topic", .null, [], 2⟩ (.remark "busy")]

/-- The third message is set aside. -/
def thirdPoisoned : List (BusCall ℚ) :=
  [.poison ⟨3, "topic", .bool false, [], 1⟩ (.remark "broken"), .claim "topic"]

theorem delivery_protocol_twoWorkers :
    let start := Traffic.start opening { maxAttempts := 2 }
    let t := start.run twoWorkers
    start.Orderly (twoWorkers ++ thirdPoisoned) ∧
    t.queue.messages.map (·.status) = [.dead, .acked, .processing] ∧
    (t.run thirdPoisoned).queue.messages.map (·.status) = [.dead, .acked, .poisoned] ∧
    (∀ m ∈ t.queue.messages, m.attempts = t.claimsOf m.id ∧ m.attempts ≤ max 1 2 ∧
      (m.status ∈ [.acked, .poisoned, .dead] → m ∈ (t.run thirdPoisoned).queue.messages)) ∧
    ∃ m ∈ t.queue.messages, delivery m = ⟨3, "topic", .bool false, [], 1⟩ ∧
      t.Settles m (MessageBus.poison (delivery m) (.remark "broken"))
        { m with status := .poisoned, lastError := some (.remark "broken") } := by
  have orderly : (Traffic.start opening { maxAttempts := 2 }).Orderly
      (twoWorkers ++ thirdPoisoned) := by
    refine ⟨nofun, nofun, nofun, nofun, nofun, ?_, ?_, nofun, nofun, nofun, ?_, ?_, nofun, trivial⟩
    all_goals
      intro delivery settled
      cases settled
      first
      | exact .head _
      | exact .tail _ (.head _)
  have settled : ((Traffic.start opening { maxAttempts := 2 }).run twoWorkers).queue.messages.map
      (·.status) = [.dead, .acked, .processing] := by decide +kernel
  have ended : (((Traffic.start opening { maxAttempts := 2 }).run twoWorkers).run
      thirdPoisoned).queue.messages.map (·.status) = [.dead, .acked, .poisoned] := by
    decide +kernel
  have law := delivery_protocol opening { maxAttempts := 2 } twoWorkers thirdPoisoned orderly
  have held : ∀ d ∈ (thirdPoisoned.head?.bind (·.settled?)),
      d ∈ ((Traffic.start opening { maxAttempts := 2 }).run twoWorkers).unsettled := by
    intro d first
    cases first
    exact (orderly_append.mp orderly).2.1 _ rfl
  -- From here on the run is not evaluated again.
  dsimp only at law ⊢
  generalize Traffic.start opening { maxAttempts := 2 } = start at law settled ended held orderly ⊢
  generalize twoWorkers = calls at law settled ended held orderly ⊢
  refine ⟨orderly, settled, ended, fun m member => ?_, ?_⟩
  · obtain ⟨_, attempts, bounded, final⟩ := law.2.2.2.1 m member
    exact ⟨attempts, bounded, fun ended => (final ended).1⟩
  · obtain ⟨m, member, same, settleable⟩ := law.2.2.2.2.2.2 _ (held _ rfl)
    exact ⟨m, member, same.symm, settleable.poison (.remark "broken")⟩

end Traffic
end MeteredBilling
