import MeteredBilling.Proofs.Workers

/-!
# Failed deliveries

A delivery with an observation that failed is never acknowledged. Its worker carries the failure to
the settlement, and the record stays on the queue until it is claimed again.
-/

namespace MeteredBilling

open Engine

variable {α : Type} [Amount α]

namespace Worker

omit [Amount α] in
def Failed : Worker α → Prop
  | holding _ => False
  | pricing _ _ _ results | posting _ _ _ _ _ results => ∃ e, .error e ∈ results
  | settling _ outcome => ∃ e, outcome = .error e
  | idle | stopped => True

omit [Amount α] in
theorem failed_next {delivery : Delivery α} {results : List (Except BillingError (Outcome α))}
    {e : BillingError} (member : .error e ∈ results) (later : List (Usage α)) :
    (next delivery results later).Failed := by
  cases later with
  | nil =>
    obtain ⟨first, failed⟩ := verdict_of_error member
    exact ⟨first, by rw [failed]; rfl⟩
  | cons usage later => exact ⟨e, member⟩

variable {settings : EngineSettings α} {a b : Worker α} {w w' : World (Memory α) α}

theorem failed_delivery {attempt : Attempt} (member : attempt ∈ a.failed settings w) :
    ∃ delivery, a.delivery? = some delivery ∧ attempt = delivery.attempt ∧
      ∀ outcome, a ≠ settling delivery outcome := by
  cases a with
  | idle | holding | settling | stopped => cases member
  | pricing delivery =>
    simp only [failed] at member
    split at member
    · exact ⟨delivery, rfl, List.mem_singleton.mp member, fun _ same => by cases same⟩
    · cases member
  | posting delivery =>
    simp only [failed] at member
    split at member
    · exact ⟨delivery, rfl, List.mem_singleton.mp member, fun _ same => by cases same⟩
    · cases member

theorem Moves.failed {delivery : Delivery α} (moves : Moves settings a w b w')
    (busy : b.delivery? = some delivery) (own : a.delivery? = some delivery)
    (marked : a.Failed ∨ delivery.attempt ∈ a.failed settings w) : b.Failed := by
  cases moves with
  | rest | giveUp | settle | stop => trivial
  | claim => cases own
  | open_ | reject | handle =>
    rcases marked with carried | met
    · cases carried
    · cases met
  | price priced =>
    rcases marked with carried | met
    · exact carried
    · simp [Worker.failed, priced] at met
  | misprice | refuse => exact failed_next (List.mem_append_right _ List.mem_cons_self) _
  | post _ posted _ =>
    rcases marked with ⟨e, member⟩ | met
    · exact failed_next (List.mem_append_left _ member) _
    · simp [Worker.failed, posted] at met

end Worker

namespace System

/-- Failures are marked: the worker that still has the delivery carries the failure, and the record
of the delivery is on the queue and not acknowledged. -/
structure Marked (s : System α) : Prop where
  carried : ∀ i delivery, (s.workers i).delivery? = some delivery →
    delivery.attempt ∈ s.failures → (s.workers i).Failed
  recorded : ∀ attempt ∈ s.failures, ∃ m ∈ s.world.storage.queue.messages,
    (m.id : Int) = attempt.messageId ∧ attempt.number ≤ m.attempts ∧
      (m.attempts = attempt.number → m.status ≠ .acked)

namespace Marked

open Worker

variable {settings : EngineSettings α} {s s' : System α}

omit [Amount α] in
theorem start (world : World (Memory α) α) (policy : DeliveryPolicy) :
    Marked (System.start world policy) where
  carried i delivery busy := by cases busy
  recorded attempt member := by cases member

omit [Amount α] in
theorem rests (marked : Marked s) (rests : s.Rests s') : Marked s' where
  carried := by
    rw [rests.workers, rests.failures]
    exact marked.carried
  recorded := by
    rw [rests.failures]
    intro attempt member
    obtain ⟨m, listed, record⟩ := marked.recorded attempt member
    exact ⟨m, rests.queue.keeps listed, record⟩

section Work

variable {i : Nat} {moved : Worker α} {world : World (Memory α) α}

theorem recorded_now (marked : Marked s) (consistent : Consistent s) {attempt : Attempt}
    (member : attempt ∈ s.failures ++ (s.workers i).failed settings s.world) :
    ∃ m ∈ s.world.storage.queue.messages, (m.id : Int) = attempt.messageId ∧
      attempt.number ≤ m.attempts ∧ (m.attempts = attempt.number → m.status ≠ .acked) := by
  rcases List.mem_append.mp member with before | met
  · exact marked.recorded attempt before
  · obtain ⟨delivery, busy, rfl, _⟩ := failed_delivery met
    obtain ⟨m, listed, id, _, _, attempts, processing⟩ := consistent.held i delivery busy
    exact ⟨m, listed, id, attempts.ge, fun _ acked => by rw [processing] at acked; cases acked⟩

theorem work (marked : Marked s) (consistent : Consistent s)
    (moves : Moves settings (s.workers i) s.world moved world) (quotes : List (Quote α)) :
    Marked ⟨world, Function.update s.workers i moved, quotes,
      s.failures ++ (s.workers i).failed settings s.world⟩ where
  carried j delivery busy member := by
    change delivery.attempt ∈ s.failures ++ _ at member
    change (Function.update s.workers i moved j).Failed
    rcases Consistent.delivery_update busy with ⟨rfl, own⟩ | ⟨other, away⟩
    · rw [Function.update_self]
      rcases moves.queue with ⟨_, same | none⟩ | ⟨m, listed, _, free, rfl, _⟩ |
        ⟨_, _, _, _, rfl, _⟩
      · have busy := same.symm.trans own
        refine moves.failed own busy ?_
        exact (List.mem_append.mp member).imp (marked.carried j delivery busy) id
      · rw [none] at own
        cases own
      · cases own
        rw [free] at member
        obtain ⟨known, stored, id, number, _⟩ :=
          marked.recorded _ ((List.mem_append.mp member).resolve_right List.not_mem_nil)
        obtain rfl := consistent.numbered.unique stored listed (Int.natCast_inj.mp id)
        exact absurd number (Int.lt_succ known.attempts).not_ge
      · cases own
    · rw [Function.update_of_ne other]
      rcases List.mem_append.mp member with before | met
      · exact marked.carried j delivery away before
      · obtain ⟨mine, busy, same, _⟩ := failed_delivery met
        have id : delivery.id = mine.id := congrArg Attempt.messageId same
        exact absurd (consistent.exclusive j i delivery mine away busy id) other
  recorded attempt member := by
    obtain ⟨m, listed, id, number, status⟩ := marked.recorded_now consistent member
    obtain ⟨m', listed', id', attempts, acked⟩ := consistent.successor moves listed
    refine ⟨m', listed', by rw [id', id], number.trans attempts, fun same done => ?_⟩
    have latest : m.attempts = attempt.number := by omega
    rcases acked (by omega) done with already | ⟨delivery, settling, holds⟩
    · exact status latest already
    · have own : delivery.attempt = attempt := by
        obtain ⟨_, attemptNumber⟩ := attempt
        simp only [Delivery.attempt, Attempt.mk.injEq]
        exact ⟨holds.2.1.symm.trans id, holds.2.2.2.2.1.symm.trans latest⟩
      have busy : (s.workers i).delivery? = some delivery := by rw [settling]; rfl
      rcases List.mem_append.mp member with before | met
      · have carried := marked.carried i delivery busy (own ▸ before)
        rw [settling] at carried
        obtain ⟨e, failed⟩ := carried
        cases failed
      · obtain ⟨mine, busy', _, working⟩ := failed_delivery met
        obtain rfl : delivery = mine := Option.some.inj (busy.symm.trans busy')
        exact working _ settling

end Work

theorem step (marked : Marked s) (consistent : Consistent s) (event : Event α) :
    Marked (s.step settings event) := by
  rcases s.work_or_rests settings event with ⟨i, topic, rfl⟩ | rests
  · exact marked.work consistent (moves settings topic (s.workers i) s.world) _
  · exact marked.rests rests

theorem run (marked : Marked s) (consistent : Consistent s) (events : List (Event α)) :
    Marked (s.run settings events) := by
  have both : ∀ (s : System α) event, Marked s ∧ Consistent s →
      Marked (s.step settings event) ∧ Consistent (s.step settings event) :=
    fun s event ⟨marked, consistent⟩ => ⟨marked.step consistent event, consistent.step event⟩
  exact (run_keeps both ⟨marked, consistent⟩ events).1

end Marked
end System
end MeteredBilling
