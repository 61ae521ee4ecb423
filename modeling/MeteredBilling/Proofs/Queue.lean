import MeteredBilling.Message.Queue

/-!
# Numbered messages

Messages keep their numbers, and a claim takes a message that is due.
-/

namespace MeteredBilling.MessageQueue

open Calendar

variable {α : Type} {q : MessageQueue α}

/-- Each message bears the number of its place. -/
def Numbered (q : MessageQueue α) : Prop :=
  ∀ n m, q.messages[n]? = some m → m.id = n + 1

theorem Numbered.unique (numbered : q.Numbered) {m other : QueuedMessage α}
    (member : m ∈ q.messages) (listed : other ∈ q.messages) (same : m.id = other.id) :
    m = other := by
  obtain ⟨n, place⟩ := List.mem_iff_getElem?.mp member
  obtain ⟨k, place'⟩ := List.mem_iff_getElem?.mp listed
  have first := numbered n m place
  have second := numbered k other place'
  obtain rfl : n = k := by omega
  exact Option.some.inj (place.symm.trans place')

theorem Numbered.publish (numbered : q.Numbered) (message : Outbound α) (now : Instant) :
    (q.publish message now).Numbered := by
  intro n m place
  simp only [MessageQueue.publish, List.getElem?_append] at place
  split at place
  · exact numbered n m place
  · rename_i behind
    cases last : n - q.messages.length with
    | zero =>
      rw [last] at place
      cases place
      change q.messages.length + 1 = n + 1
      omega
    | succ k =>
      rw [last] at place
      cases place

theorem Numbered.modify (numbered : q.Numbered) (id : Int)
    {change : QueuedMessage α → QueuedMessage α} (keeps : ∀ m, (change m).id = m.id) :
    (q.modify id change).Numbered := by
  intro n m place
  simp only [MessageQueue.modify, List.getElem?_map, Option.map_eq_some_iff] at place
  obtain ⟨before, stored, rfl⟩ := place
  have number := numbered n before stored
  split
  · exact (keeps before).trans number
  · exact number

theorem mem_modify {id : Int} {change : QueuedMessage α → QueuedMessage α}
    {m : QueuedMessage α} : m ∈ (q.modify id change).messages ↔
      ∃ before ∈ q.messages, m = if (before.id : Int) = id then change before else before := by
  simp only [modify, List.mem_map, eq_comm]

theorem mem_publish {message : Outbound α} {now : Instant} {m : QueuedMessage α} :
    m ∈ (q.publish message now).messages ↔ m ∈ q.messages ∨
      m = ⟨q.nextId, message.topic, message.payload, message.headers, .queued, 0,
        message.availableAt.getD now, none⟩ := by
  simp [publish]

/-- The queue stays, or gets one message more. -/
def Quiet (q settled : MessageQueue α) : Prop :=
  settled = q ∨ ∃ message now, settled = q.publish message now

theorem Numbered.quiet {settled : MessageQueue α} (numbered : q.Numbered)
    (quiet : q.Quiet settled) : settled.Numbered := by
  rcases quiet with rfl | ⟨message, now, rfl⟩
  · exact numbered
  · exact numbered.publish message now

theorem Quiet.keeps {settled : MessageQueue α} (quiet : q.Quiet settled) {m : QueuedMessage α}
    (member : m ∈ q.messages) : m ∈ settled.messages := by
  rcases quiet with rfl | ⟨message, now, rfl⟩
  · exact member
  · exact mem_publish.mpr (.inl member)

theorem Quiet.mem {settled : MessageQueue α} (quiet : q.Quiet settled) {m : QueuedMessage α}
    (member : m ∈ settled.messages) : m ∈ q.messages ∨ m.status = .queued := by
  rcases quiet with rfl | ⟨message, now, rfl⟩
  · exact .inl member
  · rcases mem_publish.mp member with before | rfl
    · exact .inl before
    · exact .inr rfl

/-- A fold that keeps its choice or takes the next message ends with one of them. -/
theorem foldl_chosen {choose : Option (QueuedMessage α) → QueuedMessage α → Option (QueuedMessage α)}
    (chooses : ∀ best next, choose best next = best ∨ choose best next = some next)
    {messages : List (QueuedMessage α)} {best : Option (QueuedMessage α)} {m : QueuedMessage α}
    (last : messages.foldl choose best = some m) : best = some m ∨ m ∈ messages := by
  induction messages generalizing best with
  | nil => exact .inl last
  | cons next rest ih =>
    rcases ih last with chosen | member
    · rcases chooses best next with kept | taken
      · exact .inl (kept.symm.trans chosen)
      · obtain rfl := Option.some.inj (taken.symm.trans chosen)
        exact .inr List.mem_cons_self
    · exact .inr (List.mem_cons_of_mem _ member)

theorem next?_due {topic : String} {now : Instant} {m : QueuedMessage α}
    (next : q.next? topic now = some m) : m ∈ q.messages ∧ m.isDue topic now = true := by
  unfold next? at next
  have chosen := foldl_chosen ?_ next
  · exact List.mem_filter.mp (chosen.resolve_left nofun)
  · rintro (_ | best) m
    · exact .inr rfl
    · by_cases earlier : m.precedes best = true
      · exact .inr (if_pos earlier)
      · exact .inl (if_neg earlier)

/-! ### The message that is next -/

theorem precedes_iff {m other : QueuedMessage α} : m.precedes other = true ↔
    m.availableAt < other.availableAt ∨
      m.availableAt = other.availableAt ∧ m.id < other.id := by
  simp [QueuedMessage.precedes]

/-- Of two messages in their order, a third one comes after the first or before the second. -/
theorem precedes_or {m other : QueuedMessage α} (third : QueuedMessage α)
    (before : m.precedes other = true) :
    m.precedes third = true ∨ third.precedes other = true := by
  simp only [precedes_iff, Instant.lt_iff, Instant.eq_iff] at before ⊢
  omega

theorem precedes_asymm {m other : QueuedMessage α} (before : m.precedes other = true) :
    ¬other.precedes m = true := by
  simp only [precedes_iff, Instant.lt_iff, Instant.eq_iff] at before ⊢
  omega

theorem precedes_of_not {m other : QueuedMessage α} (behind : ¬other.precedes m = true)
    (different : m.id ≠ other.id) : m.precedes other = true := by
  simp only [precedes_iff, Instant.lt_iff, Instant.eq_iff] at behind ⊢
  omega

/-- The choice between the message found so far and another one. -/
def earlier (best : Option (QueuedMessage α)) (m : QueuedMessage α) : Option (QueuedMessage α) :=
  match best with
  | some b => if m.precedes b then some m else some b
  | none => some m

theorem next?_eq (topic : String) (now : Instant) :
    q.next? topic now = (q.messages.filter (·.isDue topic now)).foldl earlier none := rfl

theorem foldl_earlier (messages : List (QueuedMessage α)) (best : QueuedMessage α) :
    ∃ m, messages.foldl earlier (some best) = some m ∧ ¬best.precedes m = true ∧
      ∀ other ∈ messages, ¬other.precedes m = true := by
  induction messages generalizing best with
  | nil => exact ⟨best, rfl, fun before => precedes_asymm before before, by simp⟩
  | cons next rest ih =>
    rw [List.foldl_cons, earlier]
    by_cases sooner : next.precedes best = true
    · rw [if_pos sooner]
      obtain ⟨m, last, first, others⟩ := ih next
      have after : ¬best.precedes m = true := fun before =>
        first ((precedes_or m sooner).resolve_right (precedes_asymm before))
      exact ⟨m, last, after, List.forall_mem_cons.mpr ⟨first, others⟩⟩
    · rw [if_neg sooner]
      obtain ⟨m, last, first, others⟩ := ih best
      have after : ¬next.precedes m = true := fun before =>
        (precedes_or best before).elim sooner first
      exact ⟨m, last, first, List.forall_mem_cons.mpr ⟨after, others⟩⟩

theorem next?_eq_none {topic : String} {now : Instant} (next : q.next? topic now = none)
    {m : QueuedMessage α} (member : m ∈ q.messages) : m.isDue topic now = false := by
  rw [next?_eq] at next
  cases due : q.messages.filter (·.isDue topic now) with
  | nil => simpa using List.filter_eq_nil_iff.mp due m member
  | cons first rest =>
    obtain ⟨last, found, _⟩ := foldl_earlier rest first
    rw [due, List.foldl_cons] at next
    exact nomatch next.symm.trans found

/-- No message of the topic that is due comes before the next one. -/
theorem next?_first {topic : String} {now : Instant} {m other : QueuedMessage α}
    (next : q.next? topic now = some m) (member : other ∈ q.messages)
    (due : other.isDue topic now = true) : ¬other.precedes m = true := by
  rw [next?_eq] at next
  have listed : other ∈ q.messages.filter (·.isDue topic now) := List.mem_filter.mpr ⟨member, due⟩
  cases all : q.messages.filter (·.isDue topic now) with
  | nil =>
    rw [all] at listed
    cases listed
  | cons first rest =>
    obtain ⟨last, found, start, others⟩ := foldl_earlier rest first
    rw [all] at listed next
    obtain rfl := Option.some.inj (found.symm.trans next)
    rcases List.mem_cons.mp listed with rfl | later
    · exact start
    · exact others other later

/-- A message that a claim on a topic can take. -/
def Waits (topic : String) (now : Instant) (m : QueuedMessage α) : Prop :=
  m.topic = topic ∧ m.status = .queued ∧ m.availableAt ≤ now

theorem isDue_iff {topic : String} {now : Instant} {m : QueuedMessage α} :
    m.isDue topic now = true ↔ Waits topic now m := by
  simp [QueuedMessage.isDue, Waits, and_assoc]

/-- The answer to a claim: of the messages that wait, the one available for the longest and on a tie
the first by number, or nothing if none waits. -/
def Answers (q : MessageQueue α) (topic : String) (now : Instant) : Option (Delivery α) → Prop
  | none => ∀ m ∈ q.messages, ¬Waits topic now m
  | some delivery => ∃ m ∈ q.messages, Waits topic now m ∧ delivery = m.deliver ∧
      ∀ other ∈ q.messages, Waits topic now other → other ≠ m →
        m.availableAt < other.availableAt ∨
          m.availableAt = other.availableAt ∧ m.id < other.id

theorem Numbered.answers (numbered : q.Numbered) (topic : String) (now : Instant) :
    q.Answers topic now (q.claim topic now).1 := by
  unfold claim
  cases next : q.next? topic now with
  | none =>
    intro m member waits
    exact nomatch (next?_eq_none next member).symm.trans (isDue_iff.mpr waits)
  | some m =>
    obtain ⟨member, due⟩ := next?_due next
    refine ⟨m, member, isDue_iff.mp due, rfl, fun other listed waits different => ?_⟩
    have behind := next?_first next listed (isDue_iff.mpr waits)
    have apart : m.id ≠ other.id := fun same => different (numbered.unique listed member same.symm)
    exact precedes_iff.mp (precedes_of_not behind apart)

end MeteredBilling.MessageQueue
