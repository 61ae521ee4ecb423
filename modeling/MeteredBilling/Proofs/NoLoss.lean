import Mathlib.Data.List.Induction
import MeteredBilling.Proofs.Accrual
import MeteredBilling.Proofs.Tracking
import MeteredBilling.Proofs.Turns

/-!
# No usage is lost

When a tally summary is acknowledged, every observation that it holds was accounted for past the
coverage that the resolver answered, whatever workers and other operations did in between, and it
stays so until the row of its key is reset or removed. The workers are those that process messages:
one that is left alone takes its steps to the result of the program.
-/

namespace MeteredBilling

open Exact Engine

namespace System

open Worker

/-! ### Rows that last -/

variable {settings : EngineSettings ℚ} {key : RemittanceKey} {start s : System ℚ}
  {events : List (Event ℚ)} {event : Event ℚ} {attempt : Attempt} {usage : Usage ℚ}

/-- No event of the run deletes the row of the key or sets its amounts back. -/
def Undisturbed (settings : EngineSettings ℚ) (key : RemittanceKey) (s : System ℚ) :
    List (Event ℚ) → Prop
  | [] => True
  | event :: rest =>
    ¬s.Disturbs settings event key ∧ (s.step settings event).Undisturbed settings key rest

def Undisturbed.decide (settings : EngineSettings ℚ) (key : RemittanceKey) :
    (events : List (Event ℚ)) → (s : System ℚ) → Decidable (s.Undisturbed settings key events)
  | [], _ => isTrue trivial
  | event :: rest, s =>
    have := decide settings key rest (s.step settings event)
    inferInstanceAs (Decidable (¬s.Disturbs settings event key ∧
      (s.step settings event).Undisturbed settings key rest))

instance (settings : EngineSettings ℚ) (key : RemittanceKey) (s : System ℚ)
    (events : List (Event ℚ)) : Decidable (s.Undisturbed settings key events) :=
  Undisturbed.decide settings key events s

theorem Undisturbed.after {earlier since : List (Event ℚ)}
    (calm : s.Undisturbed settings key (earlier ++ since)) :
    (s.run settings earlier).Undisturbed settings key since := by
  induction earlier generalizing s with
  | nil => exact calm
  | cons event rest ih => exact ih calm.2

theorem Sound.run (sound : s.Sound settings) (events : List (Event ℚ)) :
    (s.run settings events).Sound settings :=
  run_keeps (fun _ event sound => sound.step event) sound events

/-- What a row has accounted for does not fall in a run that leaves it undisturbed. -/
theorem Sound.accrued_run (sound : s.Sound settings) (calm : s.Undisturbed settings key events) :
    accountedFor (s.world.storage.rows.get? key) ≤
      accountedFor ((s.run settings events).world.storage.rows.get? key) := by
  induction events generalizing s with
  | nil => exact le_rfl
  | cons event rest ih => exact (sound.accrued calm.1).trans (ih (sound.step event) calm.2)

/-- Since a moment of the delivery the key accounts for more than the amount, however the run goes
on, for as long as its row is neither deleted nor set back after that moment. -/
def Lasts (settings : EngineSettings ℚ) (start : System ℚ) (events : List (Event ℚ))
    (attempt : Attempt) (key : RemittanceKey) (amount : ℚ) : Prop :=
  ∃ earlier since, events = earlier ++ since ∧ (start.run settings earlier).Processing attempt ∧
    ∀ more, (start.run settings earlier).Undisturbed settings key (since ++ more) →
      amount < accountedFor ((start.run settings (events ++ more)).world.storage.rows.get? key)

theorem Lasts.step {amount : ℚ} (lasts : Lasts settings start events attempt key amount)
    (event : Event ℚ) : Lasts settings start (events ++ [event]) attempt key amount := by
  obtain ⟨earlier, since, rfl, processing, bound⟩ := lasts
  refine ⟨earlier, since ++ [event], List.append_assoc .., processing, fun more calm => ?_⟩
  rw [List.append_assoc] at calm ⊢
  exact bound (event :: more) calm

/-- The observation was answered by the resolver, and lasts past the coverage of the answer. -/
def Accounted (settings : EngineSettings ℚ) (start : System ℚ) (events : List (Event ℚ))
    (attempt : Attempt) (usage : Usage ℚ) : Prop :=
  ∃ unit coverage,
    settings.catalog.billingUnit usage.productId usage.metricId = .ok unit ∧
    Answered settings (start.run settings events).quotes attempt.messageId usage coverage ∧
    Lasts settings start events attempt usage.key
      (max 0 (usage.currentTotal - coverage.total / unit.factor) - slack)

theorem Accounted.step (accounted : Accounted settings start events attempt usage)
    (event : Event ℚ) : Accounted settings start (events ++ [event]) attempt usage := by
  obtain ⟨unit, coverage, found, ⟨quoted, free⟩, lasts⟩ := accounted
  refine ⟨unit, coverage, found, ⟨?_, free⟩, lasts.step event⟩
  rw [run_concat]
  exact mem_quotes_step event quoted

theorem coveredPart_answered {quotes : List (Quote ℚ)} {id : Int} {coverage : Coverage ℚ}
    (factor : ℚ) (answered : Answered settings quotes id usage coverage) :
    coveredPart factor (if settings.catalog.isContractEnabled usage.productId then some coverage
      else none) = coverage.total / factor := by
  cases enabled : settings.catalog.isContractEnabled usage.productId with
  | true => rfl
  | false => simp [coveredPart, answered.2 enabled, Coverage.none]

section Posted

variable {i : Nat} {topic : String} {delivery : Delivery ℚ} {unit : MeasureUnit ℚ}
  {coverage : Option (Coverage ℚ)} {later : List (Usage ℚ)}
  {results : List (Except BillingError (Outcome ℚ))} {outcome : Outcome ℚ}
  {w : World (Memory ℚ) ℚ}

theorem Sound.posted (sound : s.Sound settings)
    (posting : s.workers i = .posting delivery usage unit coverage later results)
    (applied : (apply usage unit coverage).exec s.world = some (.ok outcome, w))
    (same : (s.step settings (.work i topic)).world.storage = w.storage) :
    max 0 (usage.currentTotal - coveredPart unit.factor coverage) - slack <
      accountedFor ((s.step settings (.work i topic)).world.storage.rows.get? usage.key) := by
  have positive := positive_of_billingUnit (sound.priced i _ _ _ _ _ _ posting)
  have follows : Follows usage.currentTotal (s.world.storage.rows.get? usage.key) := by
    by_contra falls
    obtain ⟨e, refused⟩ := decisionOn_refused unit coverage falls
    rw [exec_apply, refused] at applied
    cases applied
  rw [same, apply_after applied]
  exact World.lt_accountedFor_after coverage positive (sound.rows _).2 follows

theorem Accounted.posted {good : Usage ℚ → Prop}
    (sound : (start.run settings events).Sound settings)
    (consistent : Consistent (start.run settings events))
    (posting : (start.run settings events).workers i =
      .posting delivery usage unit coverage later results)
    (tracks : (Worker.posting delivery usage unit coverage later results).Tracks settings
      (start.run settings events).quotes good)
    (applied : (apply usage unit coverage).exec (start.run settings events).world =
      some (.ok outcome, w))
    (same : ((start.run settings events).step settings (.work i topic)).world.storage =
      w.storage) :
    Accounted settings start (events ++ [.work i topic]) delivery.attempt usage := by
  obtain ⟨_, resolved, answered, billed⟩ := tracks
  obtain ⟨m, listed, id, _, _, attempts, processing⟩ :=
    consistent.held i delivery (by rw [posting]; rfl)
  have bound := sound.posted posting applied same
  rw [billed, coveredPart_answered unit.factor answered] at bound
  refine ⟨unit, resolved, sound.priced i _ _ _ _ _ _ posting, ⟨?_, answered.2⟩, events,
    [.work i topic], rfl, ⟨m, listed, id, attempts, processing⟩, fun more calm => ?_⟩
  · rw [run_concat]
    exact mem_quotes_step _ answered.1
  · have stays := (sound.step (.work i topic)).accrued_run calm.2
    rw [List.append_assoc, run, List.foldl_append]
    exact bound.trans_le stays

end Posted

/-- Every run from nothing keeps track of what it has accounted for. -/
theorem Tracks.run (world : World (Memory ℚ) ℚ) (policy : DeliveryPolicy)
    (events : List (Event ℚ)) :
    ((System.start world policy).run settings events).Tracks settings
      (Accounted settings (System.start world policy) events) := by
  induction events using List.reverseRecOn with
  | nil => exact Tracks.start world policy
  | append_singleton events event ih =>
    have sound : ((System.start world policy).run settings events).Sound settings :=
      (Sound.start world policy).run events
    have consistent : ((System.start world policy).run settings events).Consistent :=
      (Consistent.start world policy).run events
    have grow : ∀ attempt usage, Accounted settings (System.start world policy) events attempt usage →
        Accounted settings (System.start world policy) (events ++ [event]) attempt usage :=
      fun attempt usage accounted => accounted.step event
    rw [run_concat]
    rcases ((System.start world policy).run settings events).work_or_rests settings event with
      ⟨i, topic, rfl⟩ | rests
    · refine ih.work consistent grow fun delivery usage unit coverage later results posting => ?_
      intro outcome w applied same
      have tracks := ih.working i delivery (by rw [posting]; rfl)
      rw [posting] at tracks
      exact Accounted.posted sound consistent posting tracks applied same
    · exact ih.rests rests grow

end System

/-- The steps that an idle worker takes alone are the program that processes a message. It is busy
up to the last of them, and then idle in the world that the program leaves. Where the program does
not end, because a moment leaves the calendar, the worker stops. -/
theorem System.alone_processNext {α : Type} [Amount α] (settings : EngineSettings α)
    (topic : String) (s : System α) (i : Nat) (free : s.workers i = .idle) :
    ∃ n, (∀ k ≤ n, 0 < k → (s.alone settings topic i k).workers i ≠ .idle) ∧
      let left := s.alone settings topic i (n + 1)
      (∀ result w, (processNext settings topic).exec s.world = some (result, w) →
        left.workers i = .idle ∧ left.world = w) ∧
      ((processNext settings topic).exec s.world = none → left.workers i = .stopped) := by
  obtain ⟨n, moved, left, moves, finishes⟩ :=
    Worker.idle_ends settings topic s.world
  let s' := s.step settings (.work i topic)
  have first : s'.workers i = moved ∧ s'.world = left := by
    simp only [s', step, free, moves, Function.update_self, and_self]
  rw [← first.1, ← first.2] at finishes
  obtain ⟨working, ends⟩ := alone_finishes finishes
  refine ⟨n, fun k within after => ?_, ends⟩
  cases k with
  | zero => exact absurd after (Nat.lt_irrefl 0)
  | succ k => exact working k within

/-- Whatever workers and others do on a storage that was empty at first, and in whatever order: a
tally summary that is acknowledged decodes, and each of its observations was answered by the
resolver with a coverage past which the row of its key accounts for it, from its last delivery on
until the row is reset or deleted. A delivery with an observation that failed stays on record, and
is not acknowledged before it is claimed again. -/
theorem no_usage_lost (settings : EngineSettings ℚ) (world : World (Memory ℚ) ℚ)
    (policy : DeliveryPolicy) (events : List (Event ℚ)) :
    let start := System.start world policy
    let s := start.run settings events
    (∀ m ∈ s.world.storage.queue.messages, m.topic = Topic.tallySummary → m.status = .acked →
      ∃ summary, TallySummary.record.decoder m.payload.canonical = .ok summary ∧
        ∀ usage ∈ summary.usages settings.catalog, ∃ unit coverage,
          settings.catalog.billingUnit usage.productId usage.metricId = .ok unit ∧
          ⟨m.id, usage, coverage⟩ ∈ s.quotes ∧
          (settings.catalog.isContractEnabled usage.productId = false → coverage = .none) ∧
          System.Lasts settings start events ⟨m.id, m.attempts⟩ usage.key
            (max 0 (usage.currentTotal - coverage.total / unit.factor) - slack)) ∧
      ∀ attempt ∈ s.failures, ∃ m ∈ s.world.storage.queue.messages,
        (m.id : Int) = attempt.messageId ∧ attempt.number ≤ m.attempts ∧
          (m.attempts = attempt.number →
            m.status ∈ [.queued, .processing, .poisoned, .dead]) := by
  intro start s
  refine ⟨fun m listed summaries acked => ?_, fun attempt member => ?_⟩
  · obtain ⟨summary, decoded, all⟩ :=
      (System.Tracks.run world policy events).covered m listed summaries acked
    refine ⟨summary, decoded, fun usage usages => ?_⟩
    obtain ⟨unit, coverage, found, ⟨quoted, free⟩, lasts⟩ := all usage usages
    exact ⟨unit, coverage, found, quoted, free, lasts⟩
  · have marked : s.Marked :=
      (System.Marked.start world policy).run (System.Consistent.start world policy) events
    obtain ⟨m, listed, same, number, status⟩ := marked.recorded attempt member
    refine ⟨m, listed, same, number, fun latest => ?_⟩
    have unacked := status latest
    cases left : m.status with
    | acked => exact absurd left unacked
    | queued | processing | poisoned | dead => decide

/-- A product whose hours are billed in halves, without contracts. -/
def soldByHours : EngineSettings ℚ where
  catalog := ⟨[⟨"machine", true, false, .hourly, [⟨"hours", 2, false, none, none, none⟩]⟩]⟩
  contractGrace := ⟨0⟩
  retention := none
  stuckPendingAfter := ⟨0⟩

def fourHours : TallySummary ℚ where
  orgId := "org"
  snapshots := [⟨⟨7⟩, "machine", ⟨0, 0⟩, "premium", "production", .aws, some "account", none,
    .hourly, some [⟨"PHYSICAL", "hours", 4, 4⟩]⟩]

/-- A summary is published, and a worker takes the five steps that it needs for it. -/
def oneTally : List (Event ℚ) :=
  .publish ⟨Topic.tallySummary, fourHours.toJson, [], none⟩ ::
    List.replicate 5 (.work 0 Topic.tallySummary)

theorem no_usage_lost_hours :
    let start := System.start opening {}
    let s := start.run soldByHours oneTally
    start.Undisturbed soldByHours (hoursRun 4).key oneTally ∧
    ∃ m ∈ s.world.storage.queue.messages, m.topic = Topic.tallySummary ∧ m.status = .acked ∧
      ∃ summary, TallySummary.record.decoder m.payload.canonical = .ok summary ∧
        ∃ usage ∈ summary.usages soldByHours.catalog, usage.key = (hoursRun 4).key ∧
          ∃ unit : MeasureUnit ℚ, ∃ coverage : Coverage ℚ, ⟨m.id, usage, coverage⟩ ∈ s.quotes ∧
            max 0 (usage.currentTotal - coverage.total / unit.factor) - slack <
              accountedFor (s.world.storage.rows.get? usage.key) := by
  have law := no_usage_lost soldByHours opening {} oneTally
  have settled : ∃ m ∈ ((System.start opening {}).run soldByHours
      oneTally).world.storage.queue.messages, m.topic = Topic.tallySummary ∧ m.status = .acked ∧
      (TallySummary.record.decoder m.payload.canonical).toOption.map
        (fun summary => (summary.usages soldByHours.catalog).map (·.key)) =
          some [(hoursRun 4).key] := by
    decide +kernel
  have calm : (System.start opening {}).Undisturbed soldByHours (hoursRun 4).key oneTally := by
    decide +kernel
  -- From here on the run is not evaluated again.
  dsimp only at law ⊢
  generalize System.start opening {} = start at law settled calm ⊢
  generalize oneTally = events at law settled calm ⊢
  obtain ⟨m, listed, summaries, acked, keys⟩ := settled
  obtain ⟨summary, decoded, all⟩ := law.1 m listed summaries acked
  obtain ⟨usage, member, same⟩ : ∃ usage ∈ summary.usages soldByHours.catalog,
      usage.key = (hoursRun 4).key := by
    rw [decoded] at keys
    have listed : (summary.usages soldByHours.catalog).map (·.key) = [(hoursRun 4).key] :=
      Option.some.inj keys
    exact List.mem_map.mp (listed ▸ List.mem_cons_self)
  obtain ⟨unit, coverage, _, quoted, _, earlier, since, rfl, _, lasts⟩ := all usage member
  have bound := lasts [] (by
    rw [List.append_nil, same]
    exact calm.after)
  rw [List.append_nil] at bound
  exact ⟨calm, m, listed, summaries, acked, summary, decoded, usage, member, same, unit, coverage,
    quoted, bound⟩

end MeteredBilling
