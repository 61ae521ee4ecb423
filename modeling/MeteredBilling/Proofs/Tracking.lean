import MeteredBilling.Proofs.Failures

/-!
# Tracking of summaries

From the observations of a tally summary to its acknowledgement: the worker that has the summary
keeps track of the observations that are still to come, that failed, or that were seen to.
-/

namespace MeteredBilling

open Engine

/-! ### What a worker has seen to -/

namespace Worker

variable {α : Type} [Amount α] {settings : EngineSettings α} {good good' : Usage α → Prop}
  {quotes : List (Quote α)} {delivery : Delivery α} {usage : Usage α} {later : List (Usage α)}
  {results : List (Except BillingError (Outcome α))}

/-- The payload is a summary whose observations are all good. -/
def Covers (settings : EngineSettings α) (good : Usage α → Prop) (payload : Json α) : Prop :=
  ∃ summary, TallySummary.record.decoder payload.canonical = .ok summary ∧
    ∀ usage ∈ summary.usages settings.catalog, good usage

/-- An observation of the summary is still to come, or good, or one of them failed. -/
def Progress (settings : EngineSettings α) (good : Usage α → Prop) (delivery : Delivery α)
    (results : List (Except BillingError (Outcome α))) (later : List (Usage α)) : Prop :=
  Covers settings (fun usage => usage ∈ later ∨ good usage ∨ ∃ e, .error e ∈ results)
    delivery.payload

/-- The coverage is what the resolver answered to the observation of the message, which is none for
a product that is sold without contracts. -/
def Answered (settings : EngineSettings α) (quotes : List (Quote α)) (id : Int) (usage : Usage α)
    (coverage : Coverage α) : Prop :=
  ⟨id, usage, coverage⟩ ∈ quotes ∧
    (settings.catalog.isContractEnabled usage.productId = false → coverage = .none)

/-- A summary settles without an error only if all of its observations are good. -/
def Tracks (settings : EngineSettings α) (quotes : List (Quote α)) (good : Usage α → Prop) :
    Worker α → Prop
  | pricing delivery usage later results =>
    Progress settings good delivery results (usage :: later)
  | posting delivery usage _ coverage later results =>
    Progress settings good delivery results (usage :: later) ∧
      ∃ resolved, Answered settings quotes delivery.id usage resolved ∧
        coverage =
          if settings.catalog.isContractEnabled usage.productId then some resolved else none
  | settling delivery outcome => outcome = .ok () → delivery.topic = Topic.tallySummary →
    Covers settings good delivery.payload
  | idle | holding _ | stopped => True

theorem Covers.mono {payload : Json α} (covers : Covers settings good payload)
    (grow : ∀ usage, good usage → good' usage) : Covers settings good' payload := by
  obtain ⟨summary, decoded, all⟩ := covers
  exact ⟨summary, decoded, fun usage member => grow usage (all usage member)⟩

theorem Progress.mono (progress : Progress settings good delivery results later)
    (grow : ∀ usage, good usage → good' usage) :
    Progress settings good' delivery results later :=
  Covers.mono progress fun usage => Or.imp_right (Or.imp_left (grow usage))

theorem Tracks.mono {quotes' : List (Quote α)} {worker : Worker α}
    (tracks : worker.Tracks settings quotes good) (more : ∀ quote ∈ quotes, quote ∈ quotes')
    (grow : ∀ usage, good usage → good' usage) : worker.Tracks settings quotes' good' := by
  cases worker with
  | idle | holding | stopped => trivial
  | pricing => exact Progress.mono tracks grow
  | posting =>
    obtain ⟨progress, resolved, ⟨quoted, free⟩, same⟩ := tracks
    exact ⟨progress.mono grow, resolved, ⟨more _ quoted, free⟩, same⟩
  | settling => exact fun done summaries => (tracks done summaries).mono grow

theorem Progress.add (progress : Progress settings good delivery results (usage :: later))
    {result : Except BillingError (Outcome α)} (fits : ∀ outcome, result = .ok outcome → good usage) :
    Progress settings good delivery (results ++ [result]) later := by
  refine Covers.mono progress fun other state => ?_
  rcases state with coming | known | ⟨e, failed⟩
  · rcases List.mem_cons.mp coming with rfl | coming
    · cases result with
      | ok outcome => exact .inr (.inl (fits outcome rfl))
      | error e => exact .inr (.inr ⟨e, List.mem_append_right _ List.mem_cons_self⟩)
    · exact .inl coming
  · exact .inr (.inl known)
  · exact .inr (.inr ⟨e, List.mem_append_left _ failed⟩)

theorem tracks_next (progress : Progress settings good delivery results later) :
    (next delivery results later).Tracks settings quotes good := by
  cases later with
  | cons usage later => exact progress
  | nil =>
    intro done _
    refine Covers.mono progress fun usage state => ?_
    rcases state with coming | known | ⟨e, failed⟩
    · cases coming
    · exact known
    · obtain ⟨first, error⟩ := verdict_of_error failed
      rw [error] at done
      cases done

/-- A step sees to the observation that it posts, and what was seen to before stays so. -/
theorem Moves.tracks {a b : Worker α} {w w' : World (Memory α) α} (moves : Moves settings a w b w')
    (tracks : a.Tracks settings quotes good) (own : a.delivery? = some delivery)
    (busy : b.delivery? = some delivery) (grow : ∀ usage, good usage → good' usage)
    (posted : ∀ usage unit coverage later results,
      a = posting delivery usage unit coverage later results →
      ∀ outcome w₁, (apply usage unit coverage).exec w = some (.ok outcome, w₁) →
        w'.storage = w₁.storage → good' usage) :
    b.Tracks settings (quotes ++ a.quoted settings w) good' := by
  cases moves with
  | rest | claim => cases own
  | settle | giveUp | stop => cases busy
  | open_ _ decoded _ => exact tracks_next ⟨_, decoded, fun usage member => .inl member⟩
  | reject => exact fun done => nomatch done
  | handle other _ => exact fun _ summaries => absurd summaries other
  | misprice =>
    have progress := Progress.mono tracks grow
    exact tracks_next (progress.add fun outcome ok => nomatch ok)
  | refuse =>
    have progress := Progress.mono tracks.1 grow
    exact tracks_next (progress.add fun outcome ok => nomatch ok)
  | price priced =>
    obtain ⟨_, _, resolved, queries, answer, coverage⟩ := price_ok priced
    refine ⟨Progress.mono tracks grow, resolved, ⟨?_, fun disabled => ?_⟩, coverage⟩
    · simp [quoted, priced, answer]
    · rw [resolveCoverage_disabled disabled] at answer
      exact (Except.ok.inj (Prod.mk.inj (Option.some.inj answer)).1).symm
  | post applied _ same =>
    cases own
    have progress := Progress.mono tracks.1 grow
    exact tracks_next (progress.add fun _ _ => posted _ _ _ _ _ rfl _ _ applied same)

end Worker

/-! ### What the system has accounted for -/

namespace System

open Worker

/-- The delivery is on record, and not settled. -/
def Processing {α : Type} (s : System α) (attempt : Attempt) : Prop :=
  ∃ m ∈ s.world.storage.queue.messages, (m.id : Int) = attempt.messageId ∧
    m.attempts = attempt.number ∧ m.status = .processing

/-- Deliveries are seen to by the workers that have them, and covered when they are acknowledged. -/
structure Tracks {α : Type} [Amount α] (settings : EngineSettings α)
    (good : Attempt → Usage α → Prop) (s : System α) : Prop where
  working : ∀ i delivery, (s.workers i).delivery? = some delivery →
    (s.workers i).Tracks settings s.quotes (good delivery.attempt)
  covered : ∀ m ∈ s.world.storage.queue.messages, m.topic = Topic.tallySummary →
    m.status = .acked → Covers settings (good ⟨m.id, m.attempts⟩) m.payload

section Tracks

variable {α : Type} [Amount α] {settings : EngineSettings α}
  {good good' : Attempt → Usage α → Prop} {s s' : System α}

theorem mem_quotes_step {quote : Quote α} (event : Event α) (member : quote ∈ s.quotes) :
    quote ∈ (s.step settings event).quotes := by
  cases event with
  | work => exact List.mem_append_left _ member
  | publish | upkeep | clock | contracts => exact member

theorem Tracks.start (world : World (Memory α) α) (policy : DeliveryPolicy) :
    (System.start world policy).Tracks settings good where
  working i delivery busy := by cases busy
  covered m listed := by cases listed

theorem Tracks.rests (tracks : s.Tracks settings good) (rests : s.Rests s')
    (grow : ∀ attempt usage, good attempt usage → good' attempt usage) :
    s'.Tracks settings good' where
  working := by
    rw [rests.workers, rests.quotes]
    exact fun i delivery busy =>
      (tracks.working i delivery busy).mono (fun _ member => member) (grow _)
  covered m listed summaries acked := by
    rcases rests.queue.mem listed with before | queued
    · exact (tracks.covered m before summaries acked).mono (grow _)
    · rw [queued] at acked
      cases acked

theorem Tracks.work {i : Nat} {topic : String} (tracks : s.Tracks settings good)
    (consistent : Consistent s) (grow : ∀ attempt usage, good attempt usage → good' attempt usage)
    (posted : ∀ delivery usage unit coverage later results,
      s.workers i = posting delivery usage unit coverage later results →
      ∀ outcome w, (apply usage unit coverage).exec s.world = some (.ok outcome, w) →
        (s.step settings (.work i topic)).world.storage = w.storage →
        good' delivery.attempt usage) :
    (s.step settings (.work i topic)).Tracks settings good' := by
  have moves := moves settings topic (s.workers i) s.world
  refine ⟨fun j delivery busy => ?_, fun m listed summaries acked => ?_⟩
  · rw [workers_step] at busy ⊢
    rcases Consistent.delivery_update busy with ⟨rfl, own⟩ | ⟨other, away⟩
    · rw [Function.update_self]
      rcases moves.queue with ⟨_, kept | none⟩ | ⟨m, listed, queued, _, claims, _⟩ |
        ⟨_, _, _, _, idles, _⟩
      · have busy := kept.symm.trans own
        have before := tracks.working j delivery busy
        refine moves.tracks before busy own (grow _) fun usage unit coverage later results posting =>
          posted delivery usage unit coverage later results posting
      · rw [none] at own
        cases own
      · rw [claims]
        trivial
      · rw [idles]
        trivial
    · rw [Function.update_of_ne other]
      exact (tracks.working j delivery away).mono (fun _ => mem_quotes_step _) (grow _)
  · rcases consistent.acknowledged moves listed acked with before | ⟨delivery, settling, own, sent,
      payload, attempts⟩
    · exact (tracks.covered m before summaries acked).mono (grow _)
    · have before := tracks.working i delivery (by rw [settling]; rfl)
      rw [settling] at before
      have covers := (before rfl (sent.symm.trans summaries)).mono (grow _)
      rwa [Delivery.attempt, ← own, ← attempts, ← payload] at covers

end Tracks

end System
end MeteredBilling
