import MeteredBilling.Proofs.Workers

/-!
# Turns of a worker

The steps of a worker from one message to the next, while nobody comes between. The worker is busy
until it is idle again, and leaves what the program that processes a message leaves.
-/

namespace MeteredBilling

open Engine

variable {α : Type} [Amount α] {settings : EngineSettings α} {topic : String}

namespace Worker

variable {worker moved : Worker α} {w left : World (Memory α) α}

/-- The result of a program with the world that it leaves, if it ends. -/
abbrev Ending (α : Type) := Option (Except BillingError (Option Settlement) × World (Memory α) α)

/-- With so many steps a worker that is not idle comes to an ending. -/
inductive Finishes (settings : EngineSettings α) (topic : String) :
    Nat → Worker α → World (Memory α) α → Ending α → Prop
  | idle {w : World (Memory α) α} (result : Except BillingError (Option Settlement)) :
      Finishes settings topic 0 idle w (some (result, w))
  | stopped {w : World (Memory α) α} : Finishes settings topic 0 stopped w none
  | step {n : Nat} {worker moved : Worker α} {w left : World (Memory α) α} {ending : Ending α}
      (busy : worker ≠ idle) (moves : worker.move settings topic w = (moved, left))
      (finishes : Finishes settings topic n moved left ending) :
      Finishes settings topic (n + 1) worker w ending

/-- The worker comes to the ending of what it has left to do. -/
def Ends (settings : EngineSettings α) (topic : String) (worker : Worker α)
    (w : World (Memory α) α) : Prop :=
  ∃ n, Finishes settings topic n worker w ((worker.rest settings topic).exec w)

theorem move_of_advance
    (advances : (worker.advance settings topic).exec w = some (.ok moved, left)) :
    worker.move settings topic w = (moved, left) := by
  rw [move, advances]

/-- A worker ends that does not settle, if it ends after every next step. -/
theorem ends_of_advance (busy : worker ≠ idle)
    (open_ : ∀ delivery outcome, worker ≠ settling delivery outcome)
    (later : ∀ moved left, (worker.advance settings topic).exec w = some (.ok moved, left) →
      Ends settings topic moved left) : Ends settings topic worker w := by
  rw [Ends, rest_busy settings topic busy open_, exec_bind]
  cases advances : (worker.advance settings topic).exec w with
  | none => exact ⟨1, .step busy (by rw [move, advances]) .stopped⟩
  | some p =>
    obtain ⟨e | moved, left⟩ := p
    · exact ⟨1, .step busy (by rw [move, advances]) (.idle (.error e))⟩
    · obtain ⟨n, finishes⟩ := later moved left advances
      exact ⟨n + 1, .step busy (move_of_advance advances) finishes⟩

theorem ends_settling (delivery : Delivery α) (outcome : Except BillingError Unit)
    (w : World (Memory α) α) : Ends settings topic (settling delivery outcome) w := by
  have busy : (settling delivery outcome : Worker α) ≠ idle := nofun
  simp only [Ends, rest, exec_bind]
  cases settled : (settle delivery outcome : Engine (Memory α) α _).exec w with
  | none => exact ⟨1, .step busy (by simp [move, advance, settled]; rfl) .stopped⟩
  | some p =>
    obtain ⟨e | settlement, left⟩ := p
    · exact ⟨1, .step busy (by simp [move, advance, settled]) (.idle (.error e))⟩
    · exact ⟨1, .step busy (by simp [move, advance, settled]) (.idle (.ok (some settlement)))⟩

section Observations

variable {delivery : Delivery α} {usage : Usage α} {later : List (Usage α)}
  {results : List (Except BillingError (Outcome α))}

theorem advance_pricing (advances : ((pricing delivery usage later results).advance settings
      topic).exec w = some (.ok moved, left)) :
    (∃ unit coverage, moved = posting delivery usage unit coverage later results) ∨
      ∃ result, moved = next delivery (results ++ [result]) later := by
  simp only [advance, exec_bind, exec_attempt] at advances
  cases priced : (price settings usage).exec w with
  | none =>
    rw [priced] at advances
    cases advances
  | some p =>
    rw [priced] at advances
    obtain ⟨e | ⟨unit, coverage⟩, _⟩ := p
    · cases advances
      exact .inr ⟨_, rfl⟩
    · cases advances
      exact .inl ⟨unit, coverage, rfl⟩

theorem advance_posting {unit : MeasureUnit α} {coverage : Option (Coverage α)}
    (advances : ((posting delivery usage unit coverage later results).advance settings
      topic).exec w = some (.ok moved, left)) :
    ∃ result, moved = next delivery (results ++ [result]) later := by
  simp only [advance, exec_bind, exec_attempt] at advances
  cases posted : (post usage unit coverage : Engine (Memory α) α _).exec w with
  | none =>
    rw [posted] at advances
    cases advances
  | some p =>
    rw [posted] at advances
    cases advances
    exact ⟨_, rfl⟩

theorem ends_next (delivery : Delivery α) (results : List (Except BillingError (Outcome α)))
    (later : List (Usage α)) (w : World (Memory α) α) :
    Ends settings topic (next delivery results later) w := by
  induction later generalizing results w with
  | nil => exact ends_settling delivery _ w
  | cons usage later ih =>
    refine ends_of_advance nofun nofun fun moved left advances => ?_
    rcases advance_pricing advances with ⟨unit, coverage, rfl⟩ | ⟨result, rfl⟩
    · refine ends_of_advance nofun nofun fun moved left advances => ?_
      obtain ⟨result, rfl⟩ := advance_posting advances
      exact ih _ left
    · exact ih _ left

end Observations

theorem advance_holding {delivery : Delivery α}
    (advances : ((holding delivery).advance settings topic).exec w = some (.ok moved, left)) :
    (∃ usages, moved = next delivery [] usages) ∨ ∃ outcome, moved = settling delivery outcome := by
  by_cases summaries : delivery.topic = Topic.tallySummary
  · simp only [advance, if_pos summaries, exec_bind, exec_attempt, exec_decodePayload] at advances
    cases decoded : TallySummary.record.decoder delivery.payload.canonical with
    | error e =>
      rw [decoded] at advances
      cases advances
      exact .inr ⟨_, rfl⟩
    | ok summary =>
      rw [decoded] at advances
      cases advances
      exact .inl ⟨_, rfl⟩
  · simp only [advance, if_neg summaries, exec_bind, exec_attempt] at advances
    cases handled : (handle settings delivery).exec w with
    | none =>
      rw [handled] at advances
      cases advances
    | some p =>
      rw [handled] at advances
      cases advances
      exact .inr ⟨_, rfl⟩

theorem ends_holding (delivery : Delivery α) (w : World (Memory α) α) :
    Ends settings topic (holding delivery) w := by
  refine ends_of_advance nofun nofun fun moved left advances => ?_
  rcases advance_holding advances with ⟨usages, rfl⟩ | ⟨outcome, rfl⟩
  · exact ends_next delivery [] usages left
  · exact ends_settling delivery outcome left

/-- The first step of an idle worker is followed by those that end what the program does. -/
theorem idle_ends (settings : EngineSettings α) (topic : String) (w : World (Memory α) α) :
    ∃ n moved left, idle.move settings topic w = (moved, left) ∧
      Finishes settings topic n moved left ((processNext settings topic).exec w) := by
  change ∃ n moved left, idle.move settings topic w = (moved, left) ∧
    Finishes settings topic n moved left (((idle : Worker α).rest settings topic).exec w)
  rw [rest_idle, exec_bind]
  simp only [move, advance, exec_bind, Memory.exec_claim, Option.bind_some, proceed_ok]
  cases (w.storage.queue.claim topic w.now).1 with
  | none => exact ⟨0, idle, _, rfl, .idle (.ok none)⟩
  | some delivery =>
    obtain ⟨n, finishes⟩ := ends_holding delivery _
    exact ⟨n, holding delivery, _, rfl, finishes⟩

end Worker

namespace System

open Worker

variable {s : System α} {i n : Nat} {ending : Ending α}

/-- Steps of one worker on the system, as many as given. -/
def alone (settings : EngineSettings α) (topic : String) (s : System α) (i n : Nat) : System α :=
  s.run settings (List.replicate n (.work i topic))

/-- A worker that finishes is busy until then, and leaves the ending to the system. -/
theorem alone_finishes (finishes : Finishes settings topic n (s.workers i) s.world ending) :
    (∀ k < n, (s.alone settings topic i k).workers i ≠ .idle) ∧
      (∀ result w, ending = some (result, w) →
        (s.alone settings topic i n).workers i = .idle ∧
          (s.alone settings topic i n).world = w) ∧
      (ending = none → (s.alone settings topic i n).workers i = .stopped) := by
  generalize start : s.workers i = worker at finishes
  generalize before : s.world = w at finishes
  induction finishes generalizing s with
  | idle result =>
    refine ⟨nofun, fun _ _ same => ?_, nofun⟩
    cases same
    exact ⟨start, before⟩
  | stopped => exact ⟨nofun, nofun, fun _ => start⟩
  | @step n worker moved w left ending busy moves _ ih =>
    let s' := s.step settings (.work i topic)
    have first : s'.workers i = moved ∧ s'.world = left := by
      subst start before
      simp only [s', step, moves, Function.update_self, and_self]
    obtain ⟨working, done, halted⟩ := @ih s' first.1 first.2
    refine ⟨fun k early => ?_, done, halted⟩
    cases k with
    | zero => exact start ▸ busy
    | succ k => exact working k (by omega)

end System
end MeteredBilling
