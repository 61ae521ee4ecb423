import MeteredBilling.Proofs.Events
import MeteredBilling.Proofs.Workers

/-!
# Accrual

What a step of workers does to the rows is what one operation on the storage does. What a row has
accounted for never falls in it, unless the row is reset or removed.
-/

namespace MeteredBilling

open Exact Engine

section Operations

variable {α : Type} [Amount α] {settings : EngineSettings α}

namespace Worker

omit [Amount α] in
/-- Of observations, a worker brings the one that it posts, and it never resets rows. -/
def Brings (worker : Worker α) : Operation α → Prop
  | .observe usage unit coverage =>
    ∃ delivery later results, worker = posting delivery usage unit coverage later results
  | .upkeep u => ∀ request, u ≠ .reset request
  | .clock _ => True

theorem apply_after {usage : Usage α} {unit : MeasureUnit α} {coverage : Option (Coverage α)}
    {w w' : World (Memory α) α} {result : Except BillingError (Outcome α)}
    (applied : (apply usage unit coverage).exec w = some (result, w')) :
    w' = w.after (.observe usage unit coverage) := by
  rw [World.after, Operation.perform, exec_discard, applied]
  rfl

theorem Moves.rows {a b : Worker α} {w w' : World (Memory α) α} (moves : Moves settings a w b w') :
    ∃ operation, a.Brings operation ∧
      w'.storage.rows = (w.after operation).storage.rows := by
  have still (same : w'.storage.rows = w.storage.rows) : ∃ operation, a.Brings operation ∧
      w'.storage.rows = (w.after operation).storage.rows := ⟨.clock w.now, trivial, same⟩
  cases moves with
  | rest same | open_ _ _ same | reject same | refuse _ same | giveUp same =>
    exact still (congrArg Memory.rows same)
  | claim _ _ rows _ | settle rows _ _ => exact still rows
  | price priced => exact still (congrArg Memory.rows (price_ok priced).2.1)
  | misprice failed => exact still (congrArg Memory.rows (price_error failed))
  | stop => exact still rfl
  | @handle _ _ _ _ u _ effect =>
    rcases effect with same | ⟨calm, effect⟩
    · exact still (congrArg Memory.rows same)
    · exact ⟨.upkeep u, calm, by rw [World.after_upkeep, effect]⟩
  | post applied _ same =>
    exact ⟨.observe _ _ _, ⟨_, _, _, rfl⟩, by rw [same, apply_after applied]⟩

theorem Moves.unit {a : Worker α} {w w' : World (Memory α) α} {delivery : Delivery α}
    {usage : Usage α} {unit : MeasureUnit α} {coverage : Option (Coverage α)}
    {later : List (Usage α)} {results : List (Except BillingError (Outcome α))}
    (moves : Moves settings a w (posting delivery usage unit coverage later results) w') :
    settings.catalog.billingUnit usage.productId usage.metricId = .ok unit := by
  have other : ∀ (delivery' : Delivery α) results' later', next delivery' results' later' ≠
      posting delivery usage unit coverage later results := by
    intro delivery' results' later'
    cases later' <;> exact fun same => by cases same
  generalize target : posting delivery usage unit coverage later results = b at moves
  cases moves with
  | price priced =>
    cases target
    exact (price_ok priced).1
  | open_ | misprice | post | refuse => exact absurd target.symm (other _ _ _)
  | rest | claim | reject | handle | settle | giveUp | stop => cases target

end Worker

omit [Amount α] in
def Event.resets (row : Remittance α) : Event α → Bool
  | .upkeep (.reset request) => request.selects row
  | _ => false

namespace System

/-- An operation that a step can bring. -/
def Brings (s : System α) (event : Event α) : Operation α → Prop
  | .upkeep u => event = .upkeep u ∨ ∀ request, u ≠ .reset request
  | operation => ∃ i, (s.workers i).Brings operation

variable (settings) in
theorem rows_step (s : System α) (event : Event α) : ∃ operation, s.Brings event operation ∧
    (s.step settings event).world.storage.rows = (s.world.after operation).storage.rows := by
  cases event with
  | work i topic =>
    obtain ⟨operation, brings, rows⟩ :=
      (Worker.moves settings topic (s.workers i) s.world).rows
    refine ⟨operation, ?_, rows⟩
    cases operation with
    | upkeep u => exact .inr brings
    | observe | clock => exact ⟨i, brings⟩
  | upkeep u => exact ⟨.upkeep u, .inl rfl, rfl⟩
  | publish | clock | contracts => exact ⟨.clock s.world.now, ⟨0, trivial⟩, rfl⟩

/-- A posted observation is in the unit that the catalog has for it. -/
def Priced (settings : EngineSettings α) (s : System α) : Prop :=
  ∀ i delivery usage unit coverage later results,
    s.workers i = .posting delivery usage unit coverage later results →
      settings.catalog.billingUnit usage.productId usage.metricId = .ok unit

theorem Priced.step {s : System α} (priced : s.Priced settings) (event : Event α) :
    (s.step settings event).Priced settings := by
  cases event with
  | work i topic =>
    intro j delivery usage unit coverage later results posting
    rw [workers_step] at posting
    by_cases mine : j = i
    · subst mine
      rw [Function.update_self] at posting
      have moves := Worker.moves settings topic (s.workers j) s.world
      rw [posting] at moves
      exact moves.unit
    · rw [Function.update_of_ne mine] at posting
      exact priced j delivery usage unit coverage later results posting
  | publish | upkeep | clock | contracts => exact priced

end System
end Operations

/-! ### On exact amounts -/

/-- A key has one row at the most, with a factor that can be divided by. -/
def RowTable.Sound (t : RowTable ℚ) : Prop :=
  ∀ key, t.Single key ∧ ∀ row ∈ t.get? key, 0 < row.factor

theorem positive_of_billingUnit {catalog : ProductCatalog ℚ} {productId metricId : String}
    {unit : MeasureUnit ℚ} (found : catalog.billingUnit productId metricId = .ok unit) :
    0 < unit.factor := usable_iff.mp (usable_of_billingUnit found)

namespace World

variable {w : World (Memory ℚ) ℚ} {key : RemittanceKey}

theorem sound_observed {usage : Usage ℚ} {unit : MeasureUnit ℚ} (coverage : Option (Coverage ℚ))
    (sound : w.storage.rows.Sound) (positive : 0 < unit.factor) :
    (w.after (.observe usage unit coverage)).storage.rows.Sound := by
  intro key
  refine ⟨single_after _ (sound key).1, ?_⟩
  by_cases same : key = usage.key
  · subst same
    by_cases follows : Follows usage.currentTotal (w.storage.rows.get? usage.key)
    · exact (parts_after coverage positive (sound _).2 follows).2.2
    · rw [after_refused follows]
      exact (sound _).2
  · rw [row_after_other unit coverage same]
    exact (sound key).2

theorem sound_upkeep (u : Upkeep ℚ) (sound : w.storage.rows.Sound) :
    (w.after (.upkeep u)).storage.rows.Sound := by
  intro key
  refine ⟨single_after _ (sound key).1, ?_⟩
  rw [after_upkeep]
  cases disturbed : (w.storage.rows.get? key).any u.disturbs with
  | false =>
    have calm : ∀ row ∈ w.storage.rows.get? key, u.disturbs row = false := fun row present =>
      (Option.any_eq_false ..).mp disturbed row present
    exact usable_of_amounts (u.amounts_effect w.now (sound key).1 calm) (sound key).2
  | true =>
    obtain ⟨row, present, chosen⟩ := (Option.any_eq_true ..).mp disturbed
    rcases Upkeep.row_of_disturbed w.now (sound key).1 present chosen with gone | reset
    · rw [gone]
      rintro _ ⟨⟩
    · rw [reset]
      rintro _ ⟨⟩
      exact (sound key).2 row present

theorem accrued_observed {usage : Usage ℚ} {unit : MeasureUnit ℚ} (coverage : Option (Coverage ℚ))
    (sound : w.storage.rows.Sound) (positive : 0 < unit.factor) :
    accountedFor (w.storage.rows.get? key) ≤
      accountedFor ((w.after (.observe usage unit coverage)).storage.rows.get? key) := by
  by_cases same : key = usage.key
  · subst same
    by_cases follows : Follows usage.currentTotal (w.storage.rows.get? usage.key)
    · rw [accountedFor_advanced coverage positive (sound _).2 follows]
      exact le_add_of_nonneg_right (consumed_nonneg ..)
    · rw [after_refused follows]
  · rw [row_after_other unit coverage same]

end World

namespace System

variable {settings : EngineSettings ℚ} {s : System ℚ} {event : Event ℚ} {key : RemittanceKey}

/-- The rows are sound, and so are the units of what is about to be posted. -/
structure Sound (settings : EngineSettings ℚ) (s : System ℚ) : Prop where
  rows : s.world.storage.rows.Sound
  priced : s.Priced settings

theorem Sound.start (world : World (Memory ℚ) ℚ) (policy : DeliveryPolicy) :
    (System.start world policy).Sound settings where
  rows key := ⟨RowTable.single_of_absent rfl, by rintro _ ⟨⟩⟩
  priced i delivery usage unit coverage later results posting := by cases posting

theorem Sound.positive {usage : Usage ℚ} {unit : MeasureUnit ℚ} {coverage : Option (Coverage ℚ)}
    (sound : s.Sound settings) (brings : s.Brings event (.observe usage unit coverage)) :
    0 < unit.factor := by
  obtain ⟨i, delivery, later, results, posting⟩ := brings
  exact positive_of_billingUnit (sound.priced i _ _ _ _ _ _ posting)

theorem Sound.step (sound : s.Sound settings) (event : Event ℚ) :
    (s.step settings event).Sound settings := by
  refine ⟨?_, sound.priced.step event⟩
  obtain ⟨operation, brings, rows⟩ := rows_step settings s event
  rw [rows]
  cases operation with
  | observe usage unit coverage =>
    exact World.sound_observed coverage sound.rows (sound.positive brings)
  | upkeep u => exact World.sound_upkeep u sound.rows
  | clock moment => exact sound.rows

/-- The event deletes the row of the key, or sets its amounts back. -/
def Disturbs (settings : EngineSettings ℚ) (s : System ℚ) (event : Event ℚ)
    (key : RemittanceKey) : Prop :=
  ∃ row ∈ s.world.storage.rows.get? key,
    (s.step settings event).world.storage.rows.get? key = none ∨ event.resets row = true

instance (settings : EngineSettings ℚ) (s : System ℚ) (event : Event ℚ) (key : RemittanceKey) :
    Decidable (s.Disturbs settings event key) :=
  inferInstanceAs (Decidable (∃ row ∈ s.world.storage.rows.get? key,
    (s.step settings event).world.storage.rows.get? key = none ∨ event.resets row = true))

theorem Sound.accrued (sound : s.Sound settings) (calm : ¬s.Disturbs settings event key) :
    accountedFor (s.world.storage.rows.get? key) ≤
      accountedFor ((s.step settings event).world.storage.rows.get? key) := by
  obtain ⟨operation, brings, rows⟩ := rows_step settings s event
  cases operation with
  | observe usage unit coverage =>
    rw [rows]
    exact World.accrued_observed coverage sound.rows (sound.positive brings)
  | clock moment => rw [rows]; rfl
  | upkeep u =>
    rw [World.after_upkeep] at rows
    have keeps : ∀ row ∈ s.world.storage.rows.get? key, u.disturbs row = false := by
      intro row present
      by_contra disturbed
      rw [Bool.not_eq_false] at disturbed
      refine calm ⟨row, present, ?_⟩
      by_cases resets : ∃ request, u = .reset request
      · obtain ⟨request, rfl⟩ := resets
        rcases brings with rfl | other
        · exact .inr disturbed
        · exact absurd rfl (other request)
      · rw [rows]
        exact .inl (Upkeep.gone_of_disturbed _ (sound.rows key).1 present disturbed
          fun request same => resets ⟨request, same⟩)
    rw [rows, accountedFor_of_amounts (u.amounts_effect _ (sound.rows key).1 keeps)]

end System
end MeteredBilling
