import MeteredBilling.Proofs.Operations
import MeteredBilling.Proofs.Processing

/-!
# Passes over a summary

A summary is processed by a pass over its observations, each in the world that the one before it
left. The storage changes in it as by the observations that find a unit and a coverage, and what
these are depends on the catalog and the contract service alone.
-/

namespace MeteredBilling.Engine

variable {α : Type} [Amount α] {settings : EngineSettings α} {usage : Usage α}

/-! ### Prices -/

section Prices

variable {σ : Type} {w w' : World σ α}

theorem resolveCoverage_agrees (catalog : ProductCatalog α) (usage : Usage α)
    (same : w'.contracts = w.contracts) :
    ((resolveCoverage catalog usage).exec w').map (·.1) =
      ((resolveCoverage catalog usage).exec w).map (·.1) := by
  obtain ⟨_, first⟩ := exec_resolveCoverage catalog usage w
  obtain ⟨_, second⟩ := exec_resolveCoverage catalog usage w'
  rw [first, second, same]
  rfl

theorem exec_price_of_answer {unit : MeasureUnit α} {coverage : Coverage α}
    (found : settings.catalog.billingUnit usage.productId usage.metricId = .ok unit)
    (answer : ((resolveCoverage settings.catalog usage).exec w).map (·.1) = some (.ok coverage)) :
    ∃ left, (price settings usage).exec w = some (.ok (unit,
      if settings.catalog.isContractEnabled usage.productId then some coverage else none),
      left) := by
  obtain ⟨⟨result, left⟩, ran, rfl⟩ := Option.map_eq_some_iff.mp answer
  unfold price
  rw [found]
  cases settings.catalog.isContractEnabled usage.productId with
  | false => exact ⟨w, rfl⟩
  | true =>
    obtain ⟨counters, counted⟩ := exec_countCovered usage coverage unit.factor left
    exact ⟨_, by simp [coverageOf, ran, counted]; rfl⟩

/-- Worlds with the same contract service price an observation alike. -/
theorem price_agrees {priced : MeasureUnit α × Option (Coverage α)} {left : World σ α}
    (same : w'.contracts = w.contracts)
    (ran : (price settings usage).exec w = some (.ok priced, left)) :
    ∃ left', (price settings usage).exec w' = some (.ok priced, left') := by
  obtain ⟨unit, coverage⟩ := priced
  obtain ⟨found, _, resolved, queries, answer, rfl⟩ := price_ok ran
  have first : ((resolveCoverage settings.catalog usage).exec w).map (·.1) =
      some (.ok resolved) := by
    rw [answer]
    rfl
  exact exec_price_of_answer found ((resolveCoverage_agrees _ usage same).trans first)

end Prices

/-! ### One observation -/

variable {w w' : World (Memory α) α} {result : Except BillingError (Outcome α)}

theorem exec_post (usage : Usage α) (unit : MeasureUnit α) (coverage : Option (Coverage α))
    (w : World (Memory α) α) : ∃ result counters, (post usage unit coverage).exec w =
      some (result, { w.after (.observe usage unit coverage) with counters }) := by
  have applied := exec_apply usage unit coverage w
  have left := World.after_observe w usage unit coverage
  cases decided : decisionOn usage unit coverage w with
  | error e =>
    rw [decided] at applied left
    exact ⟨.error e, w.counters, by rw [exec_post_of_error applied, left]⟩
  | ok taken =>
    rw [decided] at applied left
    obtain ⟨counters, posted⟩ := exec_post_of_ok applied
    exact ⟨_, counters, by rw [posted, left]⟩

theorem exec_process_of_price {priced : MeasureUnit α × Option (Coverage α)}
    (found : (price settings usage).exec w = some (.ok priced, w')) :
    (process settings usage).exec w = (post usage priced.1 priced.2).exec w' := by
  rw [process_eq, exec_bind, found]
  rfl

/-- Posting comes to the calculation, or fails as the calculation does. -/
theorem post_calculation {unit : MeasureUnit α} {coverage : Option (Coverage α)}
    (ran : (post usage unit coverage).exec w = some (result, w')) :
    Calculation.compute usage.currentTotal unit (w.storage.rows.get? usage.key) coverage =
      result.map (·.calculation) := by
  have applied := exec_apply usage unit coverage w
  rw [decisionOn_eq] at applied
  cases computed : Calculation.compute usage.currentTotal unit (w.storage.rows.get? usage.key)
    coverage with
  | error e =>
    rw [computed] at applied
    rw [exec_post_of_error applied] at ran
    cases ran
    rfl
  | ok calculation =>
    rw [computed, map_ok] at applied
    obtain ⟨counters, posted⟩ := exec_post_of_ok applied
    rw [posted] at ran
    cases ran
    cases calculation.advances <;> rfl

/-- The ledger looks at neither the counters nor the record of lookups. -/
theorem after_observe_beside (unit : MeasureUnit α) (coverage : Option (Coverage α))
    (queries : List ContractQuery) (counters : Counters α) :
    ({ w with queries, counters }).after (.observe usage unit coverage) =
      { w.after (.observe usage unit coverage) with queries, counters } := by
  have same : decisionOn usage unit coverage { w with queries, counters } =
      decisionOn usage unit coverage w := rfl
  rw [World.after_observe, World.after_observe, same]
  cases decisionOn usage unit coverage w <;> rfl

theorem frame_observed (w : World (Memory α) α) (usage : Usage α) (unit : MeasureUnit α)
    (coverage : Option (Coverage α)) :
    (w.after (.observe usage unit coverage)).now = w.now ∧
      (w.after (.observe usage unit coverage)).contracts = w.contracts := by
  rw [World.after_observe]
  cases decisionOn usage unit coverage w <;> exact ⟨rfl, rfl⟩

/-- Processing keeps the clock and the contract service, and changes the storage as the observation
does under its price, if it has one. -/
theorem process_cases (ran : (process settings usage).exec w = some (result, w')) :
    w'.now = w.now ∧ w'.contracts = w.contracts ∧
      ((∃ priced left, (price settings usage).exec w = some (.ok priced, left) ∧
          w'.storage = (w.after (.observe usage priced.1 priced.2)).storage) ∨
        (∃ e left, (price settings usage).exec w = some (.error e, left)) ∧
          w'.storage = w.storage) := by
  rw [process_eq, exec_bind] at ran
  rcases price_cases settings usage w with ⟨unit, coverage, queries, counters, _, _, priced⟩ |
    ⟨e, queries, notices, failed⟩ | ⟨nothing, _⟩
  · obtain ⟨posted, total, left⟩ := exec_post usage unit
      (if settings.catalog.isContractEnabled usage.productId then some coverage else none)
      { w with queries, counters }
    rw [priced, Option.bind_some, proceed_ok, left, after_observe_beside] at ran
    cases ran
    obtain ⟨clock, service⟩ := frame_observed w usage unit
      (if settings.catalog.isContractEnabled usage.productId then some coverage else none)
    exact ⟨clock, service, .inl ⟨_, _, priced, rfl⟩⟩
  · rw [failed] at ran
    cases ran
    exact ⟨rfl, rfl, .inr ⟨⟨e, _, failed⟩, rfl⟩⟩
  · rw [nothing] at ran
    cases ran

theorem process_eq_none (nothing : (process settings usage).exec w = none) :
    w.now.minus? settings.contractGrace = none := by
  rw [process_eq, exec_bind] at nothing
  rcases price_cases settings usage w with ⟨unit, coverage, queries, counters, _, _, priced⟩ |
    ⟨e, queries, notices, failed⟩ | ⟨_, left⟩
  · obtain ⟨posted, total, left⟩ := exec_post usage unit
      (if settings.catalog.isContractEnabled usage.productId then some coverage else none)
      { w with queries, counters }
    rw [priced, Option.bind_some, proceed_ok, left] at nothing
    cases nothing
  · rw [failed] at nothing
    cases nothing
  · exact left

/-! ### All observations -/

/-- The observations in turn, whatever becomes of each. -/
def pass (settings : EngineSettings α) (usages : List (Usage α)) :
    Engine (Memory α) α (List (Except BillingError (Outcome α))) :=
  usages.mapM fun usage => attempt (process settings usage)

theorem exec_pass_cons (usage : Usage α) (later : List (Usage α)) :
    (pass settings (usage :: later)).exec w = ((process settings usage).exec w).bind fun first =>
      ((pass settings later).exec first.2).map fun p => (p.1.map (first.1 :: ·), p.2) := by
  rw [pass, List.mapM_cons, exec_bind, exec_attempt]
  cases (process settings usage).exec w with
  | none => rfl
  | some first =>
    obtain ⟨result, left⟩ := first
    simp only [Option.map_some, Option.bind_some, proceed_ok, exec_bind]
    change ((pass settings later).exec left).bind _ = _
    cases (pass settings later).exec left with
    | none => rfl
    | some rest =>
      obtain ⟨results | e, last⟩ := rest <;> rfl

theorem exec_processSummary (summary : TallySummary α) :
    (processSummary settings summary).exec w =
      ((pass settings (summary.usages settings.catalog)).exec w).map fun p =>
        (p.1.bind verdict, p.2) := by
  rw [processSummary, exec_bind]
  change ((pass settings _).exec w).bind _ = _
  cases (pass settings (summary.usages settings.catalog)).exec w with
  | none => rfl
  | some p =>
    obtain ⟨results | e, last⟩ := p <;> rfl

section Passes

variable {usages : List (Usage α)}
  {results : Except BillingError (List (Except BillingError (Outcome α)))}

theorem pass_cases {later : List (Usage α)}
    (ran : (pass settings (usage :: later)).exec w = some (results, w')) :
    ∃ result left rest, (process settings usage).exec w = some (result, left) ∧
      (pass settings later).exec left = some (rest, w') ∧ results = rest.map (result :: ·) := by
  rw [exec_pass_cons] at ran
  obtain ⟨⟨result, left⟩, first, ran⟩ := Option.bind_eq_some_iff.mp ran
  obtain ⟨⟨rest, last⟩, later, same⟩ := Option.map_eq_some_iff.mp ran
  obtain ⟨all, rfl⟩ := Prod.mk.inj same
  exact ⟨result, left, rest, first, later, all.symm⟩

/-- What every observation keeps is kept by the pass. -/
theorem pass_keeps {kept : World (Memory α) α → Prop}
    (keeps : ∀ usage w result w', kept w → (process settings usage).exec w = some (result, w') →
      kept w')
    (holds : kept w) (ran : (pass settings usages).exec w = some (results, w')) : kept w' := by
  induction usages generalizing w results with
  | nil =>
    cases ran
    exact holds
  | cons usage later ih =>
    obtain ⟨result, left, rest, first, others, _⟩ := pass_cases ran
    exact ih (keeps usage w result left holds first) others

/-- What processing an observation brings about, and processing another one keeps, holds of all
observations after the pass. -/
theorem pass_brings {good : Usage α → World (Memory α) α → Prop}
    (brings : ∀ usage w result w', (process settings usage).exec w = some (result, w') →
      good usage w')
    (keeps : ∀ usage other w result w', good usage w →
      (process settings other).exec w = some (result, w') → good usage w')
    (ran : (pass settings usages).exec w = some (results, w')) :
    ∀ usage ∈ usages, good usage w' := by
  induction usages generalizing w results with
  | nil => exact fun usage member => nomatch member
  | cons usage later ih =>
    obtain ⟨result, left, rest, first, others, _⟩ := pass_cases ran
    intro other member
    rcases List.mem_cons.mp member with rfl | member
    · have holds := brings other w result left first
      exact pass_keeps (fun usage w result w' => keeps other usage w result w') holds others
    · exact ih others other member

theorem pass_contracts (ran : (pass settings usages).exec w = some (results, w')) :
    w'.contracts = w.contracts := by
  have keeps : ∀ usage (before : World (Memory α) α) result after,
      before.contracts = w.contracts →
        (process settings usage).exec before = some (result, after) →
          after.contracts = w.contracts :=
    fun usage before result after same ran => (process_cases ran).2.1.trans same
  exact pass_keeps keeps rfl ran

theorem pass_eq_none (nothing : (pass settings usages).exec w = none) :
    w.now.minus? settings.contractGrace = none := by
  induction usages generalizing w with
  | nil => cases nothing
  | cons usage later ih =>
    rw [exec_pass_cons] at nothing
    cases first : (process settings usage).exec w with
    | none => exact process_eq_none first
    | some p =>
      obtain ⟨result, left⟩ := p
      rw [first, Option.bind_some, Option.map_eq_none_iff] at nothing
      rw [← (process_cases first).1]
      exact ih nothing

end Passes

end MeteredBilling.Engine
