import Mathlib.Data.List.Induction
import MeteredBilling.Engine.Billing
import MeteredBilling.Proofs.Calculation
import MeteredBilling.Proofs.Execution

/-!
# Processing of an observation

An observation is priced, which finds its unit and its coverage and leaves the storage alone, and
then posted, which is the one step that reads and writes the row of its key.
-/

namespace MeteredBilling.Engine

open Calendar

variable {σ α : Type} [Amount α] {w w' : World σ α} {settings : EngineSettings α}
  {usage : Usage α}

/-- Finds the unit and the coverage of an observation. -/
def price (settings : EngineSettings α) (usage : Usage α) :
    Engine σ α (MeasureUnit α × Option (Coverage α)) := do
  let unit ← ofResult (settings.catalog.billingUnit usage.productId usage.metricId)
  if settings.catalog.isContractEnabled usage.productId then do
    let coverage ← coverageOf settings usage
    countCovered usage coverage unit.factor
    return (unit, some coverage)
  else return (unit, none)

/-- Records a priced observation in the ledger and counts it. -/
def post [RowStore σ α] (usage : Usage α) (unit : MeasureUnit α)
    (coverage : Option (Coverage α)) : Engine σ α (Outcome α) := do
  let outcome ← apply usage unit coverage
  if let some row := outcome.row then
    let consumed ← ofResult ((Quantity.ofMetric outcome.calculation.consumed).inUnit unit)
    count .billable (.ofUsage usage row.status.text) consumed.value
  return outcome

theorem process_eq [RowStore σ α] (settings : EngineSettings α) (usage : Usage α) :
    process (σ := σ) settings usage =
      price settings usage >>= fun priced => post usage priced.1 priced.2 := by
  unfold process price
  simp only [bind_assoc]
  congr 1
  funext unit
  cases settings.catalog.isContractEnabled usage.productId with
  | true => simp only [bind_assoc, pure_bind, if_true]; rfl
  | false => simp only [pure_bind, Bool.false_eq_true, if_false]; rfl

/-! ### Pricing -/

/-- The coverage that the resolver makes of what the contract service answers. -/
def coverageFrom (catalog : ProductCatalog α) (usage : Usage α)
    (answer : Except BillingError (List (Contract α))) : Except BillingError (Coverage α) :=
  if catalog.isContractEnabled usage.productId then do
    let metricId ← catalog.contractMetric usage.provider usage.productId usage.metricId
    let contracts ← answer
    if contracts.isEmpty then throw (contractMissing usage)
    return .ofContracts contracts metricId usage.snapshotDate
      (catalog.isGratisMetric usage.productId usage.metricId)
  else return .none

/-- The resolver changes nothing but the record of lookups. -/
theorem exec_resolveCoverage (catalog : ProductCatalog α) (usage : Usage α) (w : World σ α) :
    ∃ queries, (resolveCoverage catalog usage).exec w =
      some (coverageFrom catalog usage (w.contracts (.ofUsage usage)), { w with queries }) := by
  unfold resolveCoverage coverageFrom lookUpContracts
  cases catalog.isContractEnabled usage.productId with
  | false => exact ⟨w.queries, rfl⟩
  | true =>
    cases catalog.contractMetric usage.provider usage.productId usage.metricId with
    | error e => exact ⟨w.queries, rfl⟩
    | ok metricId =>
      refine ⟨w.queries ++ [.ofUsage usage], ?_⟩
      cases answer : w.contracts (.ofUsage usage) with
      | error e =>
        simp [answer]
        rfl
      | ok contracts => cases contracts <;> simp [answer] <;> rfl

theorem resolveCoverage_disabled {catalog : ProductCatalog α} {usage : Usage α}
    (disabled : catalog.isContractEnabled usage.productId = false) (w : World σ α) :
    (resolveCoverage catalog usage).exec w = some (.ok .none, w) := by
  unfold resolveCoverage
  rw [disabled]
  rfl

theorem gratis_answered {catalog : ProductCatalog α} {coverage : Coverage α}
    (answer : (resolveCoverage catalog usage).exec w = some (.ok coverage, w')) :
    (if catalog.isContractEnabled usage.productId then some coverage else none).any (·.gratis) =
      coverage.gratis := by
  cases enabled : catalog.isContractEnabled usage.productId with
  | true => rfl
  | false =>
    rw [resolveCoverage_disabled enabled] at answer
    cases answer
    rfl

/-- The coverage is what the resolver answers. Without an answer there is an error, or nothing when
the age of the usage cannot be told on the calendar. -/
theorem coverageOf_cases (settings : EngineSettings α) (usage : Usage α) (w : World σ α) :
    (∃ coverage queries,
      (resolveCoverage settings.catalog usage).exec w = some (.ok coverage, { w with queries }) ∧
      (coverageOf settings usage).exec w = some (.ok coverage, { w with queries })) ∨
    (∃ e queries notices,
      (coverageOf settings usage).exec w = some (.error e, { w with queries, notices })) ∨
    ((coverageOf settings usage).exec w = none ∧ w.now.minus? settings.contractGrace = none) := by
  obtain ⟨queries, resolved⟩ := exec_resolveCoverage settings.catalog usage w
  generalize coverageFrom settings.catalog usage (w.contracts (.ofUsage usage)) = result at resolved
  unfold coverageOf
  cases result with
  | ok coverage => exact .inl ⟨coverage, queries, resolved, by simp [resolved]⟩
  | error e =>
    cases e with
    | contractMissing text =>
      cases start : w.now.minus? settings.contractGrace with
      | none => exact .inr (.inr ⟨by simp [resolved, reportContractMissing, start], rfl⟩)
      | some moment =>
        let report : Notice := if moment < usage.snapshotDate
          then .contractPending settings.contractGrace.minutes
          else .contractOverdue settings.contractGrace.minutes
        exact .inr (.inl ⟨.contractMissing text, queries, w.notices ++ [report], by
          simp [resolved, reportContractMissing, start, report]⟩)
    | _ => exact .inr (.inl ⟨_, queries, w.notices, by simp [resolved]; rfl⟩)

theorem exec_countCovered (usage : Usage α) (coverage : Coverage α) (factor : α)
    (w : World σ α) : ∃ counters,
      (countCovered usage coverage factor).exec w = some (.ok ⟨⟩, { w with counters }) := by
  simp only [countCovered]
  split
  · exact ⟨_, rfl⟩
  · exact ⟨w.counters, rfl⟩

/-- Pricing leaves the storage alone. It fails, or finds the unit of the catalog and the coverage
that the resolver answers, or yields nothing when the age of the usage leaves the calendar. -/
theorem price_cases (settings : EngineSettings α) (usage : Usage α) (w : World σ α) :
    (∃ unit coverage queries counters,
      settings.catalog.billingUnit usage.productId usage.metricId = .ok unit ∧
      (resolveCoverage settings.catalog usage).exec w = some (.ok coverage, { w with queries }) ∧
      (price settings usage).exec w = some (.ok (unit,
        if settings.catalog.isContractEnabled usage.productId then some coverage else none),
        { w with queries, counters })) ∨
    (∃ e queries notices,
      (price settings usage).exec w = some (.error e, { w with queries, notices })) ∨
    ((price settings usage).exec w = none ∧ w.now.minus? settings.contractGrace = none) := by
  unfold price
  cases found : settings.catalog.billingUnit usage.productId usage.metricId with
  | error e => exact .inr (.inl ⟨e, w.queries, w.notices, by simp⟩)
  | ok unit =>
    cases enabled : settings.catalog.isContractEnabled usage.productId with
    | false =>
      exact .inl ⟨unit, .none, w.queries, w.counters, rfl, resolveCoverage_disabled enabled w,
        by simp⟩
    | true =>
      rcases coverageOf_cases settings usage w with ⟨coverage, queries, resolved, given⟩ |
        ⟨e, queries, notices, failed⟩ | ⟨nothing, left⟩
      · obtain ⟨counters, counted⟩ := exec_countCovered usage coverage unit.factor
          { w with queries }
        exact .inl ⟨unit, coverage, queries, counters, rfl, resolved, by simp [given, counted]⟩
      · exact .inr (.inl ⟨e, queries, notices, by simp [failed]⟩)
      · exact .inr (.inr ⟨by simp [nothing], left⟩)

theorem usable_of_billingUnit {catalog : ProductCatalog α} {productId metricId : String}
    {unit : MeasureUnit α} (found : catalog.billingUnit productId metricId = .ok unit) :
    Amount.isUsableFactor unit.factor = true := by
  unfold ProductCatalog.billingUnit at found
  cases metric : catalog.metric productId metricId with
  | error e => simp [metric, bind, Except.bind] at found
  | ok definition =>
    simp only [metric, bind, Except.bind, MeasureUnit.billing] at found
    split at found
    · rename_i usable
      cases found
      exact usable
    · cases found

theorem price_ok {unit : MeasureUnit α} {coverage : Option (Coverage α)}
    (h : (price settings usage).exec w = some (.ok (unit, coverage), w')) :
    settings.catalog.billingUnit usage.productId usage.metricId = .ok unit ∧
      w'.storage = w.storage ∧ ∃ resolved queries,
        (resolveCoverage settings.catalog usage).exec w = some (.ok resolved, { w with queries }) ∧
        coverage =
          if settings.catalog.isContractEnabled usage.productId then some resolved else none := by
  rcases price_cases settings usage w with ⟨found, resolved, queries, counters, unitFound, answer,
    ran⟩ | ⟨e, queries, notices, ran⟩ | ⟨ran, _⟩
  · rw [ran] at h
    cases h
    exact ⟨unitFound, rfl, resolved, queries, answer, rfl⟩
  · rw [ran] at h
    cases h
  · rw [ran] at h
    cases h

theorem price_error {e : BillingError}
    (h : (price settings usage).exec w = some (.error e, w')) : w'.storage = w.storage := by
  rcases price_cases settings usage w with ⟨found, resolved, queries, counters, _, _, ran⟩ |
    ⟨e, queries, notices, ran⟩ | ⟨ran, _⟩
  · rw [ran] at h
    cases h
  · rw [ran] at h
    cases h
    rfl
  · rw [ran] at h
    cases h

/-! ### Posting -/

theorem exec_count (counter : UsageCounter) (labels : CounterLabels) (value : α)
    (w : World σ α) : (count counter labels value).exec w =
      some (.ok ⟨⟩, { w with counters := w.counters.increment counter labels value }) := rfl

theorem exec_post_of_error {usage : Usage α} {unit : MeasureUnit α}
    {coverage : Option (Coverage α)} [RowStore σ α] {e : BillingError}
    (failed : (apply usage unit coverage : Engine σ α _).exec w = some (.error e, w')) :
    (post usage unit coverage).exec w = some (.error e, w') := by
  simp [post, failed]

/-- No step after the ledger fails, or changes anything but a counter. -/
theorem exec_post_of_ok {usage : Usage α} {unit : MeasureUnit α}
    {coverage : Option (Coverage α)} [RowStore σ α] {outcome : Outcome α}
    (applied : (apply usage unit coverage : Engine σ α _).exec w = some (.ok outcome, w')) :
    ∃ counters,
      (post usage unit coverage).exec w = some (.ok outcome, { w' with counters }) := by
  obtain ⟨calculation, row⟩ := outcome
  cases row with
  | none => exact ⟨w'.counters, by simp [post, applied]⟩
  | some row =>
    have consumed : (Quantity.ofMetric calculation.consumed).inUnit unit = _ := Quantity.inUnit_eq
      (.inl rfl)
    exact ⟨_, by simp [post, applied, consumed, exec_count]; rfl⟩

/-! ### The verdict on a summary -/

section Verdict

omit [Amount α]

variable {β : Type} {results : List (Except BillingError β)} {e : BillingError}

/-- What a summary comes to by the results of its observations: all outcomes in their order if none
failed, else the first failure that is worth another attempt, and the first of all if none is. -/
inductive Verdict (results : List (Except BillingError β)) : Except BillingError (List β) → Prop
  | passed {outcomes : List β} (all : results = outcomes.map .ok) : Verdict results (.ok outcomes)
  | retry {e : BillingError} {before after : List (Except BillingError β)}
      (place : results = before ++ .error e :: after) (worth : e.disposition = .retry)
      (first : ∀ e', .error e' ∈ before → e'.disposition = .reject) : Verdict results (.error e)
  | reject {e : BillingError} {before after : List (Except BillingError β)}
      (place : results = before ++ .error e :: after) (first : ∀ e', .error e' ∉ before)
      (final : ∀ e', .error e' ∈ results → e'.disposition = .reject) : Verdict results (.error e)

namespace Verdict

theorem not_mem_passed {outcomes : List β} (e : BillingError) :
    Except.error e ∉ outcomes.map (.ok : β → Except BillingError β) := by
  simp

/-- The first failure is the one to report, unless a later one is put in its place. -/
theorem add_none {outcomes : List β} (result : Except BillingError β) :
    Verdict (outcomes.map .ok ++ [result]) (Judgement.add ⟨outcomes, none⟩ result).verdict := by
  cases result with
  | ok outcome => exact .passed (by simp [Judgement.add])
  | error e =>
    cases disposition : e.disposition with
    | retry => exact .retry rfl disposition fun e' member => absurd member (not_mem_passed e')
    | reject =>
      refine .reject rfl not_mem_passed fun e' member => ?_
      rcases List.mem_append.mp member with old | new
      · exact absurd old (not_mem_passed e')
      · cases List.mem_singleton.mp new
        exact disposition

/-- A failure that is worth another attempt stays the one to report. -/
theorem add_retry {outcomes : List β} {e : BillingError} {before after : List (Except BillingError β)}
    (result : Except BillingError β) (worth : e.disposition = .retry)
    (first : ∀ e', .error e' ∈ before → e'.disposition = .reject) :
    Verdict (before ++ .error e :: after ++ [result])
      (Judgement.add ⟨outcomes, some e⟩ result).verdict := by
  have stays : (Judgement.add ⟨outcomes, some e⟩ result).verdict = .error e := by
    cases result with
    | ok outcome => rfl
    | error e' => simp [Judgement.add, Judgement.verdict, worth]
  rw [stays]
  exact .retry (List.append_assoc ..) worth first

theorem add_reject {outcomes : List β} {e : BillingError}
    {before after : List (Except BillingError β)} (result : Except BillingError β)
    (first : ∀ e', .error e' ∉ before)
    (final : ∀ e', .error e' ∈ before ++ .error e :: after → e'.disposition = .reject) :
    Verdict (before ++ .error e :: after ++ [result])
      (Judgement.add ⟨outcomes, some e⟩ result).verdict := by
  have own : e.disposition = .reject := final e (by simp)
  by_cases worth : ∃ e', result = .error e' ∧ e'.disposition = .retry
  · obtain ⟨e', rfl, worth⟩ := worth
    have replaced : (Judgement.add ⟨outcomes, some e⟩ (.error e')).verdict = .error e' := by
      simp [Judgement.add, Judgement.verdict, own, worth]
    rw [replaced]
    exact .retry rfl worth final
  · have stays : (Judgement.add ⟨outcomes, some e⟩ result).verdict = .error e := by
      cases result with
      | ok outcome => rfl
      | error e' => simp_all [Judgement.add, Judgement.verdict]
    rw [stays]
    refine .reject (List.append_assoc ..) first fun e' member => ?_
    rcases List.mem_append.mp member with old | new
    · exact final e' old
    · cases disposition : e'.disposition with
      | retry => exact absurd ⟨e', (List.mem_singleton.mp new).symm, disposition⟩ worth
      | reject => rfl

/-- One result more, for which the failure so far decides. -/
theorem add {judgement : Judgement β} (verdict : Verdict results judgement.verdict)
    (result : Except BillingError β) :
    Verdict (results ++ [result]) (judgement.add result).verdict := by
  obtain ⟨outcomes, failure⟩ := judgement
  cases failure with
  | none =>
    obtain ⟨rfl⟩ := verdict
    exact add_none result
  | some kept =>
    cases verdict with
    | retry place worth first =>
      rw [place]
      exact add_retry result worth first
    | reject place first final =>
      subst place
      exact add_reject result first final

end Verdict

theorem verdict_holds (results : List (Except BillingError β)) :
    Verdict results (verdict results) := by
  induction results using List.reverseRecOn with
  | nil => exact .passed rfl
  | append_singleton results result ih =>
    rw [verdict, List.foldl_append]
    exact ih.add result

theorem Verdict.mem (verdict : Verdict results (.error e)) : .error e ∈ results := by
  cases verdict with
  | retry place | reject place => simp [place]

/-- A verdict that fails is one of the errors. -/
theorem mem_of_verdict (failed : verdict results = .error e) : .error e ∈ results :=
  (failed ▸ verdict_holds results : Verdict results (.error e)).mem

theorem verdict_ok_iff :
    (∃ outcomes, verdict results = .ok outcomes) ↔ ∀ e, .error e ∉ results := by
  have holds := verdict_holds results
  cases decided : verdict results with
  | ok outcomes =>
    rw [decided] at holds
    obtain ⟨rfl⟩ := holds
    simp
  | error e =>
    refine iff_of_false (fun ⟨outcomes, passed⟩ => nomatch passed) fun none => ?_
    exact none e (mem_of_verdict decided)

theorem verdict_of_error (member : .error e ∈ results) :
    ∃ first, verdict results = .error first := by
  cases decided : verdict results with
  | ok outcomes => exact absurd member (verdict_ok_iff.mp ⟨outcomes, decided⟩ e)
  | error first => exact ⟨first, rfl⟩

end Verdict

end MeteredBilling.Engine
