import Mathlib.Algebra.BigOperators.Group.List.Basic
import MeteredBilling.Proofs.Events
import MeteredBilling.Proofs.Summaries

/-!
# Counted usage

What the usage counters come to on exact amounts. Usage under contract is counted as covered up to
what contracts cover, and as billed beyond that.
-/

namespace MeteredBilling

open Calendar Exact

/-! ### Counters -/

namespace CounterLabels

def ofKey (key : RemittanceKey) (status : String) : CounterLabels :=
  ⟨key.productId, key.metricId, key.provider.text, status⟩

theorem ofKey_status (key : RemittanceKey) (status : String) :
    (ofKey key status).status = status := rfl

end CounterLabels

namespace Counters

section Readings

variable {α : Type} [Amount α] {counter other : UsageCounter} {labels asked : CounterLabels}

theorem get_addTo_own (counter : UsageCounter) (labels : CounterLabels) (value : α)
    (entries : List (CounterEntry α)) : get ⟨addTo counter labels value entries⟩ counter labels =
      get ⟨entries⟩ counter labels + value := by
  induction entries with
  | nil => simp [get, addTo]
  | cons e rest ih =>
    unfold addTo
    by_cases own : e.counter = counter ∧ e.labels = labels
    · simp [get, own]
    · simpa [get, own] using ih

theorem get_addTo_other (apart : ¬(counter = other ∧ labels = asked)) (value : α)
    (entries : List (CounterEntry α)) : get ⟨addTo counter labels value entries⟩ other asked =
      get ⟨entries⟩ other asked := by
  induction entries with
  | nil => simp [get, addTo, apart]
  | cons e rest ih =>
    unfold addTo
    by_cases own : e.counter = counter ∧ e.labels = labels
    · obtain ⟨rfl, rfl⟩ := own
      simp [get, apart]
    · by_cases same : e.counter = other ∧ e.labels = asked
      · rw [if_neg own]
        simp [get, same]
      · rw [if_neg own]
        simpa [get, same] using ih

end Readings

/-- The sum of a counter over all states of the usage of a key. -/
def overStates (counters : Counters ℚ) (counter : UsageCounter) (key : RemittanceKey) : ℚ :=
  (counters.entries.map fun e =>
    if e.counter = counter ∧ e.labels = .ofKey key e.labels.status then e.value else 0).sum

variable (counters : Counters ℚ) (counter other : UsageCounter) (labels asked : CounterLabels)
  (key : RemittanceKey) {value : ℚ}

theorem increment_of_nonpos (nonpos : value ≤ 0) :
    counters.increment counter labels value = counters := by
  have dropped : ¬Amount.isUsableFactor value = true := by
    rw [usable_iff]
    exact not_lt.mpr nonpos
  rw [increment, if_neg dropped]

/-- What adding a value shows of the counters, counting shows of the positive part of it. -/
theorem reading_increment (reading : Counters ℚ → ℚ) {shown : Prop} [Decidable shown]
    (added : reading ⟨addTo counter labels value counters.entries⟩ =
      reading counters + if shown then value else 0) :
    reading (counters.increment counter labels value) =
      reading counters + if shown then max 0 value else 0 := by
  rcases le_or_gt value 0 with nonpos | positive
  · rw [increment_of_nonpos _ _ _ nonpos, max_eq_left nonpos, ite_self, add_zero]
  · rw [increment, if_pos (usable_iff.mpr positive), added, max_eq_right positive.le]

theorem get_addTo (entries : List (CounterEntry ℚ)) :
    get ⟨addTo counter labels value entries⟩ other asked = get ⟨entries⟩ other asked +
      if counter = other ∧ labels = asked then value else 0 := by
  by_cases same : counter = other ∧ labels = asked
  · obtain ⟨rfl, rfl⟩ := same
    rw [get_addTo_own, if_pos ⟨rfl, rfl⟩]
  · rw [get_addTo_other same, if_neg same, add_zero]

theorem overStates_addTo (entries : List (CounterEntry ℚ)) :
    overStates ⟨addTo counter labels value entries⟩ other key = overStates ⟨entries⟩ other key +
      if counter = other ∧ labels = .ofKey key labels.status then value else 0 := by
  induction entries with
  | nil => simp [overStates, addTo]
  | cons e rest ih =>
    unfold overStates at ih ⊢
    unfold addTo
    split
    · rename_i same
      obtain ⟨rfl, rfl⟩ := same
      simp only [List.map_cons, List.sum_cons]
      split <;> ring
    · simp only [List.map_cons, List.sum_cons, ih]
      ring

theorem get_increment (value : ℚ) :
    (counters.increment counter labels value).get other asked = counters.get other asked +
      if counter = other ∧ labels = asked then max 0 value else 0 :=
  reading_increment counters counter labels (·.get other asked) (get_addTo ..)

theorem overStates_increment (value : ℚ) :
    (counters.increment counter labels value).overStates other key =
      counters.overStates other key +
        if counter = other ∧ labels = .ofKey key labels.status then max 0 value else 0 :=
  reading_increment counters counter labels (·.overStates other key) (overStates_addTo ..)

end Counters

namespace Engine

variable {settings : EngineSettings ℚ} {usage : Usage ℚ} {unit : MeasureUnit ℚ}

/-! ### One observation -/

/-- What coverage takes up of an observation, at most the part of it that lies below the coverage. -/
def newlyCovered (usage : Usage ℚ) (coverage : Coverage ℚ) (factor : ℚ) : ℚ :=
  min (coverage.total / factor - (usage.currentTotal - usage.value)) usage.value

theorem exec_countCovered_eq {σ : Type} (usage : Usage ℚ) (coverage : Coverage ℚ) (factor : ℚ)
    (w : World σ ℚ) : (countCovered usage coverage factor).exec w = some (.ok ⟨⟩, { w with
      counters := w.counters.increment .covered (.ofKey usage.key "covered")
        (newlyCovered usage coverage factor) }) := by
  simp only [countCovered]
  split
  · rfl
  · rename_i passed
    have below : newlyCovered usage coverage factor ≤ 0 := by
      have less : coverage.total / factor < usage.currentTotal - usage.value := by
        simpa using passed
      exact (min_le_left _ _).trans (sub_nonpos.mpr less.le)
    rw [Counters.increment_of_nonpos _ _ _ below]
    rfl

variable {w : World (Memory ℚ) ℚ} {coverage : Coverage ℚ}

theorem exec_price_eq {σ : Type} {w : World σ ℚ}
    (enabled : settings.catalog.isContractEnabled usage.productId = true)
    (found : settings.catalog.billingUnit usage.productId usage.metricId = .ok unit)
    (answer : ((resolveCoverage settings.catalog usage).exec w).map (·.1) = some (.ok coverage)) :
    ∃ queries, (price settings usage).exec w = some (.ok (unit, some coverage), { w with
      queries
      counters := w.counters.increment .covered (.ofKey usage.key "covered")
        (newlyCovered usage coverage unit.factor) }) := by
  obtain ⟨queries, resolved⟩ := exec_resolveCoverage settings.catalog usage w
  rw [resolved] at answer
  have same := Option.some.inj answer
  simp only at same
  rw [same] at resolved
  unfold price
  rw [found]
  exact ⟨queries, by simp [enabled, coverageOf, resolved, exec_countCovered_eq]⟩

theorem exec_post_eq (coverage : Option (Coverage ℚ)) (positive : 0 < unit.factor)
    (usable : ∀ row ∈ w.storage.rows.get? usage.key, 0 < row.factor)
    (follows : Follows usage.currentTotal (w.storage.rows.get? usage.key)) :
    ∃ outcome status, (post usage unit coverage).exec w = some (.ok outcome,
      { w.after (.observe usage unit coverage) with
        counters := w.counters.increment .billable (.ofKey usage.key status)
          ((calculationOn usage unit coverage w).consumed * unit.factor) }) := by
  have applied := exec_apply usage unit coverage w
  have left := World.after_observe w usage unit coverage
  rcases idle_or_advances usage unit coverage w with idle | advances
  · have kept := decisionOn_kept positive usable follows idle
    rw [kept] at applied left
    refine ⟨⟨calculationOn usage unit coverage w, none⟩, "", ?_⟩
    rw [idle, zero_mul, Counters.increment_of_nonpos _ _ _ le_rfl, left]
    simp [post, applied, Memory.commit]
  · have written := decisionOn_written positive usable follows advances
    rw [written] at applied left
    have consumed : (Quantity.ofMetric (calculationOn usage unit coverage w).consumed).inUnit unit =
        .ok ⟨(calculationOn usage unit coverage w).consumed * unit.factor, unit⟩ := by
      rw [Quantity.inUnit_eq (.inl rfl), ofMetric_converted]
    refine ⟨⟨calculationOn usage unit coverage w, some (rowOn usage unit coverage w)⟩,
      (rowOn usage unit coverage w).status.text, ?_⟩
    rw [left]
    simp [post, applied, Memory.commit, consumed, exec_count]
    rfl

theorem exec_process_eq
    (enabled : settings.catalog.isContractEnabled usage.productId = true)
    (found : settings.catalog.billingUnit usage.productId usage.metricId = .ok unit)
    (answer : ((resolveCoverage settings.catalog usage).exec w).map (·.1) = some (.ok coverage))
    (usable : ∀ row ∈ w.storage.rows.get? usage.key, 0 < row.factor)
    (follows : Follows usage.currentTotal (w.storage.rows.get? usage.key)) :
    ∃ outcome status left, (process settings usage).exec w = some (.ok outcome, left) ∧
      left.storage = (w.after (.observe usage unit (some coverage))).storage ∧
      left.counters = (w.counters.increment .covered (.ofKey usage.key "covered")
        (newlyCovered usage coverage unit.factor)).increment .billable (.ofKey usage.key status)
          ((calculationOn usage unit (some coverage) w).consumed * unit.factor) := by
  have positive : 0 < unit.factor := usable_iff.mp (usable_of_billingUnit found)
  obtain ⟨queries, priced⟩ := exec_price_eq enabled found answer
  generalize w.counters.increment .covered _ _ = counters at priced ⊢
  obtain ⟨outcome, status, posted⟩ := exec_post_eq (w := { w with queries, counters })
    (some coverage) positive usable follows
  refine ⟨outcome, status, _, (exec_process_of_price priced).trans posted, ?_, rfl⟩
  rw [after_observe_beside]

/-! ### A sequence of observations -/

/-- An observation in its turn, with the clock and the contract service that it meets. -/
structure Turn where
  usage : Usage ℚ
  now : Instant
  contracts : ContractService ℚ

namespace Turn

def meet (turn : Turn) (w : World (Memory ℚ) ℚ) : World (Memory ℚ) ℚ :=
  { w with now := turn.now, contracts := turn.contracts }

theorem meet_counters (turn : Turn) (w : World (Memory ℚ) ℚ) :
    (turn.meet w).counters = w.counters := rfl

/-- Contracts cover the amount when the observation comes. -/
def CoveredBy (settings : EngineSettings ℚ) (total : ℚ) (turn : Turn) : Prop :=
  ∃ coverage : Coverage ℚ, coverage.total = total ∧ ∀ w, ((resolveCoverage settings.catalog
    turn.usage).exec (turn.meet w)).map (·.1) = some (.ok coverage)

end Turn

/-- Observations in turn, all of which have to be processed. -/
def bill (settings : EngineSettings ℚ) (turns : List Turn) :
    Engine (Memory ℚ) ℚ (List (Outcome ℚ)) :=
  turns.mapM fun turn => do
    modify turn.meet
    process settings turn.usage

theorem exec_bill_cons {turn : Turn} {later : List Turn} {outcome : Outcome ℚ}
    {outcomes : List (Outcome ℚ)} {left last : World (Memory ℚ) ℚ}
    (first : (process settings turn.usage).exec (turn.meet w) = some (.ok outcome, left))
    (rest : (bill settings later).exec left = some (.ok outcomes, last)) :
    (bill settings (turn :: later)).exec w = some (.ok (outcome :: outcomes), last) := by
  unfold bill at rest ⊢
  rw [List.mapM_cons]
  simp [first, rest]

/-- The usage is not negative, and each total is the one before it with the usage since. -/
def Accrue (before : ℚ) : List (Usage ℚ) → Prop
  | [] => True
  | usage :: later => 0 ≤ usage.value ∧ usage.currentTotal = before + usage.value ∧
      Accrue usage.currentTotal later

/-- The whole units of the metric past what is covered. -/
def unitsPast (covered used : ℚ) : ℚ := (Quantity.ofMetric (max 0 (used - covered))).ceil.value

theorem newlyCovered_grows {used : ℚ} (nonneg : 0 ≤ usage.value)
    (next : usage.currentTotal = used + usage.value) (coverage : Coverage ℚ) (factor : ℚ) :
    min usage.currentTotal (coverage.total / factor) =
      min used (coverage.total / factor) + max 0 (newlyCovered usage coverage factor) := by
  unfold newlyCovered
  rw [next, add_sub_cancel_right]
  generalize coverage.total / factor = covered
  -- A total that was past the coverage before leaves nothing to cover.
  rcases le_total used covered with below | past
  · have room : 0 ≤ min (covered - used) usage.value := le_min (sub_nonneg.mpr below) nonneg
    rw [max_eq_right room, min_eq_left below, ← min_add_add_left, add_sub_cancel, min_comm]
  · have full : min (covered - used) usage.value ≤ 0 :=
      (min_le_left _ _).trans (sub_nonpos.mpr past)
    rw [max_eq_left full, min_eq_right past, add_zero, min_eq_right (by linarith)]

/-- The row and the counters of a key once a total was counted. -/
structure Counted (start : World (Memory ℚ) ℚ) (key : RemittanceKey) (factor covered used : ℚ)
    (w : World (Memory ℚ) ℚ) : Prop where
  usable : ∀ row ∈ w.storage.rows.get? key, 0 < row.factor
  last : ∀ row ∈ w.storage.rows.get? key, row.lastTotal ≤ used
  accounted : accountedFor (w.storage.rows.get? key) = unitsPast covered used
  taken : w.counters.get .covered (.ofKey key "covered") =
    start.counters.get .covered (.ofKey key "covered") + min used covered
  billed : w.counters.overStates .billable key =
    start.counters.overStates .billable key + factor * unitsPast covered used

theorem last_after {coverage : Option (Coverage ℚ)} (positive : 0 < unit.factor)
    (usable : ∀ row ∈ w.storage.rows.get? usage.key, 0 < row.factor)
    (follows : Follows usage.currentTotal (w.storage.rows.get? usage.key))
    (most : ∀ row ∈ w.storage.rows.get? usage.key, row.lastTotal ≤ usage.currentTotal) :
    ∀ row ∈ (w.after (.observe usage unit coverage)).storage.rows.get? usage.key,
      row.lastTotal ≤ usage.currentTotal := by
  rcases idle_or_advances usage unit coverage w with idle | advances
  · rw [World.after_idle positive usable follows idle]
    exact most
  · rw [World.row_after_written positive usable follows advances]
    rintro row ⟨⟩
    cases prior : w.storage.rows.get? usage.key with
    | none =>
      rw [rowOn, prior]
      exact le_refl usage.currentTotal
    | some row =>
      rw [lastTotal_rowOn prior]
      exact max_le (most row prior) le_rfl

theorem units_after (coverage : Coverage ℚ) (positive : 0 < unit.factor)
    (usable : ∀ row ∈ w.storage.rows.get? usage.key, 0 < row.factor)
    (follows : Follows usage.currentTotal (w.storage.rows.get? usage.key)) {used : ℚ}
    (accounted : accountedFor (w.storage.rows.get? usage.key) =
      unitsPast (coverage.total / unit.factor) used)
    (grows : used ≤ usage.currentTotal) :
    accountedFor ((w.after (.observe usage unit (some coverage))).storage.rows.get? usage.key) =
        unitsPast (coverage.total / unit.factor) usage.currentTotal ∧
      unitsPast (coverage.total / unit.factor) usage.currentTotal =
        unitsPast (coverage.total / unit.factor) used +
          (calculationOn usage unit (some coverage) w).consumed := by
  have rises : unitsPast (coverage.total / unit.factor) used ≤
      unitsPast (coverage.total / unit.factor) usage.currentTotal :=
    required_mono unit.factor (some coverage) grows
  obtain ⟨n, whole⟩ : ∃ n : ℤ, unitsPast (coverage.total / unit.factor) used = n :=
    whole_required used unit.factor (some coverage)
  have raised : accountedFor
      ((w.after (.observe usage unit (some coverage))).storage.rows.get? usage.key) =
        max (accountedFor (w.storage.rows.get? usage.key))
          (unitsPast (coverage.total / unit.factor) usage.currentTotal) :=
    World.accountedFor_after (some coverage) positive usable follows (accounted.trans whole)
  have advanced := World.accountedFor_advanced (some coverage) positive usable follows
  rw [accounted, max_eq_right rises] at raised
  rw [accounted] at advanced
  exact ⟨raised, raised.symm.trans advanced⟩

namespace Counted

variable {start : World (Memory ℚ) ℚ} {key : RemittanceKey} {total used : ℚ} {turn : Turn}

theorem of_absent {covered : ℚ} (factor : ℚ) (nonneg : 0 ≤ covered)
    (absent : start.storage.rows.get? key = none) : Counted start key factor covered 0 start := by
  have nothing : unitsPast covered 0 = 0 := by
    rw [unitsPast, ceil_eq, max_eq_left (by linarith)]
    simp [Quantity.ofMetric]
  refine ⟨?_, ?_, ?_, ?_, ?_⟩
  · simp [absent]
  · simp [absent]
  · rw [absent, nothing]
    rfl
  · rw [min_eq_left nonneg, add_zero]
  · rw [nothing, mul_zero, add_zero]

theorem step (counted : Counted start turn.usage.key unit.factor (total / unit.factor) used w)
    (enabled : settings.catalog.isContractEnabled turn.usage.productId = true)
    (found : settings.catalog.billingUnit turn.usage.productId turn.usage.metricId = .ok unit)
    (covered : turn.CoveredBy settings total) (nonneg : 0 ≤ turn.usage.value)
    (next : turn.usage.currentTotal = used + turn.usage.value) :
    ∃ outcome left, (process settings turn.usage).exec (turn.meet w) = some (.ok outcome, left) ∧
      Counted start turn.usage.key unit.factor (total / unit.factor) turn.usage.currentTotal
        left := by
  obtain ⟨coverage, rfl, answer⟩ := covered
  have positive : 0 < unit.factor := usable_iff.mp (usable_of_billingUnit found)
  have usable : ∀ row ∈ (turn.meet w).storage.rows.get? turn.usage.key, 0 < row.factor :=
    counted.usable
  have follows : Follows turn.usage.currentTotal
      ((turn.meet w).storage.rows.get? turn.usage.key) := by
    intro row present
    have last : row.lastTotal ≤ used := counted.last row present
    linarith [slack_pos]
  have grows : used ≤ turn.usage.currentTotal := by linarith
  obtain ⟨raised, units⟩ := units_after coverage positive usable follows counted.accounted grows
  obtain ⟨outcome, status, left, ran, storage, counters⟩ :=
    exec_process_eq enabled found (answer w) usable follows
  refine ⟨outcome, left, ran, ?_, ?_, ?_, ?_, ?_⟩
  · rw [storage]
    exact (World.parts_after (some coverage) positive usable follows).2.2
  · rw [storage]
    exact last_after positive usable follows fun row present =>
      (counted.last row present).trans grows
  · rw [storage]
    exact raised
  · rw [counters, Counters.get_increment, Counters.get_increment, newlyCovered_grows nonneg next,
      ← add_assoc, ← counted.taken]
    simp [Turn.meet_counters]
  · have consumed : 0 ≤ (calculationOn turn.usage unit (some coverage) (turn.meet w)).consumed :=
      consumed_nonneg ..
    have due : max 0 ((calculationOn turn.usage unit (some coverage) (turn.meet w)).consumed *
        unit.factor) = _ := max_eq_right (mul_nonneg consumed positive.le)
    rw [counters, Counters.overStates_increment, Counters.overStates_increment, due, units]
    rw [mul_add, ← add_assoc, ← counted.billed, mul_comm unit.factor (calculationOn ..).consumed]
    simp [Turn.meet_counters, CounterLabels.ofKey_status]

theorem run {turns : List Turn}
    (counted : Counted start key unit.factor (total / unit.factor) used w)
    (enabled : settings.catalog.isContractEnabled key.productId = true)
    (found : settings.catalog.billingUnit key.productId key.metricId = .ok unit)
    (same : ∀ turn ∈ turns, turn.usage.key = key)
    (covered : ∀ turn ∈ turns, turn.CoveredBy settings total)
    (accrue : Accrue used (turns.map (·.usage))) :
    ∃ outcomes left, (bill settings turns).exec w = some (.ok outcomes, left) ∧
      Counted start key unit.factor (total / unit.factor)
        ((turns.map (·.usage.currentTotal)).getLast?.getD used) left := by
  induction turns generalizing w used with
  | nil => exact ⟨[], w, rfl, counted⟩
  | cons turn later ih =>
    obtain ⟨nonneg, next, onward⟩ := accrue
    obtain rfl := same turn List.mem_cons_self
    obtain ⟨outcome, left, first, counted⟩ := counted.step enabled found
      (covered turn List.mem_cons_self) nonneg next
    obtain ⟨outcomes, last, rest, counted⟩ := ih counted
      (fun other member => same other (List.mem_cons_of_mem _ member))
      (fun other member => covered other (List.mem_cons_of_mem _ member)) onward
    refine ⟨outcome :: outcomes, last, exec_bill_cons first rest, ?_⟩
    rw [List.map_cons, List.getLast?_cons]
    exact counted

end Counted

/-- For a product under contract, observations that accrue to a total from nothing are all processed.
They raise the counter of covered usage by the part of the total that contracts cover, and the
counter of billed usage, over all states, by the whole units past it, in billing units. -/
theorem counters_partition_usage {key : RemittanceKey} {total : ℚ} {turns : List Turn}
    (enabled : settings.catalog.isContractEnabled key.productId = true)
    (found : settings.catalog.billingUnit key.productId key.metricId = .ok unit)
    (absent : w.storage.rows.get? key = none) (nonneg : 0 ≤ total)
    (same : ∀ turn ∈ turns, turn.usage.key = key)
    (covered : ∀ turn ∈ turns, turn.CoveredBy settings total)
    (accrue : Accrue 0 (turns.map (·.usage))) :
    let used := (turns.map (·.usage.currentTotal)).getLast?.getD 0
    ∃ outcomes left, (bill settings turns).exec w = some (.ok outcomes, left) ∧
      left.counters.get .covered (.ofKey key "covered") =
        w.counters.get .covered (.ofKey key "covered") + min used (total / unit.factor) ∧
      left.counters.overStates .billable key = w.counters.overStates .billable key +
        unit.factor * (Quantity.ofMetric (max 0 (used - total / unit.factor))).ceil.value := by
  intro used
  have positive : 0 < unit.factor := usable_iff.mp (usable_of_billingUnit found)
  have start := Counted.of_absent unit.factor (div_nonneg nonneg positive.le) absent
  obtain ⟨outcomes, left, ran, counted⟩ := start.run enabled found same covered accrue
  exact ⟨outcomes, left, ran, counted.taken, counted.billed⟩

def underContract : EngineSettings ℚ where
  catalog := ⟨[⟨"machine", true, true, .hourly,
    [⟨"hours", 1 / 4, false, some "machine_hours", none, none⟩]⟩]⟩
  contractGrace := ⟨0⟩
  retention := none
  stuckPendingAfter := ⟨0⟩

/-- A contract that covers four hours. -/
def fourHoursCovered : Contract ℚ where
  orgId := "org"
  productId := "machine"
  vendorProductCode := none
  provider := none
  accountId := none
  startDate := ⟨0, 0⟩
  endDate := none
  metrics := [⟨"machine_hours", 1⟩]
  gratis := false

/-- The usage since the last total, when the clock has come so far. -/
def hoursTurn (value total : ℚ) (second : Int) : Turn where
  usage := { hoursRun total with value }
  now := ⟨second, 0⟩
  contracts _ := .ok [fourHoursCovered]

theorem hoursTurn_covered (value total : ℚ) (second : Int) :
    (hoursTurn value total second).CoveredBy underContract 1 := by
  refine ⟨⟨some "machine_hours", 0 + 1, false⟩, zero_add 1, fun w => ?_⟩
  rfl

theorem counters_partition_usage_hours :
    let turns := [hoursTurn 3 3 0, hoursTurn 2 5 60, hoursTurn (1 / 2) (11 / 2) 90]
    ∃ outcomes left, (bill underContract turns).exec opening = some (.ok outcomes, left) ∧
      left.counters.get .covered (.ofKey (hoursRun 0).key "covered") = 4 ∧
      left.counters.overStates .billable (hoursRun 0).key = 1 / 4 * 2 := by
  intro turns
  have usable : Amount.isUsableFactor (1 / 4 : ℚ) = true := usable_iff.mpr (by norm_num)
  have found : underContract.catalog.billingUnit "machine" "hours" =
      .ok ⟨some "hours", 1 / 4⟩ := if_pos usable
  have same : ∀ turn ∈ turns, turn.usage.key = (hoursRun 0).key := by
    simp [turns, hoursTurn, hoursRun, Usage.key, Usage.period]
  have covered : ∀ turn ∈ turns, turn.CoveredBy underContract 1 := by
    simp [turns, hoursTurn_covered]
  have accrue : Accrue 0 (turns.map (·.usage)) := by
    norm_num [turns, Accrue, hoursTurn, hoursRun]
  obtain ⟨outcomes, left, ran, taken, billed⟩ :=
    counters_partition_usage (w := opening) rfl found rfl zero_le_one same covered accrue
  have used : (turns.map (·.usage.currentTotal)).getLast?.getD 0 = 11 / 2 := rfl
  have past : roundUp (3 / 2) = 2 := by
    have floor : ⌊(3 / 2 : ℚ) - slack⌋ = 1 := by norm_num [slack, Int.floor_eq_iff]
    rw [roundUp, floor]
    rfl
  have beyond : max 0 (11 / 2 - 1 / (1 / 4)) = (3 / 2 : ℚ) := by norm_num
  refine ⟨outcomes, left, ran, ?_, ?_⟩
  · rw [taken, used]
    norm_num [opening, Counters.get, Counters.empty]
  · rw [billed, used, ceil_eq, Quantity.ofMetric, beyond, past]
    norm_num [opening, Counters.overStates, Counters.empty]

end Engine
end MeteredBilling
