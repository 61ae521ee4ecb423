import MeteredBilling.Catalog.Document
import MeteredBilling.Contract.Client
import MeteredBilling.Proofs.Changes
import MeteredBilling.Proofs.Doubles
import MeteredBilling.Proofs.Summaries

/-!
# Usable factors

A catalog is accepted with usable factors only, and the factor in force is the one that a row is
written with. So no conversion between units fails, and all that the ledger refuses are totals that
fall.
-/

namespace MeteredBilling

open Calendar

variable {α : Type} [Amount α]

/-! ### Accepted catalogs -/

namespace ProductCatalog

variable {catalog : ProductCatalog α} {productId metricId : String}

/-- There is a document that the catalog is read from. -/
def Accepted (catalog : ProductCatalog α) : Prop :=
  ∃ source, ofDocument source = .ok catalog

omit [Amount α] in
/-- The definition that is found is one that counts. -/
theorem mem_effective {product : ProductDefinition α}
    (found : catalog.product? productId = some product) : product ∈ catalog.effective := by
  obtain ⟨products⟩ := catalog
  simp only [product?, effective] at found ⊢
  induction products with
  | nil => cases found
  | cons first rest ih =>
    rw [List.reverse_cons, List.find?_append, Option.or_eq_some_iff] at found
    rcases found with later | ⟨none, here⟩
    · have member := ih later
      rw [effective.go]
      split
      · exact member
      · exact List.mem_cons_of_mem _ member
    · obtain rfl := List.mem_singleton.mp (List.mem_of_find?_eq_some here)
      have own : product.productId = productId := by simpa using List.find?_some here
      have last : (rest.any fun other => other.productId == product.productId) = false := by
        rw [List.find?_eq_none] at none
        rw [List.any_eq_false]
        intro other member
        rw [own]
        exact none other (List.mem_reverse.mpr member)
      rw [effective.go, last]
      exact List.mem_cons_self

omit [Amount α] in
theorem metric_eq_ok {metric : MetricDefinition α}
    (found : catalog.metric productId metricId = .ok metric) :
    ∃ product, catalog.product? productId = some product ∧ metric ∈ product.metrics := by
  unfold ProductCatalog.metric at found
  split at found
  · rename_i listed
    cases found
    obtain ⟨product, defined, listed⟩ := Option.bind_eq_some_iff.mp listed
    exact ⟨product, defined, List.mem_of_find?_eq_some listed⟩
  · cases found

theorem billing_of_checked {products : List (ProductDefinition α)}
    (accepted : checked products = .ok catalog) {product : ProductDefinition α}
    (counts : product ∈ catalog.effective) {metric : MetricDefinition α}
    (listed : metric ∈ product.metrics) :
    ∃ unit, MeasureUnit.billing metric.metricId metric.factor = .ok unit := by
  simp only [checked] at accepted
  split at accepted
  · rename_i faultless
    cases accepted
    rw [List.flatMap_eq_nil_iff] at faultless
    have none := List.filterMap_eq_nil_iff.mp (faultless product counts) metric listed
    split at none
    · rename_i unit billed
      exact ⟨unit, billed⟩
    · cases none
  · cases accepted

/-- A metric of an accepted catalog has a unit. -/
theorem Accepted.billingUnit (accepted : catalog.Accepted) {e : BillingError}
    (failed : catalog.billingUnit productId metricId = .error e) :
    catalog.metric productId metricId = .error e := by
  obtain ⟨source, read⟩ := accepted
  unfold ofDocument at read
  split at read
  · rename_i products
    unfold ProductCatalog.billingUnit at failed
    cases found : catalog.metric productId metricId with
    | error e' =>
      rw [found] at failed
      cases failed
      rfl
    | ok metric =>
      obtain ⟨product, defined, listed⟩ := metric_eq_ok found
      obtain ⟨unit, billed⟩ := billing_of_checked read (mem_effective defined) listed
      simp only [found, bind, Except.bind, billed] at failed
      cases failed
  · cases read

omit [Amount α] in
theorem metric_error {e : BillingError} (failed : catalog.metric productId metricId = .error e) :
    ∃ text, e = .configuration text := by
  unfold ProductCatalog.metric at failed
  split at failed
  · cases failed
  · cases failed
    exact ⟨_, rfl⟩

omit [Amount α] in
theorem contractMetric_error {provider : Provider} {e : BillingError}
    (failed : catalog.contractMetric provider productId metricId = .error e) :
    ∃ text, e = .configuration text := by
  unfold ProductCatalog.contractMetric at failed
  cases found : catalog.metric productId metricId with
  | error e' =>
    rw [found] at failed
    cases failed
    exact metric_error found
  | ok metric =>
    simp only [found, bind, Except.bind] at failed
    split at failed
    · cases failed
    · cases failed
      exact ⟨_, rfl⟩

end ProductCatalog

/-! ### Rows with usable factors -/

namespace World

/-- Every key has one row at the most, and rows have usable factors. -/
structure Usable (w : World (Memory α) α) : Prop where
  single : ∀ key, w.storage.rows.Single key
  factor : ∀ key, ∀ row ∈ w.storage.rows.get? key, Amount.isUsableFactor row.factor = true

variable {w w' : World (Memory α) α}

theorem Usable.after (usable : w.Usable) (operation : Operation α)
    (unit : ∀ usage unit coverage, operation = .observe usage unit coverage →
      Amount.isUsableFactor unit.factor = true) : (w.after operation).Usable where
  single key := single_after operation (usable.single key)
  factor key := (row_change operation (usable.single key)).usable unit (usable.factor key)

theorem Usable.of_storage (usable : w.Usable) (same : w'.storage = w.storage) : w'.Usable where
  single key := same ▸ usable.single key
  factor key row stored := usable.factor key row (same ▸ stored)

end World

/-! ### What processing refuses -/

namespace Engine

variable {settings : EngineSettings α} {usage : Usage α} {e : BillingError}

section Pricing

variable {σ : Type} {w w' : World σ α}

theorem coverageFrom_error {catalog : ProductCatalog α}
    {answer : Except BillingError (List (Contract α))}
    (failed : coverageFrom catalog usage answer = .error e) :
    answer = .error e ∨ e = contractMissing usage ∨ ∃ text, e = .configuration text := by
  unfold coverageFrom at failed
  split at failed
  · cases mapped : catalog.contractMetric usage.provider usage.productId usage.metricId with
    | error e' =>
      rw [mapped] at failed
      cases failed
      exact .inr (.inr (ProductCatalog.contractMetric_error mapped))
    | ok metricId =>
      rw [mapped] at failed
      rcases answer with e' | _ | contracts
      · cases failed
        exact .inl rfl
      · cases failed
        exact .inr (.inl rfl)
      · cases failed
  · cases failed

/-- Without a coverage the resolver has failed. -/
theorem coverageOf_error (failed : (coverageOf settings usage).exec w = some (.error e, w')) :
    coverageFrom settings.catalog usage (w.contracts (.ofUsage usage)) = .error e := by
  obtain ⟨queries, resolved⟩ := exec_resolveCoverage settings.catalog usage w
  generalize coverageFrom settings.catalog usage (w.contracts (.ofUsage usage)) = result
    at resolved ⊢
  unfold coverageOf at failed
  rw [exec_bind, exec_attempt, resolved, Option.map_some, Option.bind_some, proceed_ok] at failed
  cases result with
  | ok coverage => cases failed
  | error e' =>
    cases e' with
    | contractMissing text =>
      cases start : w.now.minus? settings.contractGrace with
      | none => simp [reportContractMissing, start] at failed
      | some moment =>
        have seen := congrArg (Option.map (·.1)) failed
        simpa [reportContractMissing, start] using seen
    | _ =>
      cases failed
      rfl

/-- Pricing fails for want of a unit, of a name for the metric or of a contract, or as the contract
service does. -/
theorem price_error_cases (failed : (price settings usage).exec w = some (.error e, w')) :
    settings.catalog.billingUnit usage.productId usage.metricId = .error e ∨
      w.contracts (.ofUsage usage) = .error e ∨ e = contractMissing usage ∨
      ∃ text, e = .configuration text := by
  unfold price at failed
  cases found : settings.catalog.billingUnit usage.productId usage.metricId with
  | error e' =>
    rw [found] at failed
    cases failed
    exact .inl rfl
  | ok unit =>
    rw [found] at failed
    cases enabled : settings.catalog.isContractEnabled usage.productId with
    | false =>
      rw [enabled] at failed
      cases failed
    | true =>
      rcases coverageOf_cases settings usage w with ⟨coverage, queries, _, given⟩ |
        ⟨e', queries, notices, refused⟩ | ⟨nothing, _⟩
      · obtain ⟨counters, counted⟩ := exec_countCovered usage coverage unit.factor
          { w with queries }
        simp [enabled, given, counted] at failed
      · have seen := congrArg (Option.map (·.1)) failed
        obtain rfl : e' = e := by simpa [enabled, refused] using seen
        exact .inr (coverageFrom_error (coverageOf_error refused))
      · simp [enabled, nothing] at failed

end Pricing

variable {w w' : World (Memory α) α}

/-- Processing fails as pricing does, or because a total falls. -/
theorem process_error_cases (usable : w.Usable)
    (failed : (process settings usage).exec w = some (.error e, w')) :
    (∃ left, (price settings usage).exec w = some (.error e, left)) ∨
      ∃ key previous current, e = .usageRegression key previous current := by
  rw [process_eq, exec_bind] at failed
  rcases price_cases settings usage w with ⟨unit, coverage, queries, counters, _, _, priced⟩ |
    ⟨e', queries, notices, refused⟩ | ⟨nothing, _⟩
  · rw [priced, Option.bind_some, proceed_ok] at failed
    have refused : Calculation.compute _ unit _ _ = .error e := post_calculation failed
    obtain ⟨row, _, _, falls⟩ :=
      (Calculation.compute_error_iff _ unit _ (usable.factor usage.key) e).mp refused
    exact .inr ⟨_, _, _, falls⟩
  · rw [refused] at failed
    cases failed
    exact .inl ⟨_, refused⟩
  · rw [nothing] at failed
    cases failed

/-- Under an accepted catalog a unit is invalid only if the contract service says so. -/
theorem process_invalidUnit (accepted : settings.catalog.Accepted) (usable : w.Usable)
    {text : String}
    (failed : (process settings usage).exec w = some (.error (.invalidUnit text), w')) :
    w.contracts (.ofUsage usage) = .error (.invalidUnit text) := by
  rcases process_error_cases usable failed with ⟨left, unpriced⟩ | ⟨_, _, _, falls⟩
  · rcases price_error_cases unpriced with unit | answer | missing | ⟨_, mapping⟩
    · obtain ⟨_, configuration⟩ := ProductCatalog.metric_error (accepted.billingUnit unit)
      cases configuration
    · exact answer
    · cases missing
    · cases mapping
  · cases falls

end Engine

/-! ### The client of the contract service -/

namespace ContractClient

variable {means : LookupMeans α}

omit [Amount α] in
theorem interpret_final {query : ContractQuery} {reply : Option Web.Reply} {e : BillingError}
    (failed : interpret means.contracts? query reply = .error (.final e)) :
    (∃ text, e = .invalidMessage text) ∨ ∃ text, e = .externalService text := by
  cases reply with
  | none => cases failed
  | some reply =>
    simp only [interpret] at failed
    split at failed
    · cases failed
    · split at failed
      · cases failed
        exact .inl ⟨_, rfl⟩
      · split at failed
        · cases failed
        · cases failed
          exact .inr ⟨_, rfl⟩

omit [Amount α] in
theorem lookUpFrom_error {client : ContractClient} {peer : LookupPeer} {query : ContractQuery}
    {left attempt : Nat} {log : LookupLog} {e : BillingError}
    (failed : (client.lookUpFrom means peer query left attempt log).1 = .error e) :
    (∃ text, e = .invalidMessage text) ∨ ∃ text, e = .externalService text := by
  induction left generalizing attempt log with
  | zero =>
    rw [lookUpFrom] at failed
    cases reply : interpret means.contracts? query
        (client.ask means.connects peer query log.requests).1 with
    | ok contracts =>
      simp only [reply] at failed
      cases failed
    | error failure =>
      simp only [reply] at failed
      cases failure with
      | passing text =>
        cases failed
        exact .inr ⟨_, rfl⟩
      | final cause =>
        cases failed
        exact interpret_final reply
  | succ left ih =>
    rw [lookUpFrom] at failed
    cases reply : interpret means.contracts? query
        (client.ask means.connects peer query log.requests).1 with
    | ok contracts =>
      simp only [reply] at failed
      cases failed
    | error failure =>
      simp only [reply] at failed
      cases failure with
      | passing text => exact ih failed
      | final cause =>
        cases failed
        exact interpret_final reply

end ContractClient

/-! ### Runs -/

/-- A step of the service: an observation is processed under the catalog of the moment, rows are
kept up, or the clock and the contract service move on. -/
inductive ServiceStep (α : Type)
  | process (settings : EngineSettings α) (usage : Usage α)
  | upkeep (u : Upkeep α)
  | turn (moment : Instant) (contracts : ContractService α)

namespace ServiceStep

def perform : ServiceStep α → Engine (Memory α) α PUnit
  | process settings usage => discard (Engine.process settings usage)
  | upkeep u => u.perform
  | turn moment contracts => modify fun w => { w with now := moment, contracts }

/-- The world that a step leaves, whatever it comes to. -/
def leave (w : World (Memory α) α) (step : ServiceStep α) : World (Memory α) α :=
  ((step.perform.exec w).map (·.2)).getD w

variable {w : World (Memory α) α}

/-- No step leaves a factor that is not usable: a unit is found with a usable one, or not at all. -/
theorem usable_leave (step : ServiceStep α) (usable : w.Usable) : (leave w step).Usable := by
  cases step with
  | process settings usage =>
    rw [leave, perform, Engine.exec_discard, Option.map_map]
    cases ran : (Engine.process settings usage).exec w with
    | none => exact usable
    | some p =>
      obtain ⟨result, left⟩ := p
      obtain ⟨_, _, ⟨⟨unit, coverage⟩, _, priced, storage⟩ | ⟨_, storage⟩⟩ :=
        Engine.process_cases ran
      · refine World.Usable.of_storage (usable.after (.observe usage unit coverage) ?_) storage
        intro _ _ _ same
        cases same
        exact Engine.usable_of_billingUnit (Engine.price_ok priced).1
      · exact usable.of_storage storage
  | upkeep u =>
    exact usable.after (.upkeep u) fun _ _ _ same => by cases same
  | turn moment contracts => exact usable.of_storage rfl

end ServiceStep

namespace World

def serve (w : World (Memory α) α) (steps : List (ServiceStep α)) : World (Memory α) α :=
  steps.foldl ServiceStep.leave w

theorem Usable.serve {w : World (Memory α) α} (usable : w.Usable) (steps : List (ServiceStep α)) :
    (w.serve steps).Usable := by
  induction steps generalizing w with
  | nil => exact usable
  | cons step rest ih => exact ih (step.usable_leave usable)

theorem usable_serve (start : World (Memory α) α) (steps : List (ServiceStep α)) :
    (start.withoutRows.serve steps).Usable := by
  have nothing : start.withoutRows.Usable :=
    ⟨fun key => RowTable.single_of_absent rfl, fun key row stored => nomatch stored⟩
  exact nothing.serve steps

end World

theorem Double.positive_of_usable {x : Float} (usable : Amount.isUsableFactor x = true) :
    x.isFinite = true ∧ 0 < x := by
  have bounded := usable
  rw [Amount.isUsableFactor, Bool.and_eq_true] at bounded
  exact ⟨bounded.1, of_decide_eq_true (reaches_of_usable usable).positive⟩

/-- After any steps of the service from a storage without rows, whatever doubles, catalogs and
contracts there were: all rows have finite and positive factors. Processing under an accepted
catalog calls a unit invalid only if the contract service does, whose client never does. And all
that the calculation for a row refuses are totals that fall, by more than the slack. -/
theorem units_valid (start : World (Memory Float) Float) (steps : List (ServiceStep Float)) :
    let w := start.withoutRows.serve steps
    (∀ row ∈ w.storage.rows.rows, row.factor.isFinite = true ∧ 0 < row.factor) ∧
    (∀ settings : EngineSettings Float, settings.catalog.Accepted → ∀ usage text left,
      (Engine.process settings usage).exec w = some (.error (.invalidUnit text), left) →
        w.contracts (.ofUsage usage) = .error (.invalidUnit text)) ∧
    (∀ (client : ContractClient) (means : LookupMeans Float) peer query text,
      (client.lookUp peer query means).1 ≠ .error (.invalidUnit text)) ∧
    ∀ key total unit coverage e,
      Calculation.compute total unit (w.storage.rows.get? key) coverage = .error e ↔
        ∃ row ∈ w.storage.rows.get? key, total + 1e-9 < row.lastTotal ∧
          e = .usageRegression row.key.text (Amount.text row.lastTotal) (Amount.text total) := by
  intro w
  have usable : w.Usable := World.usable_serve start steps
  refine ⟨fun row member => ?_, fun settings accepted usage text left failed => ?_,
    fun client means peer query text failed => ?_, fun key total unit coverage e => ?_⟩
  · obtain ⟨key, stored⟩ := RowTable.mem_rows usable.single member
    exact Double.positive_of_usable (usable.factor key row stored)
  · exact Engine.process_invalidUnit accepted usable failed
  · rcases ContractClient.lookUpFrom_error failed with ⟨_, same⟩ | ⟨_, same⟩ <;> cases same
  · have below (row : Remittance Float) : Amount.lt (total + Amount.slack) row.lastTotal = true ↔
        total + 1e-9 < row.lastTotal := decide_eq_true_iff
    have refused := Calculation.compute_error_iff total unit coverage (usable.factor key) e
    simpa only [below] using refused

/-- A catalog in which hours are billed in halves. -/
def halfHourDocument : String :=
  "products:\n- product_id: machine\n  metrics:\n  - metric_id: hours\n    billing_factor: 2\n"

def billedInHalves : EngineSettings Float where
  catalog := (ProductCatalog.ofDocument halfHourDocument).toOption.getD ⟨[]⟩
  contractGrace := ⟨0⟩
  retention := none
  stuckPendingAfter := ⟨0⟩

def noDoubles : World (Memory Float) Float where
  now := ⟨0, 0⟩
  mint n := ⟨BitVec.ofNat 128 n⟩
  minted := 0
  contracts _ := .ok []
  queries := []
  counters := .empty
  notices := []
  storage := .empty {}

/-- Four hours are processed, and from then on there are no contracts. -/
def fourHoursServed : List (ServiceStep Float) :=
  [.process billedInHalves ⟨"org", ⟨7⟩, "machine", "hours", "premium", "production", .aws,
      "account", none, 4, 4, ⟨0, 0⟩⟩,
    .turn ⟨0, 0⟩ fun _ => .ok []]

theorem units_valid_hours :
    let w := noDoubles.withoutRows.serve fourHoursServed
    billedInHalves.catalog.Accepted ∧ w.storage.rows.rows.map (·.factor) = [2] ∧
      (∀ row ∈ w.storage.rows.rows, row.factor.isFinite = true ∧ 0 < row.factor) ∧
      ∀ usage text left, (Engine.process billedInHalves usage).exec w ≠
        some (.error (.invalidUnit text), left) := by
  have accepted : billedInHalves.catalog.Accepted := by
    have read : (ProductCatalog.ofDocument (α := Float) halfHourDocument).isOk = true := by
      decide +kernel
    refine ⟨halfHourDocument, ?_⟩
    cases found : ProductCatalog.ofDocument (α := Float) halfHourDocument with
    | error e =>
      rw [found] at read
      cases read
    | ok catalog => rw [billedInHalves, found, Except.toOption, Option.getD_some]
  intro w
  obtain ⟨positive, valid, _⟩ := units_valid noDoubles fourHoursServed
  refine ⟨accepted, by decide +kernel, positive, fun usage text left failed => ?_⟩
  cases valid billedInHalves accepted usage text left failed

end MeteredBilling
