import Mathlib.Data.List.Induction
import Mathlib.Data.List.Nodup
import MeteredBilling.Usage.Tally

/-!
# Grouping of measurements

A snapshot is billed by its metrics: the measurements of one metric, but for the one that sums up
all others, make one observation, and the observations stand in the order in which their metrics
first occur. No measurement is lost or counted twice, and no two snapshots are brought together.
-/

namespace MeteredBilling

/-- The sum of amounts from the left, which starts from the first of them. -/
def leftSum {α : Type} [Amount α] : List α → α
  | [] => 0
  | x :: rest => rest.foldl (· + ·) x

theorem leftSum_append_singleton {α : Type} [Amount α] {amounts : List α} (x : α)
    (some : amounts ≠ []) : leftSum (amounts ++ [x]) = leftSum amounts + x := by
  cases amounts with
  | nil => exact absurd rfl some
  | cons first rest => simp [leftSum]

theorem eraseDups_append_singleton (names : List String) (name : String) :
    (names ++ [name]).eraseDups =
      if name ∈ names then names.eraseDups else names.eraseDups ++ [name] := by
  rw [List.eraseDups_append]
  by_cases known : name ∈ names
  · simp [List.removeAll, known]
  · simp [List.removeAll, known, List.eraseDups_cons]

theorem nodup_eraseDups (names : List String) : names.eraseDups.Nodup := by
  induction names using List.reverseRecOn with
  | nil => simp
  | append_singleton before name ih =>
    rw [eraseDups_append_singleton]
    split
    · exact ih
    case isFalse new =>
      rw [← List.concat_eq_append]
      exact ih.concat fun member => new (List.mem_eraseDups.mp member)

namespace TallySnapshot

variable {α : Type}

/-- The snapshot stands for usage to be billed: pay-as-you-go usage of an account, for one value of
each dimension, at the granularity of the product and with something measured. -/
structure Billed (catalog : ProductCatalog α) (s : TallySnapshot α) : Prop where
  product : ∃ product, catalog.product? s.productId = some product ∧ product.paygEligible = true ∧
    product.granularity = s.granularity
  sla : s.sla ≠ anyDimension
  purpose : s.purpose ≠ anyDimension
  provider : s.provider ≠ .any
  account : ∃ account, s.accountId = some account ∧ account ≠ "" ∧ account ≠ anyDimension
  measured : ∃ measurements, s.measurements = some measurements ∧ measurements ≠ []

theorem isBillable_iff (catalog : ProductCatalog α) (s : TallySnapshot α) :
    s.isBillable catalog = true ↔ s.Billed catalog := by
  have account :
      (s.accountId.getD anyDimension ≠ "" ∧ s.accountId.getD anyDimension ≠ anyDimension) ↔
        ∃ account, s.accountId = some account ∧ account ≠ "" ∧ account ≠ anyDimension := by
    cases s.accountId <;> simp
  have measured : s.measurements.any (!·.isEmpty) = true ↔
      ∃ measurements, s.measurements = some measurements ∧ measurements ≠ [] := by
    cases s.measurements <;> simp
  have product : catalog.isPaygEligible s.productId = true ∧
      catalog.granularity? s.productId = some s.granularity ↔
        ∃ product, catalog.product? s.productId = some product ∧ product.paygEligible = true ∧
          product.granularity = s.granularity := by
    unfold ProductCatalog.isPaygEligible ProductCatalog.granularity?
    cases catalog.product? s.productId <;> simp
  simp only [isBillable, Bool.and_eq_true, bne_iff_ne, beq_iff_eq, measured]
  constructor
  · rintro ⟨⟨⟨⟨⟨⟨⟨payg, sla⟩, purpose⟩, provider⟩, filled⟩, single⟩, granularity⟩, measurements⟩
    exact ⟨product.mp ⟨payg, granularity⟩, sla, purpose, provider, account.mp ⟨filled, single⟩,
      measurements⟩
  · rintro ⟨sold, sla, purpose, provider, owner, measurements⟩
    obtain ⟨payg, granularity⟩ := product.mpr sold
    obtain ⟨filled, single⟩ := account.mpr owner
    exact ⟨⟨⟨⟨⟨⟨⟨payg, sla⟩, purpose⟩, provider⟩, filled⟩, single⟩, granularity⟩, measurements⟩

instance (catalog : ProductCatalog α) (s : TallySnapshot α) : Decidable (s.Billed catalog) :=
  decidable_of_iff _ (isBillable_iff catalog s)

/-- The measurements of the parts, without the one that sums them up. -/
def parts (s : TallySnapshot α) : List (TallyMeasurement α) :=
  (s.measurements.getD []).filter (·.hardwareType ≠ totalMeasurement)

/-- The measurements of one metric. -/
def ofMetric (metricId : String) (measurements : List (TallyMeasurement α)) :
    List (TallyMeasurement α) :=
  measurements.filter (·.metricId = metricId)

/-- The metrics of measurements, in the order in which they first occur. -/
def metrics (measurements : List (TallyMeasurement α)) : List String :=
  (measurements.map (·.metricId)).eraseDups

theorem ofMetric_append (name : String) (measurements : List (TallyMeasurement α))
    (m : TallyMeasurement α) : ofMetric name (measurements ++ [m]) =
      if name = m.metricId then ofMetric name measurements ++ [m]
      else ofMetric name measurements := by
  by_cases own : name = m.metricId
  · simp [ofMetric, own]
  · simp [ofMetric, own, Ne.symm own]

theorem metrics_append (measurements : List (TallyMeasurement α)) (m : TallyMeasurement α) :
    metrics (measurements ++ [m]) = if m.metricId ∈ metrics measurements then metrics measurements
      else metrics measurements ++ [m.metricId] := by
  simp only [metrics, List.map_append, List.map_cons, List.map_nil, eraseDups_append_singleton,
    List.mem_eraseDups]

theorem nodup_metrics (measurements : List (TallyMeasurement α)) : (metrics measurements).Nodup :=
  nodup_eraseDups _

theorem ofMetric_ne_nil {name : String} {measurements : List (TallyMeasurement α)} :
    ofMetric name measurements ≠ [] ↔ name ∈ metrics measurements := by
  simp [ofMetric, metrics]

/-- Different metrics share no measurement, and together they take those that bear their names. -/
theorem flatMap_ofMetric (measurements : List (TallyMeasurement α)) {names : List String}
    (distinct : names.Nodup) : (names.flatMap (ofMetric · measurements)).Perm
      (measurements.filter fun m => m.metricId ∈ names) := by
  induction names with
  | nil => simp
  | cons name rest ih =>
    obtain ⟨fresh, distinct⟩ := List.nodup_cons.mp distinct
    have own : (measurements.filter fun m => m.metricId ∈ name :: rest).filter
        (fun m => m.metricId = name) = ofMetric name measurements := by
      rw [List.filter_filter, ofMetric]
      refine List.filter_congr fun m _ => ?_
      by_cases same : m.metricId = name <;> simp [same]
    have others : (measurements.filter fun m => m.metricId ∈ name :: rest).filter
        (fun m => !decide (m.metricId = name)) =
          measurements.filter fun m => m.metricId ∈ rest := by
      rw [List.filter_filter]
      refine List.filter_congr fun m _ => ?_
      by_cases same : m.metricId = name <;> simp [same, fresh]
    have split := List.filter_append_perm (fun m : TallyMeasurement α => m.metricId = name)
      (measurements.filter fun m => m.metricId ∈ name :: rest)
    rw [own, others] at split
    exact ((ih distinct).append_left _).trans split

theorem ofMetrics_perm (measurements : List (TallyMeasurement α)) :
    ((metrics measurements).flatMap (ofMetric · measurements)).Perm measurements := by
  have all : (measurements.filter fun m => m.metricId ∈ metrics measurements) = measurements := by
    refine List.filter_eq_self.mpr fun m member => ?_
    simpa [metrics] using ⟨m, member, rfl⟩
  exact (flatMap_ofMetric measurements (nodup_metrics _)).trans (.of_eq all)

variable [Amount α]

/-- The observation that measurements of one metric make together. -/
def summed (orgId : String) (s : TallySnapshot α) (measurements : List (TallyMeasurement α))
    (metricId : String) : Usage α where
  orgId
  tallyId := s.id
  productId := s.productId
  metricId
  sla := s.sla
  purpose := s.purpose
  provider := s.provider
  accountId := s.accountId.getD ""
  vendorProductCode := s.vendorProductCode
  value := leftSum ((ofMetric metricId measurements).map (·.value))
  currentTotal := leftSum ((ofMetric metricId measurements).map (·.currentTotal))
  snapshotDate := s.snapshotDate

/-- One observation for each metric of the parts. -/
def grouped (orgId : String) (s : TallySnapshot α) : List (Usage α) :=
  (metrics s.parts).map (summed orgId s s.parts)

/-! ### Accumulation -/

/-- The observation with one more measurement. -/
def joined (u : Usage α) (m : TallyMeasurement α) : Usage α :=
  { u with value := u.value + m.value, currentTotal := u.currentTotal + m.currentTotal }

variable {start : TallyMeasurement α → Usage α} {m : TallyMeasurement α}

theorem accumulate_cons (u : Usage α) (rest : List (Usage α)) :
    accumulate start m (u :: rest) =
      if u.metricId = m.metricId then joined u m :: rest else u :: accumulate start m rest := rfl

theorem accumulate_new {usages : List (Usage α)} (new : ∀ u ∈ usages, u.metricId ≠ m.metricId) :
    accumulate start m usages = usages ++ [start m] := by
  induction usages with
  | nil => rfl
  | cons u rest ih =>
    obtain ⟨other, others⟩ := List.forall_mem_cons.mp new
    rw [accumulate_cons, if_neg other, ih others, List.cons_append]

/-- The measurement goes to the observation of its metric and leaves the others alone. -/
theorem accumulate_known {observe : String → Usage α} {names : List String}
    (named : ∀ name, (observe name).metricId = name) (distinct : names.Nodup)
    (known : m.metricId ∈ names) : accumulate start m (names.map observe) =
      names.map fun name => if name = m.metricId then joined (observe name) m else observe name := by
  induction names with
  | nil => cases known
  | cons name rest ih =>
    obtain ⟨fresh, distinct⟩ := List.nodup_cons.mp distinct
    rw [List.map_cons, List.map_cons, accumulate_cons, named]
    by_cases own : name = m.metricId
    · have others : ∀ other ∈ rest, other ≠ m.metricId :=
        fun other member same => fresh (own.trans same.symm ▸ member)
      rw [if_pos own, if_pos own]
      congr 1
      exact List.map_congr_left fun other member => (if_neg (others other member)).symm
    · have later : m.metricId ∈ rest := (List.mem_cons.mp known).resolve_left (Ne.symm own)
      rw [if_neg own, if_neg own, ih distinct later]

theorem summed_joined (orgId : String) (s : TallySnapshot α)
    {measurements : List (TallyMeasurement α)} {name : String}
    (known : name ∈ metrics measurements) : summed orgId s (measurements ++ [m]) name =
      if name = m.metricId then joined (summed orgId s measurements name) m
      else summed orgId s measurements name := by
  have measured := ofMetric_ne_nil.mpr known
  by_cases own : name = m.metricId
  · simp only [summed, ofMetric_append, own, if_true, List.map_append, List.map_cons, List.map_nil]
    subst own
    rw [leftSum_append_singleton _ (by simpa using measured),
      leftSum_append_singleton _ (by simpa using measured)]
    rfl
  · simp only [summed, ofMetric_append, own, if_false]

theorem summed_first (orgId : String) (s : TallySnapshot α)
    {measurements : List (TallyMeasurement α)} (new : m.metricId ∉ metrics measurements) :
    summed orgId s (measurements ++ [m]) m.metricId = s.usage orgId m := by
  have nothing : ofMetric m.metricId measurements = [] :=
    not_not.mp (mt ofMetric_ne_nil.mp new)
  simp [summed, ofMetric_append, nothing, leftSum, TallySnapshot.usage]

/-- Measurements taken one by one come to the observations of their metrics. -/
theorem foldl_accumulate (orgId : String) (s : TallySnapshot α)
    (measurements : List (TallyMeasurement α)) :
    measurements.foldl (fun usages m => accumulate (s.usage orgId) m usages) [] =
      (metrics measurements).map (summed orgId s measurements) := by
  -- From the end: what the measurements before the last one make is known as a map by metric.
  induction measurements using List.reverseRecOn with
  | nil => rfl
  | append_singleton before m ih =>
    rw [List.foldl_append, ih, List.foldl_cons, List.foldl_nil, metrics_append]
    by_cases known : m.metricId ∈ metrics before
    · rw [if_pos known, accumulate_known (fun _ => rfl) (nodup_metrics before) known]
      exact List.map_congr_left fun name member => (summed_joined orgId s member).symm
    · have new : ∀ u ∈ (metrics before).map (summed orgId s before), u.metricId ≠ m.metricId := by
        intro u member same
        obtain ⟨name, listed, rfl⟩ := List.mem_map.mp member
        exact known (same ▸ listed)
      rw [if_neg known, accumulate_new new, List.map_append, List.map_cons, List.map_nil,
        summed_first orgId s known]
      congr 1
      refine List.map_congr_left fun name member => ?_
      have other : name ≠ m.metricId := fun same => known (same ▸ member)
      rw [summed_joined orgId s member, if_neg other]

theorem usages_eq_grouped (orgId : String) (s : TallySnapshot α) :
    s.usages orgId = s.grouped orgId := by
  have parts : (s.measurements.getD []).filter (·.hardwareType != totalMeasurement) = s.parts :=
    List.filter_congr fun m _ => by rw [decide_not, bne, beq_eq_decide]
  rw [usages, parts, foldl_accumulate, grouped]

/-- The observations of a snapshot differ in the metric, hence in the key. -/
theorem keys_grouped (orgId : String) (s : TallySnapshot α) :
    ((s.grouped orgId).map (·.key)).Nodup := by
  have metric : ((s.grouped orgId).map (·.key)).map (·.metricId) = metrics s.parts := by
    simp [grouped, Function.comp_def, Usage.key, summed]
  exact .of_map _ (metric ▸ nodup_metrics s.parts)

end TallySnapshot

/-- A summary is billed by what its snapshots measure. Each snapshot that is billed, in their order,
yields the observations of its metrics and no others. In every snapshot these have different keys,
and the measurements that they sum are the measurements of the parts, each of them once. -/
theorem summary_grouped {α : Type} [Amount α] (catalog : ProductCatalog α)
    (summary : TallySummary α) :
    summary.usages catalog =
      (summary.snapshots.filter (·.Billed catalog)).flatMap (·.grouped summary.orgId) ∧
    ∀ s : TallySnapshot α, ((s.grouped summary.orgId).map (·.key)).Nodup ∧
      ((TallySnapshot.metrics s.parts).flatMap (TallySnapshot.ofMetric · s.parts)).Perm s.parts := by
  refine ⟨?_, fun s => ⟨s.keys_grouped summary.orgId, TallySnapshot.ofMetrics_perm s.parts⟩⟩
  have billed : summary.snapshots.filter (·.isBillable catalog) =
      summary.snapshots.filter (·.Billed catalog) := by
    refine List.filter_congr fun s _ => ?_
    rw [Bool.eq_iff_iff, TallySnapshot.isBillable_iff, decide_eq_true_iff]
  have observed : (fun s : TallySnapshot α => s.usages summary.orgId) =
      fun s => s.grouped summary.orgId := funext fun s => s.usages_eq_grouped summary.orgId
  rw [TallySummary.usages, billed, observed]

end MeteredBilling
