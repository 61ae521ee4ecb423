import Mathlib.Algebra.BigOperators.Group.List.Basic
import MeteredBilling.Contract.Basic
import MeteredBilling.Proofs.Exact

/-!
# Coverage by contracts

What contracts cover at a moment is a sum over the entries of those that are valid then. It does
not depend on how contracts, entries and windows are laid out.
-/

namespace MeteredBilling

open Calendar

namespace Contract

variable {α : Type}

/-- Both ends belong to the window, and an open end never comes. -/
def ValidAt (contract : Contract α) (date : Instant) : Prop :=
  contract.startDate ≤ date ∧ ∀ last ∈ contract.endDate, date ≤ last

instance (contract : Contract α) (date : Instant) : Decidable (contract.ValidAt date) :=
  inferInstanceAs (Decidable (_ ∧ ∀ last ∈ contract.endDate, date ≤ last))

theorem isActiveAt_eq (contract : Contract α) (date : Instant) :
    contract.isActiveAt date = decide (contract.ValidAt date) := by
  rw [Bool.eq_iff_iff]
  simp [isActiveAt, ValidAt, Option.all_eq_true]

def within (contract : Contract α) (start : Instant) (last : Option Instant) : Contract α :=
  { contract with startDate := start, endDate := last }

/-- Of the given moments, each one in the window of the first contract is in exactly one of the
windows of the others, which hold no more. -/
structure Divides (moments : Instant → Prop) (whole first second : Contract α) : Prop where
  covered : ∀ t, moments t → (whole.ValidAt t ↔ first.ValidAt t ∨ second.ValidAt t)
  apart : ∀ t, moments t → ¬ (first.ValidAt t ∧ second.ValidAt t)

/-- A window is divided between two moments that follow each other. -/
theorem divides_between {moments : Instant → Prop} (contract : Contract α) {cut next : Instant}
    (adjacent : ∀ t, moments t → (t ≤ cut ↔ ¬ next ≤ t)) (starts : contract.startDate ≤ next)
    (ends : ∀ last ∈ contract.endDate, cut ≤ last) :
    contract.Divides moments (contract.within contract.startDate (some cut))
      (contract.within next contract.endDate) := by
  have trans {a b c : Instant} (first : a ≤ b) (second : b ≤ c) : a ≤ c := by
    rw [Instant.le_iff] at first second ⊢
    omega
  constructor
  · intro t shown
    constructor
    · rintro ⟨started, still⟩
      by_cases early : t ≤ cut
      · left
        exact ⟨started, by simpa [within] using early⟩
      · right
        have late : next ≤ t := by
          by_contra sooner
          exact early ((adjacent t shown).mpr sooner)
        exact ⟨late, still⟩
    · rintro (⟨started, early⟩ | ⟨late, still⟩)
      · have early : t ≤ cut := early cut rfl
        exact ⟨started, fun last given => trans early (ends last given)⟩
      · exact ⟨trans starts late, still⟩
  · rintro t shown ⟨⟨_, early⟩, late, _⟩
    exact (adjacent t shown).mp (early cut rfl) late

/-- The sum of the entries for a metric. -/
def amountOf (contract : Contract ℚ) (metricId : String) : ℚ :=
  (contract.metrics.map fun entry => if entry.metricId = metricId then entry.value else 0).sum

def amountAt (contract : Contract ℚ) (metricId : String) (date : Instant) : ℚ :=
  if contract.ValidAt date then contract.amountOf metricId else 0

theorem amountOf_perm {c : Contract ℚ} {metrics : List (ContractMetric ℚ)}
    (perm : c.metrics.Perm metrics) (metricId : String) :
    ({ c with metrics } : Contract ℚ).amountOf metricId = c.amountOf metricId :=
  (perm.map _).sum_eq.symm

theorem amountOf_split {c : Contract ℚ} {entry : ContractMetric ℚ}
    {others parts : List (ContractMetric ℚ)} (listed : c.metrics = entry :: others)
    (named : ∀ part ∈ parts, part.metricId = entry.metricId)
    (summed : (parts.map (·.value)).sum = entry.value) (metricId : String) :
    ({ c with metrics := parts ++ others } : Contract ℚ).amountOf metricId =
      c.amountOf metricId := by
  have kept : (parts.map fun part => if part.metricId = metricId then part.value else 0) =
      parts.map fun part => if entry.metricId = metricId then part.value else 0 :=
    List.map_congr_left fun part member => by rw [named part member]
  unfold amountOf
  rw [listed, List.map_append, List.sum_append, kept, List.map_cons, List.sum_cons]
  split
  · rw [summed]
  · simp

theorem Divides.amountAt_add {moments : Instant → Prop} {whole : Contract ℚ}
    {start start' : Instant} {last last' : Option Instant} {date : Instant}
    (divides : whole.Divides moments (whole.within start last) (whole.within start' last'))
    (shown : moments date) (metricId : String) :
    whole.amountAt metricId date = (whole.within start last).amountAt metricId date +
      (whole.within start' last').amountAt metricId date := by
  have covered := divides.covered date shown
  have apart := divides.apart date shown
  have same (start last) :
      (whole.within start last).amountOf metricId = whole.amountOf metricId := rfl
  unfold amountAt
  rw [same, same]
  by_cases first : (whole.within start last).ValidAt date
  · have second : ¬ (whole.within start' last').ValidAt date := fun both => apart ⟨first, both⟩
    rw [if_pos (covered.mpr (.inl first)), if_pos first, if_neg second, add_zero]
  · simp only [covered, first, false_or, if_false, zero_add]

end Contract

namespace Coverage

/-- The amount covered, contract by contract. -/
def amountAt (contracts : List (Contract ℚ)) (metricId : String) (date : Instant) : ℚ :=
  (contracts.map (·.amountAt metricId date)).sum

/-- A contract is valid, and every valid one is free of charge. -/
def FreeAt (contracts : List (Contract ℚ)) (date : Instant) : Prop :=
  (∃ c ∈ contracts, c.ValidAt date) ∧ ∀ c ∈ contracts, c.ValidAt date → c.gratis = true

/-- Other ways to lay the contracts out that are valid at a date. The moments are those that count
where windows divide a window. -/
inductive Relisted (moments : Instant → Prop) (date : Instant) :
    List (Contract ℚ) → List (Contract ℚ) → Prop where
  | contracts {first second : List (Contract ℚ)} (perm : first.Perm second) :
      Relisted moments date first second
  | entries (c : Contract ℚ) {metrics : List (ContractMetric ℚ)} (rest : List (Contract ℚ))
      (perm : c.metrics.Perm metrics) :
      Relisted moments date (c :: rest) ({ c with metrics } :: rest)
  | split (c : Contract ℚ) {entry : ContractMetric ℚ} {others parts : List (ContractMetric ℚ)}
      (rest : List (Contract ℚ)) (listed : c.metrics = entry :: others)
      (named : ∀ part ∈ parts, part.metricId = entry.metricId)
      (summed : (parts.map (·.value)).sum = entry.value) :
      Relisted moments date (c :: rest) ({ c with metrics := parts ++ others } :: rest)
  | idle (c : Contract ℚ) (rest : List (Contract ℚ)) (idle : ¬ c.ValidAt date) :
      Relisted moments date (c :: rest) rest
  | divided (c : Contract ℚ) {start start' : Instant} {last last' : Option Instant}
      (rest : List (Contract ℚ))
      (divides : c.Divides moments (c.within start last) (c.within start' last')) :
      Relisted moments date (c :: rest) (c.within start last :: c.within start' last' :: rest)
  | symm {first second : List (Contract ℚ)} (back : Relisted moments date first second) :
      Relisted moments date second first
  | trans {first second third : List (Contract ℚ)} (before : Relisted moments date first second)
      (after : Relisted moments date second third) : Relisted moments date first third

section Sums

variable {contracts relisted rest : List (Contract ℚ)} {c : Contract ℚ} {metricId : String}
  {date : Instant} {gratisCapable : Bool} {moments : Instant → Prop}

@[simp] theorem amountAt_cons :
    amountAt (c :: rest) metricId date = c.amountAt metricId date + amountAt rest metricId date := by
  simp [amountAt]

theorem freeAt_cons : FreeAt (c :: rest) date ↔
    (c.ValidAt date ∨ ∃ d ∈ rest, d.ValidAt date) ∧ (c.ValidAt date → c.gratis = true) ∧
      ∀ d ∈ rest, d.ValidAt date → d.gratis = true := by
  simp [FreeAt]

theorem entries_sum (contracts : List (Contract ℚ)) (metricId : String) :
    (((contracts.flatMap (·.metrics)).filter (·.metricId == metricId)).map (·.value)).sum =
      (contracts.map (·.amountOf metricId)).sum := by
  induction contracts with
  | nil => rfl
  | cons c rest ih =>
    have entries : ((c.metrics.filter (·.metricId == metricId)).map (·.value)).sum =
        c.amountOf metricId := by
      rw [Contract.amountOf, List.sum_map_ite]
      simp [beq_eq_decide]
    rw [List.flatMap_cons, List.filter_append, List.map_append, List.sum_append, entries, ih,
      List.map_cons, List.sum_cons]

theorem total_eq :
    (ofContracts contracts metricId date gratisCapable).total =
      amountAt contracts metricId date := by
  have active : amountAt contracts metricId date =
      ((contracts.filter (·.isActiveAt date)).map (·.amountOf metricId)).sum := by
    unfold amountAt Contract.amountAt
    rw [List.sum_map_ite]
    simp [Contract.isActiveAt_eq]
  rw [active, ← entries_sum, List.sum_eq_foldl]
  rfl

theorem gratis_iff : (ofContracts contracts metricId date gratisCapable).gratis = true ↔
    gratisCapable = true ∧ FreeAt contracts date := by
  simp [ofContracts, FreeAt, Contract.isActiveAt_eq, and_assoc, imp_iff_not_or]

theorem Relisted.amountAt_eq (same : Relisted moments date contracts relisted)
    (shown : moments date) (metricId : String) :
    amountAt relisted metricId date = amountAt contracts metricId date := by
  induction same with
  | contracts perm => exact (perm.map _).sum_eq.symm
  | entries c rest perm =>
    rw [amountAt_cons, amountAt_cons, Contract.amountAt, Contract.amountOf_perm perm]
    rfl
  | split c rest listed named summed =>
    rw [amountAt_cons, amountAt_cons, Contract.amountAt,
      Contract.amountOf_split listed named summed]
    rfl
  | idle c rest idle => simp [Contract.amountAt, idle]
  | divided c rest divides =>
    rw [amountAt_cons, amountAt_cons, amountAt_cons, divides.amountAt_add shown, add_assoc]
  | symm _ ih => exact ih.symm
  | trans _ _ before after => exact after.trans before

theorem Relisted.freeAt_iff (same : Relisted moments date contracts relisted)
    (shown : moments date) : FreeAt relisted date ↔ FreeAt contracts date := by
  induction same with
  | contracts perm => simp [FreeAt, perm.mem_iff]
  | entries | split => rw [freeAt_cons, freeAt_cons]; rfl
  | idle c rest idle => simp [FreeAt, idle]
  | divided c rest divides =>
    have free (start last) : (c.within start last).gratis = c.gratis := rfl
    rw [freeAt_cons, freeAt_cons, divides.covered date shown, List.forall_mem_cons]
    simp only [List.mem_cons, exists_eq_or_imp, free, or_imp, or_assoc, and_assoc]
  | symm _ ih => exact ih.symm
  | trans _ _ before after => exact after.trans before

end Sums

/-- Coverage is the sum over valid contracts of their entries for the metric, and free of charge
when all of some valid contracts are, however the contracts are laid out. -/
theorem exact_sum (contracts : List (Contract ℚ)) (metricId : String) (date : Instant)
    (gratisCapable : Bool) :
    (ofContracts contracts metricId date gratisCapable).total =
        (contracts.map fun c => if c.ValidAt date then
          (c.metrics.map fun entry => if entry.metricId = metricId then entry.value else 0).sum
          else 0).sum ∧
      ((ofContracts contracts metricId date gratisCapable).gratis = true ↔
        gratisCapable = true ∧ (∃ c ∈ contracts, c.ValidAt date) ∧
          ∀ c ∈ contracts, c.ValidAt date → c.gratis = true) ∧
      ∀ moments relisted, moments date → Relisted moments date contracts relisted →
        ofContracts relisted metricId date gratisCapable =
          ofContracts contracts metricId date gratisCapable := by
  refine ⟨total_eq, gratis_iff, fun moments relisted shown same => ?_⟩
  have total : (ofContracts relisted metricId date gratisCapable).total =
      (ofContracts contracts metricId date gratisCapable).total := by
    rw [total_eq, total_eq, same.amountAt_eq shown]
  have gratis : (ofContracts relisted metricId date gratisCapable).gratis =
      (ofContracts contracts metricId date gratisCapable).gratis := by
    rw [Bool.eq_iff_iff, gratis_iff, gratis_iff, same.freeAt_iff shown]
  change Coverage.mk _ (ofContracts relisted metricId date gratisCapable).total
    (ofContracts relisted metricId date gratisCapable).gratis = _
  rw [total, gratis]
  rfl

def tenSeconds : Contract ℚ :=
  { orgId := "org1", productId := "rosa", vendorProductCode := .none, provider := .none
    accountId := .none, startDate := ⟨0, 0⟩, endDate := some ⟨9, 0⟩
    metrics := [⟨"cores", 4⟩, ⟨"hours", 1⟩, ⟨"cores", 3⟩], gratis := true }

/-- In whole seconds, the window ends with its fifth second and another one starts with the sixth. -/
theorem tenSeconds_divides : tenSeconds.Divides (·.fraction = 0)
    (tenSeconds.within ⟨0, 0⟩ (some ⟨4, 0⟩)) (tenSeconds.within ⟨5, 0⟩ (some ⟨9, 0⟩)) := by
  refine tenSeconds.divides_between (fun t whole => ?_) (by decide) (by decide)
  rw [Instant.le_iff, Instant.le_iff, whole]
  simp only
  omega

theorem exact_sum_divided :
    ofContracts [tenSeconds.within ⟨0, 0⟩ (some ⟨4, 0⟩), tenSeconds.within ⟨5, 0⟩ (some ⟨9, 0⟩)]
        "cores" ⟨5, 0⟩ true = ofContracts [tenSeconds] "cores" ⟨5, 0⟩ true :=
  (exact_sum [tenSeconds] "cores" ⟨5, 0⟩ true).2.2 (·.fraction = 0) _ rfl
    (.divided tenSeconds [] tenSeconds_divides)

end Coverage
end MeteredBilling
