import MeteredBilling.Proofs.Accrual
import MeteredBilling.Proofs.Summaries

/-!
# Redelivered summaries

An observation that went through the ledger is spent on the row of its key: the ledger refuses it
there, or finds nothing more to account for. The observations behind it only raise what the row has
seen and accounted for, so it stays spent, and a summary that is processed again changes nothing.
-/

namespace MeteredBilling

open Exact Engine

/-- The ledger refuses the observation on the row, or has nothing to write for it. -/
def Spent {α : Type} [Amount α] (usage : Usage α) (unit : MeasureUnit α)
    (coverage : Option (Coverage α)) (row : Option (Remittance α)) : Prop :=
  ∀ calculation, Calculation.compute usage.currentTotal unit row coverage = .ok calculation →
    calculation.advances = false

theorem Spent.idle {α : Type} [Amount α] {usage : Usage α} {unit : MeasureUnit α}
    {coverage : Option (Coverage α)} {w : World (Memory α) α}
    (spent : Spent usage unit coverage (w.storage.rows.get? usage.key)) :
    (w.after (.observe usage unit coverage)).storage = w.storage := by
  rw [World.after_observe, decisionOn_eq]
  cases computed : Calculation.compute usage.currentTotal unit (w.storage.rows.get? usage.key)
    coverage with
  | error e => rfl
  | ok calculation =>
    rw [map_ok, spent calculation computed]
    rfl

namespace Spent

variable {usage other : Usage ℚ} {unit unit' : MeasureUnit ℚ}
  {coverage coverage' : Option (Coverage ℚ)} {row later : Option (Remittance ℚ)}
  {w : World (Memory ℚ) ℚ}

theorem of_unusable {stored : Remittance ℚ} (unusable : ¬0 < stored.factor) :
    Spent usage unit coverage (some stored) := by
  intro calculation computed
  rw [Calculation.compute_eq, Calculation.accounted] at computed
  split at computed
  · cases computed
  · rw [if_neg (mt usable_iff.mp unusable)] at computed
    cases computed

theorem of_not_follows (falls : ¬Follows usage.currentTotal row) :
    Spent usage unit coverage row := by
  intro calculation computed
  obtain ⟨stored, _, refused⟩ := compute_of_not_follows unit coverage falls
  rw [refused] at computed
  cases computed

/-- Of an observation that is accepted nothing more is due exactly when the row has accounted for
it, but for the slack. -/
theorem iff_accounted (positive : 0 < unit.factor) (usable : ∀ stored ∈ row, 0 < stored.factor)
    (follows : Follows usage.currentTotal row) : Spent usage unit coverage row ↔
      max 0 (usage.currentTotal - coveredPart unit.factor coverage) < accountedFor row + slack := by
  have due : Spent usage unit coverage row ↔
      ¬0 < (exactly usage.currentTotal unit row coverage).consumed := by
    simp only [Spent, compute_of_follows coverage positive usable follows, Except.ok.injEq,
      forall_eq', Calculation.advances, ← Bool.not_eq_true, lt_iff]
  have rounded : (exactly usage.currentTotal unit row coverage).consumed ≤ 0 ↔
      max (max (usage.currentTotal - coveredPart unit.factor coverage) 0 - accountedFor row) 0 <
        slack := by
    have bound := roundUp_le_iff (n := 0) (x := max (max (usage.currentTotal -
      coveredPart unit.factor coverage) 0 - accountedFor row) 0)
    rw [Int.cast_zero, zero_add] at bound
    rw [← bound]
    exact Int.cast_nonpos
  rw [due, not_lt, rounded, max_lt_iff, and_iff_left slack_pos, sub_lt_iff_lt_add', max_comm]

/-- The row is left as it is, or has seen and accounted for as much at least. -/
theorem row_observed (positive : 0 < unit.factor) (w : World (Memory ℚ) ℚ) :
    let row := w.storage.rows.get? usage.key
    let later := (w.after (.observe usage unit coverage)).storage.rows.get? usage.key
    later = row ∨ (∀ stored ∈ row, 0 < stored.factor) ∧ (∀ stored ∈ later, 0 < stored.factor) ∧
      accountedFor row ≤ accountedFor later ∧ ∀ total, Follows total later → Follows total row := by
  intro row later
  by_cases usable : ∀ stored ∈ row, 0 < stored.factor
  · by_cases follows : Follows usage.currentTotal row
    · rcases idle_or_advances usage unit coverage w with idle | advances
      · exact .inl (congrArg (·.rows.get? usage.key)
          (World.after_idle positive usable follows idle))
      · have written := World.row_after_written positive usable follows advances
        have accounted := World.accountedFor_advanced coverage positive usable follows
        refine .inr ⟨usable, (World.parts_after coverage positive usable follows).2.2, ?_, ?_⟩
        · rw [accounted]
          exact le_add_of_nonneg_right advances.le
        · intro total above stored present
          have last : (rowOn usage unit coverage w).lastTotal = _ := lastTotal_rowOn present
          exact (le_max_left ..).trans (last ▸ above _ written)
    · exact .inl (congrArg (·.storage.rows.get? usage.key) (World.after_refused follows))
  · push Not at usable
    obtain ⟨stored, present, unusable⟩ := usable
    have spent : Spent usage unit coverage row := by
      rw [present]
      exact of_unusable (not_lt.mpr unusable)
    exact .inl (congrArg (·.rows.get? usage.key) spent.idle)

theorem raised (spent : Spent usage unit coverage row) (positive : 0 < unit.factor)
    (usable : ∀ stored ∈ row, 0 < stored.factor) (usable' : ∀ stored ∈ later, 0 < stored.factor)
    (more : accountedFor row ≤ accountedFor later)
    (latest : ∀ total, Follows total later → Follows total row) :
    Spent usage unit coverage later := by
  by_cases follows : Follows usage.currentTotal later
  · have before := (iff_accounted positive usable (latest _ follows)).mp spent
    exact (iff_accounted positive usable' follows).mpr (before.trans_le (add_le_add_left more _))
  · exact of_not_follows follows

/-- Observations keep one another spent. -/
theorem observed (spent : Spent usage unit coverage (w.storage.rows.get? usage.key))
    (positive : 0 < unit.factor) (positive' : 0 < unit'.factor) : Spent usage unit coverage
      ((w.after (.observe other unit' coverage')).storage.rows.get? usage.key) := by
  by_cases same : usage.key = other.key
  · rw [same] at spent ⊢
    rcases row_observed positive' w with still | ⟨usable, usable', more, latest⟩
    · rwa [still]
    · exact spent.raised positive usable usable' more latest
  · rwa [World.row_after_other unit' coverage' same]

/-- An observation is spent once it went through the ledger. -/
theorem once (positive : 0 < unit.factor) (w : World (Memory ℚ) ℚ) : Spent usage unit coverage
    ((w.after (.observe usage unit coverage)).storage.rows.get? usage.key) := by
  by_cases spent : Spent usage unit coverage (w.storage.rows.get? usage.key)
  · exact spent.observed positive positive
  · have usable : ∀ stored ∈ w.storage.rows.get? usage.key, 0 < stored.factor := by
      intro stored present
      by_contra unusable
      rw [present] at spent
      exact spent (of_unusable unusable)
    have follows : Follows usage.currentTotal (w.storage.rows.get? usage.key) :=
      by_contra fun falls => spent (of_not_follows falls)
    have accounted := World.lt_accountedFor_after coverage positive usable follows
    by_cases latest : Follows usage.currentTotal
      ((w.after (.observe usage unit coverage)).storage.rows.get? usage.key)
    · refine (iff_accounted positive ?_ latest).mpr (sub_lt_iff_lt_add.mp accounted)
      exact (World.parts_after coverage positive usable follows).2.2
    · exact of_not_follows latest

end Spent

/-! ### Processing again -/

namespace Engine

variable {settings : EngineSettings ℚ} {usage other : Usage ℚ} {w w' : World (Memory ℚ) ℚ}
  {result : Except BillingError (Outcome ℚ)}

/-- The observation is spent on the row of its key under the price that it has, if any. -/
def Absorbs (settings : EngineSettings ℚ) (usage : Usage ℚ) (w : World (Memory ℚ) ℚ) : Prop :=
  ∀ priced left, (price settings usage).exec w = some (.ok priced, left) →
    Spent usage priced.1 priced.2 (w.storage.rows.get? usage.key)

namespace Absorbs

theorem positive {priced : MeasureUnit ℚ × Option (Coverage ℚ)} {left : World (Memory ℚ) ℚ}
    (ran : (price settings usage).exec w = some (.ok priced, left)) : 0 < priced.1.factor :=
  positive_of_billingUnit (price_ok ran).1

theorem of_same (absorbs : Absorbs settings usage w)
    (rows : w'.storage.rows = w.storage.rows) (contracts : w'.contracts = w.contracts) :
    Absorbs settings usage w' := by
  intro priced left ran
  obtain ⟨before, ran⟩ := price_agrees contracts.symm ran
  rw [rows]
  exact absorbs priced before ran

theorem idle (absorbs : Absorbs settings usage w)
    (ran : (process settings usage).exec w = some (result, w')) : w'.storage = w.storage := by
  obtain ⟨_, _, ⟨priced, left, found, storage⟩ | ⟨_, storage⟩⟩ := process_cases ran
  · exact storage.trans (absorbs priced left found).idle
  · exact storage

theorem processed (absorbs : Absorbs settings usage w)
    (ran : (process settings other).exec w = some (result, w')) : Absorbs settings usage w' := by
  obtain ⟨_, contracts, ⟨priced, left, found, storage⟩ | ⟨_, storage⟩⟩ := process_cases ran
  · intro own left' price
    obtain ⟨before, price⟩ := price_agrees contracts.symm price
    rw [storage]
    exact (absorbs own before price).observed (positive price) (positive found)
  · exact absorbs.of_same (congrArg Memory.rows storage) contracts

theorem once (ran : (process settings usage).exec w = some (result, w')) :
    Absorbs settings usage w' := by
  obtain ⟨_, contracts, found⟩ := process_cases ran
  intro own left price
  obtain ⟨before, price⟩ := price_agrees contracts.symm price
  rcases found with ⟨priced, left', found, storage⟩ | ⟨⟨e, left', failed⟩, _⟩
  · rw [price] at found
    cases found
    rw [storage]
    exact Spent.once (positive price) w
  · rw [price] at failed
    cases failed

theorem pass {usages : List (Usage ℚ)}
    {results : Except BillingError (List (Except BillingError (Outcome ℚ)))}
    (absorbs : ∀ usage ∈ usages, Absorbs settings usage w)
    (ran : (pass settings usages).exec w = some (results, w')) : w'.storage = w.storage := by
  induction usages generalizing w results with
  | nil =>
    cases ran
    rfl
  | cons usage later ih =>
    obtain ⟨result, left, rest, first, others, _⟩ := pass_cases ran
    have storage := (absorbs usage List.mem_cons_self).idle first
    have contracts := (process_cases first).2.1
    refine (ih (fun other member => ?_) others).trans storage
    have still := absorbs other (List.mem_cons_of_mem _ member)
    exact still.of_same (congrArg Memory.rows storage) contracts

end Absorbs

/-- From any rows and messages, and whatever the observations of a summary come to: with the same
contracts the summary changes no row and enqueues no message when it is processed again. Nothing
results only if the grace for missing contracts leaves the calendar. -/
theorem redelivery_changes_nothing (settings : EngineSettings ℚ) (summary : TallySummary ℚ)
    (w : World (Memory ℚ) ℚ) :
    match (processSummary settings summary).exec w with
    | none => w.now.minus? settings.contractGrace = none
    | some (_, left) => ∀ later,
      match (processSummary settings summary).exec
        { left with now := later, contracts := w.contracts } with
      | none => later.minus? settings.contractGrace = none
      | some (_, again) => again.storage = left.storage := by
  rw [exec_processSummary]
  cases first : (pass settings (summary.usages settings.catalog)).exec w with
  | none => exact pass_eq_none first
  | some p =>
    obtain ⟨results, left⟩ := p
    simp only [Option.map_some]
    intro later
    have absorbs : ∀ usage ∈ summary.usages settings.catalog, Absorbs settings usage left :=
      pass_brings (fun usage w result w' ran => Absorbs.once ran)
        (fun usage other w result w' absorbs ran => absorbs.processed ran) first
    rw [exec_processSummary]
    cases second : (pass settings (summary.usages settings.catalog)).exec
      { left with now := later, contracts := w.contracts } with
    | none =>
      have nothing := pass_eq_none second
      exact nothing
    | some p =>
      have still : ∀ usage ∈ summary.usages settings.catalog,
          Absorbs settings usage { left with now := later, contracts := w.contracts } :=
        fun usage member => (absorbs usage member).of_same rfl (pass_contracts first).symm
      have storage := Absorbs.pass still second
      exact storage

end Engine
end MeteredBilling
