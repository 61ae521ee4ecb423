import MeteredBilling.Proofs.DoubleOrder
import MeteredBilling.Proofs.Identifiers
import MeteredBilling.Proofs.UsableFactors

/-!
# Falling totals

The row of a key remembers the totals that advanced it by the largest of them, and a total that
falls below that one by more than the slack is refused. A total that is accepted without an
advance, under coverage or within a unit that is billed already, leaves nothing to fall below.
-/

namespace MeteredBilling

open Engine

variable {α : Type}

/-- The observation wrote its row. -/
def Outcome.wrote (outcome : Outcome α) : Bool := outcome.row.isSome

variable [Amount α]

namespace Engine

variable {usage : Usage α} {unit : MeasureUnit α} {coverage : Option (Coverage α)}
  {w w' : World (Memory α) α} {e : BillingError}

/-- The ledger refuses what the calculation refuses, and then changes nothing. -/
theorem apply_error_iff : (apply usage unit coverage).exec w = some (.error e, w') ↔
    Calculation.compute usage.currentTotal unit (w.storage.rows.get? usage.key) coverage =
      .error e ∧ w' = w := by
  rw [exec_apply, decisionOn_eq]
  cases Calculation.compute usage.currentTotal unit (w.storage.rows.get? usage.key) coverage with
  | error e' => simp [Except.map, eq_comm]
  | ok calculation => simp [map_ok]

end Engine

namespace Calculation

/-- A total is said to regress exactly if it falls below the total of the row. -/
theorem compute_regression_iff (total : α) (unit : MeasureUnit α) (prior : Option (Remittance α))
    (coverage : Option (Coverage α)) (key previous current : String) :
    compute total unit prior coverage = .error (.usageRegression key previous current) ↔
      ∃ row ∈ prior, Amount.lt (total + Amount.slack) row.lastTotal = true ∧
        key = row.key.text ∧ previous = Amount.text row.lastTotal ∧
        current = Amount.text total := by
  rw [compute_eq]
  cases prior with
  | none => simp [accounted, Except.map]
  | some row =>
    cases falls : Amount.lt (total + Amount.slack) row.lastTotal with
    | true =>
      have refused : accounted total unit (some row) = .error (.usageRegression row.key.text
          (Amount.text row.lastTotal) (Amount.text total)) := if_pos falls
      simp [refused, Except.map, falls, @eq_comm String key, @eq_comm String previous,
        @eq_comm String current]
    | false =>
      cases usable : Amount.isUsableFactor row.factor <;>
        simp [accounted, Except.map, falls, usable]

end Calculation

namespace World

variable {w : World (Memory α) α} {key : RemittanceKey}

/-- No operation of the run resets or deletes the row of the key. -/
def Undisturbed (key : RemittanceKey) (w : World (Memory α) α) : List (Operation α) → Prop
  | [] => True
  | operation :: rest =>
    (∀ u, operation = .upkeep u → ∀ row ∈ w.storage.rows.get? key, u.disturbs row = false) ∧
      (w.after operation).Undisturbed key rest

/-- The total of an observation of the key that is accepted with such an outcome. -/
def accepted (kind : Outcome α → Bool) (key : RemittanceKey) (w : World (Memory α) α) :
    Operation α → List α
  | .observe usage unit coverage =>
    match (apply usage unit coverage).exec w with
    | some (.ok outcome, _) =>
      if usage.key = key ∧ kind outcome = true then [usage.currentTotal] else []
    | _ => []
  | .upkeep _ | .clock _ => []

/-- The totals that a run accepts of a key with such outcomes. -/
def totals (kind : Outcome α → Bool) (key : RemittanceKey) (w : World (Memory α) α) :
    List (Operation α) → List α
  | [] => []
  | operation :: rest =>
    w.accepted kind key operation ++ (w.after operation).totals kind key rest

theorem accepted_other {usage : Usage α} (unit : MeasureUnit α) (coverage : Option (Coverage α))
    {kind : Outcome α → Bool} (other : usage.key ≠ key) :
    w.accepted kind key (.observe usage unit coverage) = [] := by
  rw [accepted]
  split
  · rw [if_neg fun own => other own.1]
  · rfl

/-- An observation either leaves its row, or writes the row that follows and counts as accepted. -/
theorem accepted_wrote (usage : Usage α) (unit : MeasureUnit α) (coverage : Option (Coverage α)) :
    let row := w.storage.rows.get? usage.key
    let later := (w.after (.observe usage unit coverage)).storage.rows.get? usage.key
    let totals := w.accepted Outcome.wrote usage.key (.observe usage unit coverage)
    (totals = [] ∧ later = row) ∨
      totals = [usage.currentTotal] ∧ ∃ calculation,
        later = some (Decision.nextRow usage row calculation w.now (w.mint (w.minted + 1))) := by
  dsimp only
  rw [accepted, after_observe, exec_apply, decisionOn_eq]
  cases Calculation.compute usage.currentTotal unit (w.storage.rows.get? usage.key) coverage with
  | error e => exact .inl ⟨rfl, rfl⟩
  | ok calculation =>
    rw [map_ok]
    cases calculation.advances with
    | false => exact .inl ⟨if_neg (fun written => nomatch written.2), rfl⟩
    | true => exact .inr ⟨if_pos ⟨rfl, rfl⟩, calculation, RowTable.get?_put_self ..⟩

end World

/-! ### The largest total -/

/-- The row of the key stands at the largest of the totals, and is absent if there are none. What
is below one of the totals is below the largest, also where totals are no numbers. -/
structure StandsAt (key : RemittanceKey) (w : World (Memory Float) Float) (totals : List Float) :
    Prop where
  single : w.storage.rows.Single key
  own : ∀ row ∈ w.storage.rows.get? key, row.key = key
  absent : w.storage.rows.get? key = none → totals = []
  largest : ∀ row ∈ w.storage.rows.get? key,
    row.lastTotal ∈ totals ∧ ∀ total ∈ totals, ∀ x, x < total → x < row.lastTotal

namespace StandsAt

variable {key : RemittanceKey} {w w' : World (Memory Float) Float} {totals : List Float}

theorem of_same (stands : StandsAt key w totals) (single : w'.storage.rows.Single key)
    (own : ∀ row ∈ w'.storage.rows.get? key, row.key = key)
    (same : (w'.storage.rows.get? key).map (·.lastTotal) =
      (w.storage.rows.get? key).map (·.lastTotal)) : StandsAt key w' totals where
  single := single
  own := own
  absent gone := stands.absent (by simpa [gone] using same.symm)
  largest row stored := by
    rw [stored, Option.map_some] at same
    obtain ⟨prior, present, equal⟩ := Option.map_eq_some_iff.mp same.symm
    exact equal ▸ stands.largest prior present

theorem written {usage : Usage Float} (calculation : Calculation Float)
    (stands : StandsAt usage.key w totals) (single : w'.storage.rows.Single usage.key)
    (stored : w'.storage.rows.get? usage.key = some (Decision.nextRow usage
      (w.storage.rows.get? usage.key) calculation w.now (w.mint (w.minted + 1)))) :
    StandsAt usage.key w' (totals ++ [usage.currentTotal]) := by
  refine ⟨single, fun row present => ?_, fun gone => ?_, fun row present => ?_⟩
  · cases stored.symm.trans present
    rfl
  · cases stored.symm.trans gone
  · cases stored.symm.trans present
    cases before : w.storage.rows.get? usage.key with
    | none =>
      have nothing := stands.absent before
      subst nothing
      refine ⟨List.mem_singleton_self _, fun total member x below => ?_⟩
      rwa [List.mem_singleton.mp member] at below
    | some prior =>
      obtain ⟨member, largest⟩ := stands.largest prior before
      change Amount.larger prior.lastTotal usage.currentTotal ∈ _ ∧ ∀ total ∈ _, ∀ x, x < total →
        x < Amount.larger prior.lastTotal usage.currentTotal
      refine ⟨?_, fun total listed x below => ?_⟩
      · rcases Double.larger_cases prior.lastTotal usage.currentTotal with same | same <;> rw [same]
        · exact List.mem_append_left _ member
        · exact List.mem_append_right _ (List.mem_singleton_self _)
      · rcases List.mem_append.mp listed with old | new
        · exact Double.lt_larger (.inl (largest total old x below))
        · rw [List.mem_singleton.mp new] at below
          exact Double.lt_larger (.inr below)

theorem after (stands : StandsAt key w totals) (operation : Operation Float)
    (calm : ∀ u, operation = .upkeep u → ∀ row ∈ w.storage.rows.get? key,
      u.disturbs row = false) :
    StandsAt key (w.after operation) (totals ++ w.accepted Outcome.wrote key operation) := by
  have single := World.single_after operation stands.single
  have own := (World.row_change operation stands.single).own_key stands.own
  cases operation with
  | observe usage unit coverage =>
    by_cases other : usage.key = key
    · subst other
      rcases World.accepted_wrote usage unit coverage with ⟨nothing, same⟩ |
        ⟨total, calculation, stored⟩
      · rw [nothing, List.append_nil]
        exact stands.of_same single own (by rw [same])
      · rw [total]
        exact stands.written calculation single stored
    · rw [World.accepted_other unit coverage other, List.append_nil]
      exact stands.of_same single own (by rw [World.row_after_other unit coverage (Ne.symm other)])
  | upkeep u =>
    have amounts := u.amounts_effect w.now stands.single (calm u rfl)
    rw [World.accepted, List.append_nil]
    refine stands.of_same single own ?_
    rw [World.after_upkeep]
    have totals := congrArg (Option.map Amounts.lastTotal) amounts
    rwa [Option.map_map, Option.map_map] at totals
  | clock moment =>
    rw [World.accepted, List.append_nil]
    exact stands.of_same single own rfl

theorem run (stands : StandsAt key w totals) {operations : List (Operation Float)}
    (calm : w.Undisturbed key operations) :
    StandsAt key (w.run operations) (totals ++ w.totals Outcome.wrote key operations) := by
  induction operations generalizing w totals with
  | nil => rwa [World.totals, List.append_nil]
  | cons operation rest ih =>
    rw [World.totals, ← List.append_assoc]
    exact ih (stands.after operation calm.1) calm.2

end StandsAt

/-- In a run from a storage without rows that neither resets nor deletes the row of a key: a total
of the key that is more than the slack below the largest of those that wrote the row is refused,
which changes nothing. No other total is said to regress. -/
theorem falling_total_refused (start : World (Memory Float) Float)
    (operations : List (Operation Float)) (usage : Usage Float) (unit : MeasureUnit Float)
    (coverage : Option (Coverage Float))
    (calm : start.withoutRows.Undisturbed usage.key operations) :
    let w := start.withoutRows.run operations
    let totals := start.withoutRows.totals Outcome.wrote usage.key operations
    ((∃ total ∈ totals, usage.currentTotal + 1e-9 < total) →
      ∃ largest ∈ totals, (∀ total ∈ totals, ¬largest < total) ∧
        (apply usage unit coverage).exec w = some (.error (.usageRegression usage.key.text
          (Amount.text largest) (Amount.text usage.currentTotal)), w)) ∧
    ((∀ total ∈ totals, ¬usage.currentTotal + 1e-9 < total) → ∀ key previous current w',
      (apply usage unit coverage).exec w ≠
        some (.error (.usageRegression key previous current), w')) := by
  intro w totals
  have nothing : StandsAt usage.key start.withoutRows [] :=
    ⟨RowTable.single_of_absent rfl, (fun row stored => nomatch stored), fun _ => rfl,
      (fun row stored => nomatch stored)⟩
  have stands : StandsAt usage.key w totals := nothing.run calm
  have below (row : Remittance Float) :
      Amount.lt (usage.currentTotal + Amount.slack) row.lastTotal = true ↔
        usage.currentTotal + 1e-9 < row.lastTotal := decide_eq_true_iff
  constructor
  · rintro ⟨total, member, falls⟩
    cases stored : w.storage.rows.get? usage.key with
    | none =>
      rw [stands.absent stored] at member
      cases member
    | some row =>
      obtain ⟨listed, largest⟩ := stands.largest row stored
      refine ⟨row.lastTotal, listed, fun total member above => ?_, ?_⟩
      · exact Double.lt_irrefl _ (largest total member _ above)
      · rw [apply_error_iff, Calculation.compute_regression_iff]
        have lower := (below row).mpr (largest total member _ falls)
        exact ⟨⟨row, stored, lower, by rw [stands.own row stored], rfl, rfl⟩, rfl⟩
  · intro follows key previous current w' refused
    rw [apply_error_iff, Calculation.compute_regression_iff] at refused
    obtain ⟨⟨row, stored, lower, _⟩, _⟩ := refused
    exact follows row.lastTotal (stands.largest row stored).1 ((below row).mp lower)

/-- Hours of an account, counted up to a total. -/
def hoursCounted (total : Float) : Usage Float where
  orgId := "org"
  tallyId := ⟨7⟩
  productId := "machine"
  metricId := "hours"
  sla := "premium"
  purpose := "production"
  provider := .aws
  accountId := "account"
  vendorProductCode := none
  value := total
  currentTotal := total
  snapshotDate := ⟨0, 0⟩

/-- The second total is within the unit that the first one has billed, and the third one past it. -/
def hoursUp : List (Operation Float) :=
  [.observe (hoursCounted 1.25) ⟨some "hours", 1⟩ none,
    .observe (hoursCounted 1.75) ⟨some "hours", 1⟩ none,
    .upkeep (.giveUp ⟨10, 0⟩),
    .observe (hoursCounted 3.5) ⟨some "hours", 1⟩ none]

theorem falling_total_refused_hours :
    let w := noDoubles.withoutRows.run hoursUp
    let totals := noDoubles.withoutRows.totals Outcome.wrote (hoursCounted 3).key hoursUp
    noDoubles.withoutRows.Undisturbed (hoursCounted 3).key hoursUp ∧ totals = [1.25, 3.5] ∧
      ∃ largest ∈ totals, (∀ total ∈ totals, ¬largest < total) ∧
        (apply (hoursCounted 3) ⟨some "hours", 1⟩ none).exec w =
          some (.error (.usageRegression (hoursCounted 3).key.text (Amount.text largest)
            (Amount.text (3 : Float))), w) := by
  have calm : noDoubles.withoutRows.Undisturbed (hoursCounted 3).key hoursUp := by
    refine ⟨(fun u same => nomatch same), (fun u same => nomatch same), ?_,
      (fun u same => nomatch same), trivial⟩
    intro u same row _
    cases same
    rfl
  have totals : noDoubles.withoutRows.totals Outcome.wrote (hoursCounted 3).key hoursUp =
      [1.25, 3.5] := by
    decide +kernel
  have falls : ∃ total ∈ noDoubles.withoutRows.totals Outcome.wrote (hoursCounted 3).key hoursUp,
      (hoursCounted 3).currentTotal + 1e-9 < total := by
    rw [totals]
    exact ⟨3.5, by simp, by decide +kernel⟩
  exact ⟨calm, totals,
    (falling_total_refused noDoubles hoursUp (hoursCounted 3) ⟨some "hours", 1⟩ none calm).1 falls⟩

/-- A total that was accepted, but did not write the row, is forgotten: a lower one is accepted. -/
theorem fallen_total_accepted :
    let start := noDoubles.withoutRows
    let rising := hoursUp.take 2
    start.Undisturbed (hoursCounted 1.5).key rising ∧
      (∃ total ∈ start.totals (fun _ => true) (hoursCounted 1.5).key rising,
        (hoursCounted 1.5).currentTotal + 1e-9 < total) ∧
      ((apply (hoursCounted 1.5) ⟨some "hours", 1⟩ none).exec (start.run rising)).map (·.1.isOk) =
        some true := by
  have totals : noDoubles.withoutRows.totals (fun _ => true) (hoursCounted 1.5).key
      (hoursUp.take 2) = [1.25, 1.75] := by
    decide +kernel
  refine ⟨⟨(fun u same => nomatch same), (fun u same => nomatch same), trivial⟩, ?_,
    by decide +kernel⟩
  rw [totals]
  exact ⟨1.75, by simp, by decide +kernel⟩

end MeteredBilling
