import MeteredBilling.Proofs.Events

/-!
# Chunks of usage

Under one factor and one coverage the observations of a key bill what their largest total asks for,
in whatever order and however often they arrive, and however the total was chunked.
-/

namespace MeteredBilling

open Exact Engine

/-- The observations of a run under one unit and one coverage. -/
def observations (unit : MeasureUnit ℚ) (coverage : Option (Coverage ℚ))
    (usages : List (Usage ℚ)) : List (Operation ℚ) :=
  usages.map (.observe · unit coverage)

/-- The billing units of all events between two worlds. -/
def billedBetween (w w' : World (Memory ℚ) ℚ) : ℚ := ((emitted w w').map billedValue).sum

/-- After the totals that were seen, the row of a key has accounted for what each of them asked for,
and no more than its events billed. -/
structure Caught (start : World (Memory ℚ) ℚ) (key : RemittanceKey) (unit : MeasureUnit ℚ)
    (coverage : Option (Coverage ℚ)) (seen : List ℚ) (w : World (Memory ℚ) ℚ) : Prop where
  factor : ∀ row ∈ w.storage.rows.get? key, row.factor = unit.factor
  last : ∀ row ∈ w.storage.rows.get? key, ∃ total ∈ seen, row.lastTotal ≤ total
  accounted : accountedFor (w.storage.rows.get? key) =
    (seen.map (required · unit.factor coverage)).foldr max 0
  started : ∀ row ∈ w.storage.rows.get? key, 0 < accountedFor (some row)
  nothingFree : freePart (w.storage.rows.get? key) = 0
  grown : start.storage.queue.payloads Topic.billableUsage <+:
    w.storage.queue.payloads Topic.billableUsage
  billed : billedBetween start w = billedPart (w.storage.rows.get? key) * unit.factor

namespace Caught

variable {start w : World (Memory ℚ) ℚ} {unit : MeasureUnit ℚ} {key : RemittanceKey}
  {coverage : Option (Coverage ℚ)} {seen : List ℚ} {usage : Usage ℚ}

theorem of_absent (unit : MeasureUnit ℚ) (coverage : Option (Coverage ℚ))
    (absent : start.storage.rows.get? key = none) : Caught start key unit coverage [] start where
  factor row present := by simp [absent] at present
  last row present := by simp [absent] at present
  accounted := by rw [absent]; rfl
  started row present := by simp [absent] at present
  nothingFree := by rw [absent]; rfl
  grown := List.prefix_rfl
  billed := by simp [billedBetween, emitted_of_same, absent, billedPart]

theorem whole_needs (seen : List ℚ) (factor : ℚ) (coverage : Option (Coverage ℚ)) :
    ∃ n : ℤ, (seen.map (required · factor coverage)).foldr max 0 = n := by
  refine whole_foldr fun need member => ?_
  obtain ⟨total, _, rfl⟩ := List.mem_map.mp member
  exact whole_required ..

theorem needs_nonneg (seen : List ℚ) (factor : ℚ) (coverage : Option (Coverage ℚ)) :
    0 ≤ (seen.map (required · factor coverage)).foldr max 0 := by
  induction seen with
  | nil => exact le_refl 0
  | cons total rest ih => exact ih.trans (le_max_right ..)

theorem le_needs {total : ℚ} (factor : ℚ) (coverage : Option (Coverage ℚ))
    (member : total ∈ seen) :
    required total factor coverage ≤ (seen.map (required · factor coverage)).foldr max 0 := by
  induction member with
  | head => exact le_max_left ..
  | tail _ _ ih => exact ih.trans (le_max_right ..)

theorem last_rowOn (caught : Caught start usage.key unit coverage seen w) :
    ∃ total ∈ usage.currentTotal :: seen, (rowOn usage unit coverage w).lastTotal ≤ total := by
  cases prior : w.storage.rows.get? usage.key with
  | none =>
    have last : (rowOn usage unit coverage w).lastTotal = usage.currentTotal := by
      rw [rowOn, prior]
      rfl
    exact ⟨_, List.mem_cons_self, last.le⟩
  | some row =>
    have last : (rowOn usage unit coverage w).lastTotal = _ := lastTotal_rowOn prior
    obtain ⟨total, member, above⟩ := caught.last row prior
    rcases max_choice row.lastTotal usage.currentTotal with earlier | latest
    · exact ⟨total, List.mem_cons_of_mem _ member, by rwa [last, earlier]⟩
    · exact ⟨_, List.mem_cons_self, by rw [last, latest]⟩

theorem refused (caught : Caught start usage.key unit coverage seen w)
    (falls : ¬Follows usage.currentTotal (w.storage.rows.get? usage.key)) :
    Caught start usage.key unit coverage (usage.currentTotal :: seen)
      (w.after (.observe usage unit coverage)) := by
  rw [World.after_refused falls]
  simp only [Follows, not_forall, not_le] at falls
  obtain ⟨row, present, below⟩ := falls
  obtain ⟨total, member, above⟩ := caught.last row present
  have less : usage.currentTotal ≤ total := by linarith [slack_pos]
  have needs : required usage.currentTotal unit.factor coverage ≤
      (seen.map (required · unit.factor coverage)).foldr max 0 :=
    (required_mono _ _ less).trans (le_needs _ _ member)
  exact
    { caught with
      last := fun row present =>
        have ⟨total, member, above⟩ := caught.last row present
        ⟨total, List.mem_cons_of_mem _ member, above⟩
      accounted := by rw [caught.accounted, List.map_cons, List.foldr_cons, max_eq_right needs] }

/-- A total that is accepted raises the row to what it asks for, and bills the difference. -/
theorem accepted (caught : Caught start usage.key unit coverage seen w)
    (positive : 0 < unit.factor) (charged : ∀ c ∈ coverage, c.gratis = false)
    (follows : Follows usage.currentTotal (w.storage.rows.get? usage.key)) :
    Caught start usage.key unit coverage (usage.currentTotal :: seen)
      (w.after (.observe usage unit coverage)) := by
  have usable : ∀ row ∈ w.storage.rows.get? usage.key, 0 < row.factor := fun row present =>
    (caught.factor row present).symm ▸ positive
  have paid : coverage.any (·.gratis) = false := (Option.any_eq_false ..).mpr charged
  obtain ⟨n, whole⟩ := whole_needs seen unit.factor coverage
  obtain ⟨billed, free, _⟩ := World.parts_after coverage positive usable follows
  obtain ⟨values, _⟩ := World.emitted_after coverage positive usable follows
  have grows := payloads_grow (w := w) usage unit coverage Topic.billableUsage
  have raised := World.accountedFor_after coverage positive usable follows
    (caught.accounted.trans whole)
  have advance := accountedFor_rowAfter usage (w.storage.rows.get? usage.key) coverage w.now
    (w.mint (w.minted + 1)) positive
  -- A row that stands is the one from before, or one that was written for a positive amount.
  have row : ∀ row ∈ (w.after (.observe usage unit coverage)).storage.rows.get? usage.key,
      row ∈ w.storage.rows.get? usage.key ∨ row = rowOn usage unit coverage w ∧
        0 < (calculationOn usage unit coverage w).consumed := by
    intro row present
    rcases idle_or_advances usage unit coverage w with idle | advances
    · rw [World.after_idle positive usable follows idle] at present
      exact .inl present
    · rw [World.row_after_written positive usable follows advances] at present
      exact .inr ⟨(Option.some.inj present).symm, advances⟩
  refine ⟨?_, ?_, ?_, ?_, ?_, caught.grown.trans grows, ?_⟩
  · intro after present
    rcases row after present with before | ⟨rfl, _⟩
    · exact caught.factor after before
    · rfl
  · intro after present
    rcases row after present with before | ⟨rfl, _⟩
    · obtain ⟨total, member, above⟩ := caught.last after before
      exact ⟨total, List.mem_cons_of_mem _ member, above⟩
    · exact caught.last_rowOn
  · rw [raised, caught.accounted, List.map_cons, List.foldr_cons, max_comm]
  · intro after present
    rcases row after present with before | ⟨rfl, advances⟩
    · exact caught.started after before
    · have nonneg := needs_nonneg seen unit.factor coverage
      rw [← caught.accounted] at nonneg
      exact advance.symm ▸ add_pos_of_nonneg_of_pos nonneg advances
  · rw [free, caught.nothingFree, World.given, paid]
    simp
  · rw [billedBetween, emitted_trans caught.grown grows, List.map_append, List.sum_append, values,
      billed, add_mul]
    exact congrArg (· + _) caught.billed

theorem run (caught : Caught start key unit coverage seen w) (positive : 0 < unit.factor)
    (charged : ∀ c ∈ coverage, c.gratis = false) {usages : List (Usage ℚ)}
    (same : ∀ usage ∈ usages, usage.key = key) :
    Caught start key unit coverage ((usages.map (·.currentTotal)).reverse ++ seen)
      (w.run (observations unit coverage usages)) := by
  induction usages generalizing w seen with
  | nil => exact caught
  | cons usage rest ih =>
    obtain rfl := same usage List.mem_cons_self
    have next : Caught start usage.key unit coverage (usage.currentTotal :: seen)
        (w.after (.observe usage unit coverage)) := by
      by_cases follows : Follows usage.currentTotal (w.storage.rows.get? usage.key)
      · exact caught.accepted positive charged follows
      · exact caught.refused follows
    have left := ih next fun usage member => same usage (List.mem_cons_of_mem _ member)
    rwa [List.map_cons, List.reverse_cons, List.append_assoc]

theorem needs_eq {peak : ℚ} (factor : ℚ) (coverage : Option (Coverage ℚ)) (reached : peak ∈ seen)
    (most : ∀ total ∈ seen, total ≤ peak) :
    (seen.map (required · factor coverage)).foldr max 0 = required peak factor coverage := by
  refine le_antisymm ?_ (le_needs factor coverage reached)
  clear reached
  induction seen with
  | nil => exact required_nonneg ..
  | cons total rest ih =>
    exact max_le (required_mono _ _ (most total List.mem_cons_self))
      (ih fun total member => most total (List.mem_cons_of_mem _ member))

end Caught

def dueUpTo (peak : ℚ) (unit : MeasureUnit ℚ) (coverage : Option (Coverage ℚ)) : ℚ :=
  unit.factor * required peak unit.factor coverage

section Observed

variable {w w' : World (Memory ℚ) ℚ} {key : RemittanceKey} {unit : MeasureUnit ℚ}
  {coverage : Option (Coverage ℚ)} {usages others : List (Usage ℚ)} {peak : ℚ}

theorem billed_up_to_peak (absent : w.storage.rows.get? key = none) (positive : 0 < unit.factor)
    (charged : ∀ c ∈ coverage, c.gratis = false) (same : ∀ usage ∈ usages, usage.key = key)
    (reached : ∃ usage ∈ usages, usage.currentTotal = peak)
    (most : ∀ usage ∈ usages, usage.currentTotal ≤ peak) :
    let left := w.run (observations unit coverage usages)
    billedBetween w left = dueUpTo peak unit coverage ∧
      (left.storage.rows.get? key).map (·.remitted) =
        if 0 < dueUpTo peak unit coverage then some (dueUpTo peak unit coverage) else none := by
  have caught := (Caught.of_absent unit coverage absent).run positive charged same
  have needs : ((((usages.map Usage.currentTotal).reverse ++ []).map
      (required · unit.factor coverage)).foldr max 0) = required peak unit.factor coverage := by
    refine Caught.needs_eq _ _ ?_ fun total member => ?_
    · simpa using reached
    · obtain ⟨usage, listed, rfl⟩ : ∃ usage ∈ usages, usage.currentTotal = total := by
        simpa using member
      exact most usage listed
  have accounted := caught.accounted.trans needs
  have billed := accountedFor_eq
    ((w.run (observations unit coverage usages)).storage.rows.get? key)
  rw [caught.nothingFree, add_zero, accounted] at billed
  refine ⟨by rw [caught.billed, ← billed, dueUpTo, mul_comm], ?_⟩
  cases present : (w.run (observations unit coverage usages)).storage.rows.get? key with
  | none =>
    have nothing : required peak unit.factor coverage = 0 := by rw [billed, present]; rfl
    simp [dueUpTo, nothing]
  | some row =>
    have factor := caught.factor row present
    have started := caught.started row present
    rw [← present, accounted] at started
    have remitted : row.remitted = dueUpTo peak unit coverage := by
      rw [dueUpTo, billed, present, ← factor]
      exact (mul_div_cancel₀ _ (factor ▸ positive.ne')).symm
    have due : 0 < dueUpTo peak unit coverage := mul_pos positive started
    rw [Option.map_some, remitted, if_pos due]

/-- Observations of a key under one factor and one paid coverage bill exactly what their largest
total asks for, refused observations included. Any other order, repetition or chunking of the usage
with the same largest total bills the same sum and leaves the same amount remitted. -/
theorem no_double_billing (absent : w.storage.rows.get? key = none) (positive : 0 < unit.factor)
    (charged : ∀ c ∈ coverage, c.gratis = false) (same : ∀ usage ∈ usages, usage.key = key)
    (reached : ∃ usage ∈ usages, usage.currentTotal = peak)
    (most : ∀ usage ∈ usages, usage.currentTotal ≤ peak) :
    let left := w.run (observations unit coverage usages)
    billedBetween w left = unit.factor * (Quantity.ofMetric
        (max 0 (peak - coveredPart unit.factor coverage))).ceil.value ∧
      ∀ w' others, w'.storage.rows.get? key = none → (∀ usage ∈ others, usage.key = key) →
        (∃ usage ∈ others, usage.currentTotal = peak) →
        (∀ usage ∈ others, usage.currentTotal ≤ peak) →
        let left' := w'.run (observations unit coverage others)
        billedBetween w' left' = billedBetween w left ∧
          (left'.storage.rows.get? key).map (·.remitted) =
            (left.storage.rows.get? key).map (·.remitted) := by
  obtain ⟨billed, remitted⟩ := billed_up_to_peak absent positive charged same reached most
  refine ⟨billed, fun w' others absent' same' reached' most' => ?_⟩
  obtain ⟨billed', remitted'⟩ := billed_up_to_peak absent' positive charged same' reached' most'
  exact ⟨billed'.trans billed.symm, remitted'.trans remitted.symm⟩

end Observed

theorem no_double_billing_hours :
    let coverage : Option (Coverage ℚ) := some ⟨some "hours", 1, false⟩
    let usages := [hoursRun 5, hoursRun 2, hoursRun (11 / 2), hoursRun 5]
    let left := opening.run (observations ⟨some "hours", 1 / 4⟩ coverage usages)
    (∀ usage ∈ usages, usage.currentTotal ≤ 11 / 2) ∧
      billedBetween opening left = 1 / 4 * (Quantity.ofMetric
        (max 0 (11 / 2 - coveredPart (1 / 4) coverage))).ceil.value := by
  have most : ∀ usage ∈ [hoursRun 5, hoursRun 2, hoursRun (11 / 2), hoursRun 5],
      usage.currentTotal ≤ 11 / 2 := by
    simp only [List.forall_mem_cons, hoursRun]
    norm_num
  have absent : opening.storage.rows.get? (hoursRun 0).key = none := rfl
  refine ⟨most, ?_⟩
  exact (no_double_billing absent (by norm_num) (by simp)
    (by simp [hoursRun, Usage.key, Usage.period]) ⟨hoursRun (11 / 2), by simp, rfl⟩ most).1

end MeteredBilling
