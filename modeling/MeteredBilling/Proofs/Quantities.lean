import Mathlib.Data.List.Chain
import MeteredBilling.Proofs.Accounting

/-!
# Laws of quantities

On exact amounts a conversion along a chain of units depends on the two ends alone, and fails only
where two neighbours name different metrics. Rounding up is the least whole number above the amount
less the slack, so it commutes with whole numbers, and increments rounded one by one add up.
-/

namespace MeteredBilling.Quantity

open Exact

/-! ### Conversion -/

section Conversion

variable {α : Type} [Amount α]

/-- The amount expressed in each unit of a chain in turn. -/
def along (q : Quantity α) (units : List (MeasureUnit α)) : Except BillingError (Quantity α) :=
  units.foldlM inUnit q

omit [Amount α] in
theorem Agree.symm {unit target : MeasureUnit α} (agree : Agree unit target) :
    Agree target unit := by
  obtain unbound | unbound | same := agree
  · exact .inr (.inl unbound)
  · exact .inl unbound
  · exact .inr (.inr same.symm)

theorem inUnit_apart {q : Quantity α} {target : MeasureUnit α} (apart : ¬Agree q.unit target) :
    ∃ text, q.inUnit target = .error (.invalidUnit text) := by
  simp only [Agree, not_or] at apart
  obtain ⟨bound, bound', different⟩ := apart
  obtain ⟨left, named⟩ := Option.ne_none_iff_exists'.mp bound
  obtain ⟨right, named'⟩ := Option.ne_none_iff_exists'.mp bound'
  have other : left ≠ right := by
    intro same
    rw [named, named', same] at different
    exact different rfl
  refine ⟨"cannot convert between " ++ left ++ " and " ++ right, ?_⟩
  simp [inUnit, MeasureUnit.compatible, named, named', other, bind, Except.bind]

theorem along_cons {q : Quantity α} {unit : MeasureUnit α} (rest : List (MeasureUnit α))
    (agree : Agree q.unit unit) : q.along (unit :: rest) = (q.converted unit).along rest := by
  rw [along, List.foldlM_cons, inUnit_eq agree]
  rfl

theorem along_apart {q : Quantity α} {units : List (MeasureUnit α)}
    (apart : ¬(q.unit :: units).IsChain Agree) :
    ∃ text, q.along units = .error (.invalidUnit text) := by
  induction units generalizing q with
  | nil => exact absurd (List.isChain_singleton _) apart
  | cons unit rest ih =>
    by_cases agree : Agree q.unit unit
    · rw [along_cons rest agree]
      apply ih
      intro chain
      exact apart (List.isChain_cons_cons.mpr ⟨agree, chain⟩)
    · obtain ⟨text, refused⟩ := inUnit_apart agree
      refine ⟨text, ?_⟩
      rw [along, List.foldlM_cons, refused]
      rfl

omit [Amount α] in
theorem isChain_iff_neighbours {units : List (MeasureUnit α)} :
    units.IsChain Agree ↔ ∀ left right, [left, right] <:+: units → Agree left right := by
  constructor
  · intro chain left right neighbours
    have pair := chain.infix neighbours
    exact List.isChain_pair.mp pair
  · intro agree
    exact (List.isChain_isInfix units).imp agree

end Conversion

/-- The factors in between cancel. -/
theorem along_chain {q : Quantity ℚ} {units : List (MeasureUnit ℚ)}
    (nonzero : ∀ unit ∈ q.unit :: units, unit.factor ≠ 0)
    (chain : (q.unit :: units).IsChain Agree) :
    q.along units = .ok ⟨q.value * (units.getLastD q.unit).factor / q.unit.factor,
      units.getLastD q.unit⟩ := by
  induction units generalizing q with
  | nil =>
    have own := nonzero q.unit List.mem_cons_self
    rw [List.getLastD_nil, mul_div_cancel_right₀ _ own]
    rfl
  | cons unit rest ih =>
    obtain ⟨agree, chain⟩ := List.isChain_cons_cons.mp chain
    have own := nonzero q.unit List.mem_cons_self
    have next := nonzero unit (List.mem_cons_of_mem _ List.mem_cons_self)
    have moved : q.converted unit = ⟨q.value / q.unit.factor * unit.factor, unit⟩ :=
      converted_eq q.value unit own
    rw [along_cons rest agree, moved,
      ih (fun unit member => nonzero unit (List.mem_cons_of_mem _ member)) chain,
      List.getLastD_cons]
    congr 2
    field_simp

theorem add_apart {q other : Quantity ℚ} (apart : ¬Agree q.unit other.unit) :
    ∃ e, q.add other = .error e := by
  obtain ⟨text, refused⟩ := inUnit_apart fun agree => apart agree.symm
  rw [add, refused]
  exact ⟨_, rfl⟩

theorem add_subtract {q other : Quantity ℚ} (agree : Agree q.unit other.unit) :
    ∃ sum, q.add other = .ok sum ∧ sum.subtract other = .ok q := by
  have taken : subtract ⟨q.value + (other.converted q.unit).value, q.unit⟩ other =
      .ok ⟨q.value + (other.converted q.unit).value - (other.converted q.unit).value, q.unit⟩ :=
    subtract_eq agree.symm
  rw [add_sub_cancel_right] at taken
  exact ⟨_, add_eq agree.symm, taken⟩

theorem add_comm_inUnit {q other sum sum' : Quantity ℚ} (nonzero : q.unit.factor ≠ 0)
    (nonzero' : other.unit.factor ≠ 0) (added : q.add other = .ok sum)
    (added' : other.add q = .ok sum') : sum.inUnit other.unit = .ok sum' := by
  by_cases agree : Agree q.unit other.unit
  · rw [add_eq agree.symm] at added
    rw [add_eq agree] at added'
    obtain rfl := Except.ok.inj added
    obtain rfl := Except.ok.inj added'
    have moved : q.converted other.unit = _ := converted_eq q.value other.unit nonzero
    have moved' : other.converted q.unit = _ := converted_eq other.value q.unit nonzero'
    have turned : inUnit ⟨q.value + (other.converted q.unit).value, q.unit⟩ other.unit = _ :=
      inUnit_eq agree
    rw [turned, converted_eq _ _ nonzero, moved, moved']
    congr 2
    field_simp
    ring
  · obtain ⟨e, refused⟩ := add_apart agree
    rw [refused] at added
    cases added

/-- Along a chain of units an amount is converted by the factors of the two ends, unless two
neighbours name different metrics. So the way back leads to the same amount, what is added can be
taken away again, and a sum does not depend on the order but for its unit. -/
theorem path_independent (q : Quantity ℚ) (units : List (MeasureUnit ℚ))
    (nonzero : ∀ unit ∈ q.unit :: units, unit.factor ≠ 0) :
    ((∃ text, q.along units = .error (.invalidUnit text)) ↔
      ∃ left right, [left, right] <:+: q.unit :: units ∧ ¬Agree left right) ∧
    ((∀ left right, [left, right] <:+: q.unit :: units → Agree left right) →
      let last := units.getLastD q.unit
      q.along units = .ok ⟨q.value * last.factor / q.unit.factor, last⟩ ∧
        (last = q.unit → q.along units = .ok q)) ∧
    ∀ other : Quantity ℚ, other.unit.factor ≠ 0 →
      (Agree q.unit other.unit → ∃ sum, q.add other = .ok sum ∧ sum.subtract other = .ok q) ∧
      ∀ sum sum', q.add other = .ok sum → other.add q = .ok sum' →
        sum.inUnit other.unit = .ok sum' := by
  have own := nonzero q.unit List.mem_cons_self
  refine ⟨?_, ?_, ?_⟩
  · constructor
    · rintro ⟨text, failed⟩
      by_contra none
      push Not at none
      rw [along_chain nonzero (isChain_iff_neighbours.mpr none)] at failed
      cases failed
    · rintro ⟨left, right, neighbours, apart⟩
      apply along_apart
      intro chain
      exact apart (isChain_iff_neighbours.mp chain left right neighbours)
  · intro agree last
    have converted := along_chain nonzero (isChain_iff_neighbours.mpr agree)
    refine ⟨converted, ?_⟩
    intro back
    rw [converted, show units.getLastD q.unit = q.unit from back, mul_div_cancel_right₀ _ own]
  · intro other nonzero'
    exact ⟨add_subtract, fun _ _ => add_comm_inUnit own nonzero'⟩

def cores (factor : ℚ) : MeasureUnit ℚ := ⟨some "Cores", factor⟩

/-- Two metrics meet in the unit that names none, but not side by side. -/
theorem path_independent_cores :
    let q : Quantity ℚ := ⟨173 / 10, cores (1 / 4)⟩
    let memory : MeasureUnit ℚ := ⟨some "Memory", 1⟩
    let other : Quantity ℚ := ⟨2, cores 1⟩
    q.along [cores (1 / 2), .metric, cores (1 / 4)] = .ok q ∧
      q.along [.metric, memory] = .ok ⟨346 / 5, memory⟩ ∧
      (∃ text, q.along [.metric, cores 1, memory] = .error (.invalidUnit text)) ∧
      ∃ sum sum', q.add other = .ok sum ∧ sum.subtract other = .ok q ∧
        other.add q = .ok sum' ∧ sum.inUnit other.unit = .ok sum' := by
  intro q memory other
  have named : ¬Agree (cores 1) memory := by simp [Agree, cores, memory]
  have home : List.IsChain Agree [q.unit, cores (1 / 2), .metric, cores (1 / 4)] := by
    simp [Agree, q, cores, MeasureUnit.metric]
  have bridged : List.IsChain Agree [q.unit, .metric, memory] := by
    simp [Agree, MeasureUnit.metric]
  obtain ⟨-, back, sums⟩ := path_independent q [cores (1 / 2), .metric, cores (1 / 4)]
    (by simp [q, cores])
  obtain ⟨-, across, -⟩ := path_independent q [.metric, memory] (by simp [q, cores, memory])
  obtain ⟨apart, -, -⟩ := path_independent q [.metric, cores 1, memory]
    (by simp [q, cores, memory])
  have amount : (173 / 10 : ℚ) * 1 / (1 / 4) = 346 / 5 := by norm_num
  refine ⟨?_, ?_, ?_, ?_⟩
  · exact (back (isChain_iff_neighbours.mp home)).2 rfl
  · rw [← amount]
    exact (across (isChain_iff_neighbours.mp bridged)).1
  · exact apart.mpr ⟨cores 1, memory, ⟨[q.unit, .metric], [], rfl⟩, named⟩
  · have same : Agree q.unit other.unit := .inr (.inr rfl)
    obtain ⟨undone, reordered⟩ := sums other one_ne_zero
    obtain ⟨sum, added, taken⟩ := undone same
    have added' := add_eq (q := other) same
    exact ⟨sum, _, added, taken, added', reordered _ _ added added'⟩

/-! ### Rounding up -/

theorem roundUp_lt (x : ℚ) : (roundUp x : ℚ) < x + 1 := by
  have floor := Int.floor_le (x - slack)
  have positive := slack_pos
  rw [roundUp]
  push_cast
  linarith

theorem isLeast_roundUp (x : ℚ) : IsLeast {n : ℤ | x - slack < n} (roundUp x) := by
  constructor
  · exact lt_roundUp x
  · intro n above
    have above : x - slack < n := above
    exact roundUp_le_iff.mpr (by linarith)

theorem roundUp_add_int (x : ℚ) (n : ℤ) : roundUp (x + n) = roundUp x + n := by
  have shifted := roundUp_sub_int x (-n)
  rwa [Int.cast_neg, sub_neg_eq_add, sub_neg_eq_add] at shifted

/-- The whole units that are still to be counted of an amount. -/
def increment (unit : MeasureUnit ℚ) (counted x : ℚ) : ℚ :=
  (positiveOrZero ⟨x - counted, unit⟩).ceil.value

theorem increment_eq (unit : MeasureUnit ℚ) (counted : ℤ) (x : ℚ) :
    counted + increment unit counted x = (max counted (roundUp x) : ℤ) := by
  have rounded : increment unit counted x = (max (roundUp x - counted) 0 : ℤ) := by
    rw [increment, positiveOrZero, ceil_eq]
    simp only [larger_eq]
    rw [roundUp_max, roundUp_sub_int, roundUp_zero]
  rw [rounded]
  norm_cast
  omega

theorem foldl_increment (unit : MeasureUnit ℚ) (counted : ℤ) (xs : List ℚ) :
    xs.foldl (fun counted x => counted + increment unit counted x) (counted : ℚ) =
      xs.foldl (fun peak x => max peak (Quantity.mk x unit).ceil.value) (counted : ℚ) := by
  induction xs generalizing counted with
  | nil => rfl
  | cons x rest ih =>
    rw [List.foldl_cons, List.foldl_cons, increment_eq, ih, ceil_eq, Int.cast_max]

/-- Rounding up gives the least whole number above the amount less the slack. It is whole, grows
with the amount, fixes what it gives, commutes with whole numbers, and stays within a unit. Hence
increments that are rounded one by one count what the largest amount rounds up to. -/
theorem ceil_closed_form (unit : MeasureUnit ℚ) :
    let up (x : ℚ) : ℚ := (Quantity.mk x unit).ceil.value
    let t : ℚ := Amount.slack
    (∀ x : ℚ, (Quantity.mk x unit).ceil = ⟨(⌊x - t⌋ + 1 : ℤ), unit⟩ ∧
      IsLeast {n : ℤ | x - t < n} (⌊x - t⌋ + 1) ∧
      up (up x) = up x ∧ (∀ n : ℤ, up (x + n) = up x + n) ∧ x - t < up x ∧ up x < x + 1) ∧
    Monotone up ∧
    ∀ (counted : ℤ) (xs : List ℚ),
      xs.foldl (fun counted x => counted + increment unit counted x) (counted : ℚ) =
        xs.foldl (fun peak x => max peak (up x)) (counted : ℚ) := by
  intro up t
  have slack : t = Exact.slack := amount_slack
  have rounds (x : ℚ) : up x = roundUp x := by
    simp only [up, ceil_eq]
  refine ⟨?_, ?_, foldl_increment unit⟩
  · intro x
    rw [slack]
    refine ⟨ceil_eq _, isLeast_roundUp x, ?_, ?_, ?_, ?_⟩
    · rw [rounds x, rounds, roundUp_intCast]
    · intro n
      rw [rounds, rounds, roundUp_add_int, Int.cast_add]
    · rw [rounds]
      exact lt_roundUp x
    · rw [rounds]
      exact roundUp_lt x
  · intro x y le
    rw [rounds, rounds]
    exact_mod_cast roundUp_mono le

-- Just at the slack above a whole number the amount is past it.
example : (Quantity.ofMetric (3 + 1 / 10 ^ 9 : ℚ)).ceil.value = 4 := by decide +kernel

end MeteredBilling.Quantity
