import MeteredBilling.Proofs.CountedUsage
import MeteredBilling.Proofs.Redelivery
import MeteredBilling.Proofs.Transactions
import MeteredBilling.Sql.Script

/-!
# Counts of repeated calls

Covered usage is counted as soon as an observation has its price, before the ledger looks at it. So
every call that gets that far counts it, one that fails in the ledger and one that repeats another
alike. Billed usage is counted for what the ledger wrote, and for nothing else.
-/

namespace MeteredBilling

open Sql

namespace Engine

variable {σ ρ α β γ : Type}

/-! ### Operations that count nothing -/

/-- Whatever the operation comes to, the counters are left as they were. -/
def Uncounted (x : Engine σ α β) : Prop :=
  ∀ w result left, x.exec w = some (result, left) → left.counters = w.counters

namespace Uncounted

theorem pure (b : β) : Uncounted (Pure.pure b : Engine σ α β) := by
  intro w result left ran
  cases ran
  rfl

theorem throw (e : BillingError) : Uncounted (MonadExcept.throw e : Engine σ α β) := by
  intro w result left ran
  cases ran
  rfl

theorem ofResult (result : Except BillingError β) :
    Uncounted (Engine.ofResult result : Engine σ α β) := by
  intro w result left ran
  cases ran
  rfl

theorem get : Uncounted (MonadState.get : Engine σ α (World σ α)) := by
  intro w result left ran
  cases ran
  rfl

theorem notice (n : Notice) : Uncounted (Engine.notice n : Engine σ α PUnit) := by
  intro w result left ran
  cases ran
  rfl

theorem bind {x : Engine σ α β} {f : β → Engine σ α γ} (first : Uncounted x)
    (later : ∀ b, Uncounted (f b)) : Uncounted (x >>= f) := by
  intro w result left ran
  rw [exec_bind] at ran
  obtain ⟨⟨outcome, middle⟩, began, ran⟩ := Option.bind_eq_some_iff.mp ran
  have same := first w outcome middle began
  cases outcome with
  | error e =>
    cases ran
    exact same
  | ok b => exact (later b middle result left ran).trans same

theorem attempt {x : Engine σ α β} (quiet : Uncounted x) : Uncounted (Engine.attempt x) := by
  intro w result left ran
  rw [exec_attempt] at ran
  obtain ⟨⟨outcome, last⟩, began, same⟩ := Option.map_eq_some_iff.mp ran
  cases same
  exact quiet w outcome last began

theorem discard {x : Engine σ α β} (quiet : Uncounted x) : Uncounted (Functor.discard x) := by
  intro w result left ran
  rw [exec_discard] at ran
  obtain ⟨⟨outcome, last⟩, began, same⟩ := Option.map_eq_some_iff.mp ran
  cases same
  exact quiet w outcome last began

theorem decide (decide : Decide α) (prior : Option (Remittance α)) :
    Uncounted (Engine.decide decide prior : Engine σ α (Decision α)) := by
  intro w result left ran
  simp only [Engine.decide, exec_bind, exec_get, Option.bind_some, proceed_ok] at ran
  split at ran
  · cases ran
    rfl
  · cases ran
    rfl

theorem memory (key : RemittanceKey) (decide : Decide α) :
    Uncounted (Memory.reconcile key decide) := by
  intro w result left ran
  rw [Memory.exec_reconcile] at ran
  split at ran
  · cases ran
    rfl
  · cases ran
    rfl

section Sessions

variable [Server ρ α]

theorem send (statement : Statement α) :
    Uncounted (Session.send statement : Engine (Session ρ α) α (Reply α)) := by
  intro w result left ran
  rw [Session.exec_send] at ran
  cases ran
  rfl

theorem abandon (cause : BillingError) :
    Uncounted (Session.abandon cause : Engine (Session ρ α) α PUnit) := by
  unfold Session.abandon
  split
  · exact (send .rollback).attempt.discard
  · exact pure _

theorem openBlock : Uncounted (Session.openBlock : Engine (Session ρ α) α PUnit) := by
  unfold Session.openBlock
  refine (send .begin).discard.bind fun _ => (send .serializable).attempt.bind fun isolated => ?_
  cases isolated with
  | ok => exact pure _
  | error e => exact (abandon e).bind fun _ => throw e

theorem rollBack (cause : BillingError) :
    Uncounted (Session.rollBack cause : Engine (Session ρ α) α PUnit) := by
  unfold Session.rollBack
  split
  · exact notice _
  · refine (send .rollback).attempt.bind fun rolled => ?_
    cases rolled with
    | ok => exact pure _
    | error e => exact (notice _).bind fun _ => abandon e

theorem closeBlock (worked : Except BillingError β) : Uncounted
    (Session.closeBlock worked : Engine (Session ρ α) α (Except BillingError β)) := by
  unfold Session.closeBlock
  cases worked with
  | ok v =>
    refine (send .commit).attempt.bind fun committed => ?_
    cases committed with
    | ok => exact pure _
    | error e => exact (abandon e).bind fun _ => pure _
  | error e => exact (rollBack e).bind fun _ => pure _

theorem withinFrom {work : Engine (Session ρ α) α β} (quiet : Uncounted work) (left number : Nat) :
    Uncounted (Session.withinFrom work left number) := by
  induction left generalizing number with
  | zero =>
    rw [Session.withinFrom_eq]
    refine openBlock.bind fun _ => quiet.attempt.bind fun worked =>
      (closeBlock worked).bind fun closed => ?_
    cases closed with
    | ok v => exact pure v
    | error e => exact throw e
  | succ left ih =>
    rw [Session.withinFrom_eq]
    refine openBlock.bind fun _ => quiet.attempt.bind fun worked =>
      (closeBlock worked).bind fun closed => ?_
    cases closed with
    | ok v => exact pure v
    | error e =>
      change Uncounted (if Session.isConflict e then _ else _)
      split
      · exact (notice _).bind fun _ => ih (number + 1)
      · exact throw e

omit [Server ρ α] in
theorem firstOf (rows : List β) : Uncounted (Session.firstOf rows : Engine (Session ρ α) α β) := by
  cases rows with
  | nil => exact throw _
  | cons row _ => exact pure row

theorem session (key : RemittanceKey) (decide : Decide α) :
    Uncounted (RowStore.reconcile key decide : Engine (Session ρ α) α (Outcome α)) := by
  change Uncounted (Session.within (Session.reconcileWork key decide))
  unfold Session.within
  refine get.bind fun w => withinFrom ?_ _ _
  unfold Session.reconcileWork
  have locked : Uncounted (Session.rowOf? (.lockRow key) : Engine (Session ρ α) α _) :=
    (send _).bind fun reply => ofResult _
  refine locked.bind fun prior => (Uncounted.decide decide prior).bind fun decision => ?_
  cases decision with
  | keep calculation => exact pure _
  | write calculation row event =>
    have written : Uncounted (Session.putRow row : Engine (Session ρ α) α _) :=
      (send _).bind fun reply => (firstOf _).bind fun stored => ofResult _
    refine written.bind fun row => ?_
    cases event with
    | none => exact pure _
    | some event =>
      have sent : Uncounted (Session.enqueue event : Engine (Session ρ α) α _) :=
        (send _).bind fun reply => firstOf _
      exact sent.discard.bind fun _ => pure _

end Sessions
end Uncounted

/-! ### What a call counts -/

section Counts

variable [Amount α] {settings : EngineSettings α} {usage : Usage α} {w middle left : World σ α}
  {priced : MeasureUnit α × Option (Coverage α)} {result : Except BillingError (Outcome α)}

/-- The part of an observation that coverage takes up, where there is something to count. -/
def takenUp (usage : Usage α) : MeasureUnit α × Option (Coverage α) → Option α
  | (unit, some coverage) =>
    let previous := usage.currentTotal - usage.value
    let covered := coverage.total / unit.factor
    let part := Amount.smaller (covered - previous) usage.value
    if !Amount.lt covered previous && Amount.isUsableFactor part then some part else none
  | (_, none) => none

/-- From one reading to the next the covered usage of an observation advances by a part, if any, and
nothing else does. -/
structure Covers (usage : Usage α) (part : Option α) (before after : Counters α) : Prop where
  own : after.get .covered (.ofUsage usage "covered") =
    part.elim (before.get .covered (.ofUsage usage "covered"))
      (before.get .covered (.ofUsage usage "covered") + ·)
  rest : ∀ counter labels, ¬(counter = .covered ∧ labels = .ofUsage usage "covered") →
    after.get counter labels = before.get counter labels

theorem Covers.nothing (usage : Usage α) (counters : Counters α) :
    Covers usage none counters counters := ⟨rfl, fun _ _ _ => rfl⟩

theorem Covers.part (usage : Usage α) (part : α) (counters : Counters α) :
    Covers usage (some part) counters
      ⟨Counters.addTo .covered (.ofUsage usage "covered") part counters.entries⟩ where
  own := Counters.get_addTo_own ..
  rest _ _ apart := Counters.get_addTo_other (fun same => apart ⟨same.1.symm, same.2.symm⟩) ..

theorem countCovered_covers {coverage : Coverage α} (unit : MeasureUnit α)
    {result : Except BillingError PUnit}
    (ran : (countCovered usage coverage unit.factor).exec w = some (result, left)) :
    Covers usage (takenUp usage (unit, some coverage)) w.counters left.counters := by
  simp only [countCovered] at ran
  simp only [takenUp]
  split at ran
  · rename_i below
    rw [exec_count] at ran
    cases ran
    unfold Counters.increment
    by_cases usable : Amount.isUsableFactor
        (Amount.smaller (coverage.total / unit.factor - (usage.currentTotal - usage.value))
          usage.value) = true
    · simp only [below, usable, Bool.and_self, if_true]
      exact .part ..
    · simp only [below, usable, Bool.and_false]
      exact .nothing ..
  · rename_i passed
    cases ran
    simp only [passed, Bool.false_and, Bool.false_eq_true, if_false]
    exact .nothing ..

theorem price_covers (ran : (price settings usage).exec w = some (.ok priced, middle)) :
    Covers usage (takenUp usage priced) w.counters middle.counters := by
  unfold price at ran
  cases found : settings.catalog.billingUnit usage.productId usage.metricId with
  | error e =>
    rw [found] at ran
    cases ran
  | ok unit =>
    rw [found, exec_bind, exec_ofResult, Option.bind_some, proceed_ok] at ran
    cases enabled : settings.catalog.isContractEnabled usage.productId with
    | false =>
      rw [enabled] at ran
      cases ran
      exact .nothing ..
    | true =>
      rw [enabled, if_pos rfl, exec_bind] at ran
      rcases coverageOf_cases settings usage w with ⟨coverage, queries, _, given⟩ |
        ⟨e, queries, notices, failed⟩ | ⟨nothing, _⟩
      · obtain ⟨counters, counted⟩ := exec_countCovered usage coverage unit.factor
          { w with queries }
        rw [given, Option.bind_some, proceed_ok, exec_bind, counted] at ran
        cases ran
        exact countCovered_covers (w := { w with queries }) unit counted
      · rw [failed] at ran
        cases ran
      · rw [nothing] at ran
        cases ran

theorem price_uncounted {e : BillingError}
    (ran : (price settings usage).exec w = some (.error e, middle)) :
    middle.counters = w.counters := by
  rcases price_cases settings usage w with ⟨unit, coverage, queries, counters, _, _, found⟩ |
    ⟨e, queries, notices, failed⟩ | ⟨nothing, _⟩
  · rw [found] at ran
    cases ran
  · rw [failed] at ran
    cases ran
    rfl
  · rw [nothing] at ran
    cases ran

variable [RowStore σ α]

/-- Nothing is counted after the ledger, unless it wrote a row. -/
theorem post_uncounted {unit : MeasureUnit α} {coverage : Option (Coverage α)}
    (quiet : Uncounted (apply usage unit coverage : Engine σ α (Outcome α)))
    (ran : (post usage unit coverage).exec w = some (result, left))
    (nothing : ∀ outcome, result = .ok outcome → outcome.row = none) :
    left.counters = w.counters := by
  cases applied : (apply usage unit coverage : Engine σ α (Outcome α)).exec w with
  | none =>
    rw [post, exec_bind, applied] at ran
    cases ran
  | some p =>
    obtain ⟨outcome, middle⟩ := p
    have same := quiet w outcome middle applied
    cases outcome with
    | error e =>
      rw [exec_post_of_error applied] at ran
      cases ran
      exact same
    | ok outcome =>
      obtain ⟨calculation, row⟩ := outcome
      cases row with
      | none =>
        rw [post, exec_bind, applied] at ran
        cases ran
        exact same
      | some row =>
        obtain ⟨counters, posted⟩ := exec_post_of_ok applied
        rw [posted] at ran
        cases ran
        cases nothing _ rfl

theorem process_covers (quiet : ∀ unit coverage, Uncounted
      (apply usage unit coverage : Engine σ α (Outcome α)))
    (found : (price settings usage).exec w = some (.ok priced, middle))
    (ran : (process settings usage).exec w = some (result, left))
    (nothing : ∀ outcome, result = .ok outcome → outcome.row = none) :
    Covers usage (takenUp usage priced) w.counters left.counters := by
  rw [process_eq, exec_bind, found, Option.bind_some, proceed_ok] at ran
  rw [post_uncounted (quiet _ _) ran nothing]
  exact price_covers found

/-- What the calls for an observation count. One that finds no price counts nothing. One that finds
a price and fails counts what coverage takes up, and so does every repetition that writes no row of
a call that succeeded. -/
structure CountsEveryCall (settings : EngineSettings α) (usage : Usage α) (w : World σ α) :
    Prop where
  unpriced : ∀ e middle, (price settings usage).exec w = some (.error e, middle) →
    ∀ result left, (process settings usage).exec w = some (result, left) →
      result = .error e ∧ left.counters = w.counters
  failed : ∀ priced middle, (price settings usage).exec w = some (.ok priced, middle) →
    ∀ e left, (process settings usage).exec w = some (.error e, left) →
      Covers usage (takenUp usage priced) w.counters left.counters
  repeated : ∀ priced middle, (price settings usage).exec w = some (.ok priced, middle) →
    ∀ outcome left, (process settings usage).exec w = some (.ok outcome, left) →
      ∀ later result last, (process settings usage).exec
          { left with now := later, contracts := w.contracts } = some (result, last) →
        (∀ outcome, result = .ok outcome → outcome.row = none) →
        Covers usage (takenUp usage priced) left.counters last.counters

theorem countsEveryCall (settings : EngineSettings α) (usage : Usage α) (w : World σ α)
    (quiet : ∀ unit coverage, Uncounted (apply usage unit coverage : Engine σ α (Outcome α))) :
    CountsEveryCall settings usage w where
  unpriced := by
    intro e middle found result left ran
    rw [process_eq, exec_bind, found] at ran
    cases ran
    exact ⟨rfl, price_uncounted found⟩
  failed := by
    intro priced middle found e left ran
    exact process_covers quiet found ran fun outcome same => nomatch same
  repeated := by
    intro priced middle found outcome left _ later result last again nothing
    let repetition : World σ α := { left with now := later, contracts := w.contracts }
    have same : repetition.contracts = w.contracts := rfl
    obtain ⟨_, found⟩ := price_agrees same found
    exact process_covers (w := repetition) quiet found again nothing

end Counts

theorem row_of_idle [Amount α] {usage : Usage α} {unit : MeasureUnit α}
    {coverage : Option (Coverage α)} {w left : World (Memory α) α} {outcome : Outcome α}
    (spent : Spent usage unit coverage (w.storage.rows.get? usage.key))
    (ran : (post usage unit coverage).exec w = some (.ok outcome, left)) : outcome.row = none := by
  have applied := exec_apply usage unit coverage w
  have computed := post_calculation ran
  rw [decisionOn_eq, computed, map_ok, map_ok, spent _ computed] at applied
  simp only [Bool.false_eq_true, if_false] at applied
  obtain ⟨counters, posted⟩ := exec_post_of_ok applied
  rw [posted] at ran
  obtain ⟨same, _⟩ := Prod.mk.inj (Option.some.inj ran)
  rw [← Except.ok.inj same]
  rfl

/-- On exact amounts a call that repeats another writes no row. -/
theorem repeated_writes_nothing {settings : EngineSettings ℚ} {usage : Usage ℚ}
    {w left last : World (Memory ℚ) ℚ} {result result' : Except BillingError (Outcome ℚ)}
    {later : Calendar.Instant}
    (ran : (process settings usage).exec w = some (result, left))
    (again : (process settings usage).exec
      { left with now := later, contracts := w.contracts } = some (result', last)) :
    ∀ outcome, result' = .ok outcome → outcome.row = none := by
  rintro outcome rfl
  have absorbs : Absorbs settings usage { left with now := later, contracts := w.contracts } :=
    (Absorbs.once ran).of_same rfl (process_cases ran).2.1.symm
  rw [process_eq, exec_bind] at again
  cases found : (price settings usage).exec
      { left with now := later, contracts := w.contracts } with
  | none =>
    rw [found] at again
    cases again
  | some p =>
    obtain ⟨e | priced, middle⟩ := p
    · rw [found] at again
      cases again
    · rw [found, Option.bind_some, proceed_ok] at again
      have spent := absorbs priced middle found
      rw [← (price_ok found).2.1] at spent
      exact row_of_idle spent again

/-- A call for an observation counts the part that coverage takes up as soon as the observation has
its price, be the storage in memory or in a database: it is counted by every call that fails in the
ledger, and once more by every repetition of a call. Billed usage, and every other counter, is left
alone by a call that fails, and by one that repeats another on exact amounts. -/
theorem covered_usage_counted_again {α ρ : Type} [Amount α] [Server ρ α] :
    (∀ (settings : EngineSettings α) (usage : Usage α) (w : World (Memory α) α),
      CountsEveryCall settings usage w) ∧
    (∀ (settings : EngineSettings α) (usage : Usage α) (w : World (Session ρ α) α),
      CountsEveryCall settings usage w) ∧
    ∀ (settings : EngineSettings ℚ) (usage : Usage ℚ) (w middle left last : World (Memory ℚ) ℚ)
      priced outcome later result,
      (price settings usage).exec w = some (.ok priced, middle) →
      (process settings usage).exec w = some (.ok outcome, left) →
      (process settings usage).exec { left with now := later, contracts := w.contracts } =
        some (result, last) →
      Covers usage (takenUp usage priced) left.counters last.counters := by
  have inMemory {α : Type} [Amount α] (settings : EngineSettings α) (usage : Usage α)
      (w : World (Memory α) α) : CountsEveryCall settings usage w :=
    countsEveryCall settings usage w fun unit coverage => Uncounted.memory usage.key _
  refine ⟨inMemory, fun settings usage w => ?_, ?_⟩
  · exact countsEveryCall settings usage w fun unit coverage => Uncounted.session usage.key _
  · intro settings usage w middle left last priced outcome later result found ran again
    have idle := repeated_writes_nothing ran again
    exact (inMemory settings usage w).repeated priced middle found outcome left ran later result
      last again idle

/-- Eight hours of which four are covered are processed again a minute later. -/
theorem covered_usage_counted_again_hours :
    let eight := (hoursTurn 8 8 0).usage
    let w := (hoursTurn 8 8 0).meet opening
    let labels := CounterLabels.ofUsage eight "covered"
    ∃ priced middle outcome left result last,
      (price underContract eight).exec w = some (.ok priced, middle) ∧
      (process underContract eight).exec w = some (.ok outcome, left) ∧
      (process underContract eight).exec
        { left with now := ⟨60, 0⟩, contracts := w.contracts } = some (result, last) ∧
      takenUp eight priced = some 4 ∧
      Covers eight (takenUp eight priced) left.counters last.counters ∧
      left.counters.get .covered labels = 4 ∧ last.counters.get .covered labels = 8 := by
  intro eight w labels
  have prices : ((price underContract eight).exec w).map (fun p =>
      p.1.toOption.bind (takenUp eight)) = some (some 4) := by decide +kernel
  have counts : ((process underContract eight).exec w).map (fun p =>
      (p.1.isOk, p.2.counters.get .covered labels)) = some (true, 4) := by decide +kernel
  have ends : (((process underContract eight).exec w).bind fun p => (process underContract
      eight).exec { p.2 with now := ⟨60, 0⟩, contracts := w.contracts }).isSome = true := by
    decide +kernel
  -- From here on nothing is evaluated again.
  generalize w = w at prices counts ends ⊢
  obtain ⟨⟨priced | priced, middle⟩, found, taken⟩ := Option.map_eq_some_iff.mp prices
  · exact nomatch taken
  obtain ⟨⟨outcome | outcome, left⟩, ran, counted⟩ := Option.map_eq_some_iff.mp counts
  · exact nomatch (Prod.mk.inj counted).1
  rw [ran, Option.bind_some] at ends
  obtain ⟨⟨result, last⟩, again⟩ := Option.isSome_iff_exists.mp ends
  have covers := (covered_usage_counted_again (ρ := Sql.Script ℚ)).2.2 underContract eight w
    middle left last priced outcome ⟨60, 0⟩ result found ran again
  have part : takenUp eight priced = some 4 := taken
  have before : left.counters.get .covered labels = 4 := (Prod.mk.inj counted).2
  have after := covers.own
  rw [part, Option.elim_some] at after
  refine ⟨priced, middle, outcome, left, result, last, found, ran, again, part, covers, before, ?_⟩
  rw [after, before]
  norm_num

/-- Of eight hours four are covered. They count as eight once the hours are processed again, and one
hour more is counted for a total that the ledger refuses after them. -/
theorem covered_hours_counted_twice :
    let eight := (hoursTurn 8 8 0).usage
    let one := (hoursTurn 1 1 0).usage
    let w := (hoursTurn 8 8 0).meet opening
    let read (calls : Engine (Memory ℚ) ℚ (Outcome ℚ)) := (calls.exec w).map fun p =>
      (p.1.isOk, p.2.counters.get .covered (.ofUsage eight "covered"))
    read (process underContract eight) = some (true, 4) ∧
      read (do discard (process underContract eight); process underContract eight) =
        some (true, 8) ∧
      read (do discard (process underContract eight); process underContract one) =
        some (false, 5) := by
  decide +kernel

end Engine
end MeteredBilling
