import MeteredBilling.Proofs.Changes
import MeteredBilling.Proofs.NoLoss
import MeteredBilling.Proofs.Redelivery
import MeteredBilling.Proofs.Settlements

/-!
# Summaries that come again

A summary whose observations were all processed, and that is delivered once more, is never put off.
It is acknowledged if each total still rises when its turn comes. Otherwise, as with several totals
of one key, of which the last is on record, it is set aside although nothing is left to be done.
-/

namespace MeteredBilling.Engine

variable {α : Type} [Amount α] {settings : EngineSettings α} {usage other : Usage α}
  {w w' : World (Memory α) α} {result : Except BillingError (Outcome α)}

/-! ### Observations that are processed again -/

/-- The total does not lie below the last one on record, or by no more than the slack. -/
def Rises (usage : Usage α) (row : Option (Remittance α)) : Prop :=
  ∀ stored ∈ row, Amount.lt (usage.currentTotal + Amount.slack) stored.lastTotal = false

/-- The observation has a price, and the row of its key a usable factor. -/
structure Billable (settings : EngineSettings α) (usage : Usage α) (w : World (Memory α) α) :
    Prop where
  priced : ∃ priced left, (price settings usage).exec w = some (.ok priced, left)
  usable : ∀ row ∈ w.storage.rows.get? usage.key, Amount.isUsableFactor row.factor = true

/-- The refusal of a total that falls. -/
def Regression (e : BillingError) : Prop :=
  ∃ key previous current, e = .usageRegression key previous current

theorem usable_observed {unit : MeasureUnit α} (coverage : Option (Coverage α))
    {key : RemittanceKey} (unitUsable : Amount.isUsableFactor unit.factor = true)
    (usable : ∀ row ∈ w.storage.rows.get? key, Amount.isUsableFactor row.factor = true) :
    ∀ row ∈ (w.after (.observe usage unit coverage)).storage.rows.get? key,
      Amount.isUsableFactor row.factor = true := by
  refine (RowChange.observed usage unit coverage).usable (fun _ _ _ same => ?_) usable
  cases same
  exact unitUsable

namespace Billable

/-- Processing an observation, this one or another, leaves it billable. -/
theorem processed (billable : Billable settings usage w)
    (ran : (process settings other).exec w = some (result, w')) :
    Billable settings usage w' := by
  obtain ⟨_, contracts, stored⟩ := process_cases ran
  refine ⟨?_, ?_⟩
  · obtain ⟨priced, left, price⟩ := billable.priced
    exact ⟨priced, price_agrees contracts price⟩
  · rcases stored with ⟨priced, left, price, storage⟩ | ⟨_, storage⟩
    · rw [storage]
      exact usable_observed priced.2 (usable_of_billingUnit (price_ok price).1) billable.usable
    · rw [storage]
      exact billable.usable

theorem of_same (billable : Billable settings usage w)
    (rows : w'.storage.rows = w.storage.rows) (contracts : w'.contracts = w.contracts) :
    Billable settings usage w' := by
  obtain ⟨priced, left, price⟩ := billable.priced
  exact ⟨⟨priced, price_agrees contracts price⟩, rows ▸ billable.usable⟩

/-- A billable observation is processed, unless its total falls. -/
theorem exec (billable : Billable settings usage w) : ∃ result left,
    (process settings usage).exec w = some (result, left) ∧
      ((Rises usage (w.storage.rows.get? usage.key) ∧ ∃ outcome, result = .ok outcome) ∨
        ¬Rises usage (w.storage.rows.get? usage.key) ∧ ∃ e, result = .error e ∧ Regression e) := by
  obtain ⟨⟨unit, coverage⟩, before, price⟩ := billable.priced
  obtain ⟨result, counters, posted⟩ := exec_post usage unit coverage before
  have ran := (exec_process_of_price price).trans posted
  have computed := post_calculation posted
  rw [(price_ok price).2.1] at computed
  have refused := Calculation.compute_error_iff usage.currentTotal unit coverage
    billable.usable
  refine ⟨result, _, ran, ?_⟩
  cases result with
  | ok outcome =>
    refine .inl ⟨fun stored present => ?_, outcome, rfl⟩
    by_contra falls
    have error := (refused _).mpr ⟨stored, present, by simpa using falls, rfl⟩
    exact nomatch computed.symm.trans error
  | error e =>
    obtain ⟨stored, present, falls, same⟩ := (refused e).mp computed
    have below : ¬Rises usage (w.storage.rows.get? usage.key) :=
      fun rises => nomatch (rises stored present).symm.trans falls
    exact .inr ⟨below, e, rfl, _, _, _, same⟩

/-- An observation that is processed is billable from then on. -/
theorem of_ok {outcome : Outcome α}
    (ran : (process settings usage).exec w = some (.ok outcome, w')) :
    Billable settings usage w' := by
  have before : Billable settings usage w := by
    have whole := ran
    rw [process_eq, exec_bind] at ran
    obtain ⟨⟨found, left⟩, price, posted⟩ := Option.bind_eq_some_iff.mp ran
    cases found with
    | error e => cases posted
    | ok priced =>
      rw [exec_process_of_price price] at whole
      have computed := post_calculation whole
      rw [(price_ok price).2.1] at computed
      exact ⟨⟨priced, left, price⟩, Calculation.usable_of_compute computed⟩
  exact before.processed ran

end Billable

/-! ### Passes over a summary that comes again -/

variable {usages : List (Usage α)} {results : List (Except BillingError (Outcome α))}

/-- Each total rises when its turn in a pass comes. -/
def RisesThrough (settings : EngineSettings α) : List (Usage α) → World (Memory α) α → Prop
  | [], _ => True
  | usage :: later, w => Rises usage (w.storage.rows.get? usage.key) ∧
      ∀ result left, (process settings usage).exec w = some (result, left) →
        RisesThrough settings later left

/-- After a pass without an error all of its observations are billable. -/
theorem billable_of_pass (ran : (pass settings usages).exec w = some (.ok results, w'))
    (ok : ∀ e, .error e ∉ results) : ∀ usage ∈ usages, Billable settings usage w' := by
  induction usages generalizing w results with
  | nil => exact fun usage member => nomatch member
  | cons usage later ih =>
    obtain ⟨result, left, _ | rest, first, others, all⟩ := pass_cases ran
    · cases all
    cases all
    intro other member
    rcases List.mem_cons.mp member with rfl | member
    · cases result with
      | error e => exact absurd List.mem_cons_self (ok e)
      | ok outcome =>
        exact pass_keeps (fun usage w result w' billable ran => billable.processed ran)
          (Billable.of_ok first) others
    · exact ih others (fun e member => ok e (List.mem_cons_of_mem _ member)) other member

/-- A pass over billable observations fails on totals that fall, and on nothing else. -/
theorem pass_of_billable (billable : ∀ usage ∈ usages, Billable settings usage w) :
    ∃ results left, (pass settings usages).exec w = some (.ok results, left) ∧
      (∀ e, .error e ∈ results → Regression e) ∧
      ((∀ e, .error e ∉ results) ↔ RisesThrough settings usages w) := by
  induction usages generalizing w with
  | nil => exact ⟨[], w, rfl, by simp, by simp [RisesThrough]⟩
  | cons usage later ih =>
    obtain ⟨result, left, first, turn⟩ := (billable usage List.mem_cons_self).exec
    obtain ⟨rest, last, others, falls, whole⟩ := ih fun other member =>
      (billable other (List.mem_cons_of_mem _ member)).processed first
    refine ⟨result :: rest, last, ?_, ?_, ?_⟩
    · rw [exec_pass_cons, first, Option.bind_some, others]
      rfl
    · intro e member
      rcases List.mem_cons.mp member with rfl | member
      · rcases turn with ⟨_, outcome, ok⟩ | ⟨_, e', same, regression⟩
        · cases ok
        · cases same
          exact regression
      · exact falls e member
    · have through : RisesThrough settings (usage :: later) w ↔
          Rises usage (w.storage.rows.get? usage.key) ∧ RisesThrough settings later left := by
        simp [RisesThrough, first]
      rw [through, ← whole]
      rcases turn with ⟨rises, outcome, rfl⟩ | ⟨falls, e, rfl, _⟩
      · simp [rises]
      · exact iff_of_false (fun none => none e List.mem_cons_self) fun all => falls all.1

/-! ### The message of a summary -/

variable {delivery : Delivery α}

theorem handle_ok (summaries : delivery.topic = Topic.tallySummary)
    (ran : (handle settings delivery).exec w = some (.ok ⟨⟩, w')) :
    ∃ summary results, TallySummary.record.decoder delivery.payload.canonical = .ok summary ∧
      (pass settings (summary.usages settings.catalog)).exec w = some (.ok results, w') ∧
      ∀ e, .error e ∉ results := by
  rw [exec_handle_summary summaries] at ran
  cases decoded : TallySummary.record.decoder delivery.payload.canonical with
  | error e =>
    rw [decoded] at ran
    cases ran
  | ok summary =>
    rw [decoded] at ran
    obtain ⟨⟨results, left⟩, passed, same⟩ := Option.map_eq_some_iff.mp ran
    obtain ⟨all, rfl⟩ := Prod.mk.inj same
    cases results with
    | error e => cases all
    | ok results =>
      refine ⟨summary, results, rfl, passed, verdict_ok_iff.mp ?_⟩
      have done : (verdict results).map (fun _ => ()) = .ok () := all
      cases decided : verdict results with
      | ok outcomes => exact ⟨outcomes, rfl⟩
      | error e =>
        rw [decided] at done
        cases done

/-- A summary whose observations were all processed is handled again on the same rows and with the
same contracts. -/
theorem handle_again {first second : Delivery α} {left taken : World (Memory α) α}
    (summaries : first.topic = Topic.tallySummary)
    (processed : (handle settings first).exec w = some (.ok ⟨⟩, left))
    (rows : taken.storage.rows = left.storage.rows) (contracts : taken.contracts = left.contracts)
    (topic : second.topic = Topic.tallySummary) (same : second.payload = first.payload)
    {m : QueuedMessage α} (held : Held second taken m) :
    ∃ summary outcome last, TallySummary.record.decoder first.payload.canonical = .ok summary ∧
      (handle settings second).exec taken = some (outcome, last) ∧ Held second last m ∧
      (outcome = .ok ⟨⟩ ∧ RisesThrough settings (summary.usages settings.catalog) taken ∨
        (∃ e, outcome = .error e ∧ Regression e) ∧
          ¬RisesThrough settings (summary.usages settings.catalog) taken) := by
  obtain ⟨summary, results, decoded, passed, ok⟩ := handle_ok summaries processed
  have billable : ∀ usage ∈ summary.usages settings.catalog, Billable settings usage taken :=
    fun usage member => (billable_of_pass passed ok usage member).of_same rows contracts
  obtain ⟨again, last, repeated, falls, whole⟩ := pass_of_billable billable
  have ran : (handle settings second).exec taken =
      some (((verdict again).map fun _ => ⟨⟩), last) := by
    rw [exec_handle_summary topic, same, decoded]
    simp only [repeated, Option.map_some]
    rfl
  have still : Held second last m := (pass_held held repeated).1
  refine ⟨summary, _, last, decoded, ran, still, ?_⟩
  by_cases rises : RisesThrough settings (summary.usages settings.catalog) taken
  · obtain ⟨outcomes, done⟩ := verdict_ok_iff.mpr (whole.mpr rises)
    exact .inl ⟨by rw [done]; rfl, rises⟩
  · obtain ⟨e, failed⟩ : ∃ e, .error e ∈ again := by
      by_contra none
      exact rises (whole.mp fun e member => none ⟨e, member⟩)
    obtain ⟨first, refused⟩ := verdict_of_error failed
    exact .inr ⟨⟨first, by rw [refused]; rfl, falls first (mem_of_verdict refused)⟩, rises⟩

/-- Once the observations of a summary were all processed, the same summary that is claimed next,
with the same rows and contracts, is never put off. It is acknowledged exactly if each of its totals
still rises when its turn comes; otherwise the ledger refuses a total, and it is set aside. -/
theorem repeated_summary_settled {first second : Delivery α}
    {left again taken : World (Memory α) α}
    (summaries : first.topic = Topic.tallySummary)
    (processed : (handle settings first).exec w = some (.ok ⟨⟩, left))
    (rows : again.storage.rows = left.storage.rows) (contracts : again.contracts = left.contracts)
    (claimed : (MessageBus.claim Topic.tallySummary).exec again = some (.ok (some second), taken))
    (same : second.payload = first.payload) :
    ∃ summary settlement last,
      TallySummary.record.decoder first.payload.canonical = .ok summary ∧
      (processNext settings Topic.tallySummary).exec again =
        some (.ok (some settlement), last) ∧
      (settlement = .acked ∧ RisesThrough settings (summary.usages settings.catalog) taken ∨
        settlement = .poisoned ∧
          ¬RisesThrough settings (summary.usages settings.catalog) taken ∧
          ∃ e refused, (handle settings second).exec taken = some (.error e, refused) ∧
            Regression e) := by
  obtain ⟨⟨m, held⟩, kept, service, topic⟩ := held_of_claim claimed
  obtain ⟨summary, outcome, refused, decoded, ran, still, decided⟩ := handle_again summaries
    processed (kept.trans rows) (service.trans contracts) topic same held
  rcases decided with ⟨rfl, rises⟩ | ⟨⟨e, rfl, regression⟩, falls⟩
  · obtain ⟨last, settled, _⟩ := exec_settle_ok still
    have next : (processNext settings Topic.tallySummary).exec again =
        some (.ok (some .acked), last) := by rw [exec_processNext claimed ran, settled]; rfl
    exact ⟨summary, .acked, last, decoded, next, .inl ⟨rfl, rises⟩⟩
  · have final : e.disposition = .reject := by
      obtain ⟨key, previous, current, rfl⟩ := regression
      rfl
    obtain ⟨last, settled, _⟩ := exec_settle_reject still final
    have next : (processNext settings Topic.tallySummary).exec again =
        some (.ok (some .poisoned), last) := by rw [exec_processNext claimed ran, settled]; rfl
    exact ⟨summary, .poisoned, last, decoded, next,
      .inr ⟨rfl, falls, e, refused, ran, regression⟩⟩

/-! ### With exact amounts -/

section Exactly

open Exact

variable {settings : EngineSettings ℚ} {usage : Usage ℚ} {usages : List (Usage ℚ)}
  {w : World (Memory ℚ) ℚ}

theorem rises_iff {row : Option (Remittance ℚ)} :
    Rises usage row ↔ Follows usage.currentTotal row := by
  simp only [Rises, Follows, ← Bool.not_eq_true, lt_iff, not_lt, amount_slack]

/-- A pass that changes nothing compares all totals with the rows that it starts from. -/
theorem risesThrough_iff (billable : ∀ usage ∈ usages, Billable settings usage w)
    (absorbs : ∀ usage ∈ usages, Absorbs settings usage w) : RisesThrough settings usages w ↔
      ∀ usage ∈ usages, Follows usage.currentTotal (w.storage.rows.get? usage.key) := by
  induction usages generalizing w with
  | nil => simp [RisesThrough]
  | cons usage later ih =>
    obtain ⟨result, left, first, _⟩ := (billable usage List.mem_cons_self).exec
    have rows : left.storage.rows = w.storage.rows :=
      congrArg Memory.rows ((absorbs usage List.mem_cons_self).idle first)
    have contracts := (process_cases first).2.1
    have others := ih
      (fun other member => (billable other (List.mem_cons_of_mem _ member)).of_same rows contracts)
      (fun other member => (absorbs other (List.mem_cons_of_mem _ member)).of_same rows contracts)
    rw [rows] at others
    rw [List.forall_mem_cons, ← others, ← rises_iff]
    simp [RisesThrough, first]

/-- A summary that comes again is acknowledged exactly if no total of it lies below the last one on
record. -/
theorem risesThrough_again {delivery : Delivery ℚ} {summary : TallySummary ℚ}
    {left again : World (Memory ℚ) ℚ} (summaries : delivery.topic = Topic.tallySummary)
    (processed : (handle settings delivery).exec w = some (.ok ⟨⟩, left))
    (decoded : TallySummary.record.decoder delivery.payload.canonical = .ok summary)
    (rows : again.storage.rows = left.storage.rows) (contracts : again.contracts = left.contracts) :
    RisesThrough settings (summary.usages settings.catalog) again ↔
      ∀ usage ∈ summary.usages settings.catalog,
        Follows usage.currentTotal (left.storage.rows.get? usage.key) := by
  obtain ⟨_, results, same, passed, ok⟩ := handle_ok summaries processed
  obtain rfl := Except.ok.inj (decoded.symm.trans same)
  have absorbs : ∀ usage ∈ summary.usages settings.catalog, Absorbs settings usage left :=
    pass_brings (fun usage w result w' ran => Absorbs.once ran)
      (fun usage other w result w' absorbs ran => absorbs.processed ran) passed
  rw [← rows]
  exact risesThrough_iff
    (fun usage member => (billable_of_pass passed ok usage member).of_same rows contracts)
    (fun usage member => (absorbs usage member).of_same rows contracts)

end Exactly

/-- The hours come again, with the rows and the contracts that are left. -/
def hoursAgain (left : World (Memory ℚ) ℚ) : World (Memory ℚ) ℚ :=
  { opening with
    contracts := left.contracts
    storage := ⟨left.storage.rows, (MessageQueue.empty {}).publish
      ⟨Topic.tallySummary, fourHours.toJson, [], none⟩ ⟨0, 0⟩⟩ }

theorem repeated_summary_settled_hours :
    let tally : Delivery ℚ := ⟨1, Topic.tallySummary, fourHours.toJson, [], 1⟩
    ∃ left, (handle soldByHours tally).exec opening = some (.ok ⟨⟩, left) ∧
      ∃ last, (processNext soldByHours Topic.tallySummary).exec (hoursAgain left) =
        some (.ok (some .acked), last) := by
  intro tally
  have handled : ((handle soldByHours tally).exec opening).map (fun p =>
      (p.1, (p.2.storage.rows.get? (hoursRun 4).key).map (·.lastTotal))) =
        some (.ok ⟨⟩, some 4) := by
    decide +kernel
  have totals : (TallySummary.record.decoder tally.payload.canonical).toOption.map (fun summary =>
      (summary.usages soldByHours.catalog).map fun usage => (usage.key, usage.currentTotal)) =
        some [((hoursRun 4).key, 4)] := by
    decide +kernel
  obtain ⟨⟨result, left⟩, ran, seen⟩ := Option.map_eq_some_iff.mp handled
  obtain ⟨rfl, stored⟩ := Prod.mk.inj seen
  refine ⟨left, ran, ?_⟩
  have rows : (hoursAgain left).storage.rows = left.storage.rows := rfl
  have claimed : (MessageBus.claim Topic.tallySummary).exec (hoursAgain left) =
    some (.ok (some tally), _) := rfl
  obtain ⟨summary, settlement, last, decoded, settled, ⟨rfl, _⟩ | ⟨_, falls, _⟩⟩ :=
    repeated_summary_settled rfl ran rows rfl claimed rfl
  · exact ⟨last, settled⟩
  · refine (falls ((risesThrough_again rfl ran decoded ?rows ?contracts).mpr ?totals)).elim
    case rows => exact rows
    case contracts => rfl
    case totals =>
      intro usage member row present
      rw [decoded] at totals
      have same : (usage.key, usage.currentTotal) = ((hoursRun 4).key, 4) :=
        List.mem_singleton.mp (Option.some.inj totals ▸ List.mem_map_of_mem member)
      obtain ⟨key, total⟩ := Prod.mk.inj same
      rw [key] at present
      obtain ⟨other, found, last⟩ := Option.map_eq_some_iff.mp stored
      obtain rfl : row = other := Option.some.inj (present.symm.trans found)
      rw [last, total]
      exact le_add_of_nonneg_right Exact.slack_pos.le

/-- Two totals of one key, the second one above the first. -/
def growingHours : TallySummary ℚ where
  orgId := "org"
  snapshots := fourHours.snapshots ++ [⟨⟨8⟩, "machine", ⟨0, 0⟩, "premium", "production", .aws,
    some "account", none, .hourly, some [⟨"PHYSICAL", "hours", 5, 9⟩]⟩]

/-- The worker handles a summary with two totals of a key, and stops before it acknowledges it. When
the message is delivered again it is set aside. -/
theorem growing_totals_set_aside :
    let again : Engine (Memory ℚ) ℚ (Option Settlement) := do
      discard (MessageBus.publish ⟨Topic.tallySummary, growingHours.toJson, [], none⟩)
      let some delivery ← MessageBus.claim Topic.tallySummary | return none
      handle soldByHours delivery
      MessageBus.retry delivery (.remark "stopped")
      modify fun w => { w with now := ⟨60, 0⟩ }
      processNext soldByHours Topic.tallySummary
    (again.exec opening).map (·.1) = some (.ok (some .poisoned)) := by
  decide +kernel

end MeteredBilling.Engine
