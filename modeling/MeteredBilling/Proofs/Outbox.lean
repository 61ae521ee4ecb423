import MeteredBilling.Proofs.Doubles
import MeteredBilling.Proofs.Observation
import MeteredBilling.Proofs.Processing

/-!
# The row and its event

Processing an observation writes the row of its key together with the event that bills it, or
changes neither a row nor a message. On doubles the event is left out under gratis coverage only.
-/

namespace MeteredBilling

/-- There is something to bill. -/
def Calculation.bills {α : Type} [Amount α] (c : Calculation α) : Bool := Amount.lt 0 c.billed

namespace Engine

open Calendar

section Decisions

variable {α : Type} [Amount α] {usage : Usage α} {unit : MeasureUnit α}
  {coverage : Option (Coverage α)} {w : World (Memory α) α}

theorem decisionOn_cases (usage : Usage α) (unit : MeasureUnit α) (coverage : Option (Coverage α))
    (w : World (Memory α) α) :
    (∃ e, decisionOn usage unit coverage w = .error e) ∨
      (∃ calculation, decisionOn usage unit coverage w = .ok (.keep calculation)) ∨
      ∃ calculation row,
        Calculation.compute usage.currentTotal unit (w.storage.rows.get? usage.key) coverage =
          .ok calculation ∧
        calculation.advances = true ∧ row.key = usage.key ∧
        decisionOn usage unit coverage w = .ok (.write calculation row
          (if calculation.bills then
            some (BillingEvent.ofRow row calculation.billed usage).toMessage else none)) := by
  rw [decisionOn_eq]
  cases computed : Calculation.compute usage.currentTotal unit (w.storage.rows.get? usage.key)
    coverage with
  | error e => exact .inl ⟨e, rfl⟩
  | ok calculation =>
    rw [map_ok]
    cases advances : calculation.advances with
    | false => exact .inr (.inl ⟨calculation, rfl⟩)
    | true => exact .inr (.inr ⟨calculation, _, rfl, advances, rfl, rfl⟩)

end Decisions

/-- An increment that advances the row is billed, unless the coverage is gratis. -/
theorem bills_eq {total : Float} {unit : MeasureUnit Float} {prior : Option (Remittance Float)}
    {coverage : Option (Coverage Float)} {calculation : Calculation Float}
    (usable : Amount.isUsableFactor unit.factor = true)
    (computed : Calculation.compute total unit prior coverage = .ok calculation)
    (advances : calculation.advances = true) :
    calculation.bills = !coverage.any (·.gratis) := by
  obtain ⟨remitted, free, _, rfl⟩ := Calculation.compute_ok computed
  simp only [Calculation.advances, Calculation.bills, Calculation.settled, Calculation.due]
    at advances ⊢
  cases coverage.any (·.gratis) with
  | true => exact Double.not_lt_zero
  | false => exact Double.billable_positive rfl usable advances

/-- The row is stored under the key of the observation in the place of the one that was there, all
other rows stay, and the one message that is new is the event of the row, unless it is gratis. -/
structure Recorded (usage : Usage Float) (gratis : Bool) (now : Instant)
    (before after : Memory Float) (calculation : Calculation Float) (row : Remittance Float) :
    Prop where
  key : row.key = usage.key
  stored : after.rows.get? usage.key = some row
  others : after.rows.entries.filter (·.1 ≠ usage.key) =
    before.rows.entries.filter (·.1 ≠ usage.key)
  unbilled : gratis = true → after.queue = before.queue
  billed : gratis = false → ∃ event : BillingEvent Float, event.remittanceId = row.id ∧
    event.key = row.key ∧ event.tallyId = row.tallyId ∧ event.factor = row.factor ∧
    event.billedValue = calculation.billed ∧
    after.queue = before.queue.publish (.ofPayload Topic.billableUsage event.toJson) now

/-- What became of an observation: the row and its event, or nothing at all. -/
def Recorded.OrNothing (usage : Usage Float) (gratis : Bool) (now : Instant)
    (before after : Memory Float) : Except BillingError (Outcome Float) → Prop
  | .ok ⟨calculation, some row⟩ => Recorded usage gratis now before after calculation row
  | .ok ⟨_, none⟩ | .error _ => after = before

theorem post_all_or_nothing (usage : Usage Float) {unit : MeasureUnit Float}
    (coverage : Option (Coverage Float)) (usable : Amount.isUsableFactor unit.factor = true)
    (w : World (Memory Float) Float) : ∃ result w',
      (post usage unit coverage).exec w = some (result, w') ∧
        Recorded.OrNothing usage (coverage.any (·.gratis)) w.now w.storage w'.storage result := by
  have applied := exec_apply usage unit coverage w
  rcases decisionOn_cases usage unit coverage w with ⟨e, refused⟩ | ⟨calculation, kept⟩ |
    ⟨calculation, row, computed, advances, key, written⟩
  · rw [refused] at applied
    exact ⟨_, w, exec_post_of_error applied, rfl⟩
  · rw [kept] at applied
    obtain ⟨counters, posted⟩ := exec_post_of_ok applied
    exact ⟨_, _, posted, rfl⟩
  · rw [written, bills_eq usable computed advances] at applied
    obtain ⟨counters, posted⟩ := exec_post_of_ok applied
    refine ⟨_, _, posted, key, RowTable.get?_put_self .., RowTable.entries_put_other .., ?_, ?_⟩
    · intro gratis
      rw [gratis]
      rfl
    · intro billed
      refine ⟨.ofRow row calculation.billed usage, rfl, rfl, rfl, rfl, rfl, ?_⟩
      rw [billed]
      rfl

/-- Whatever doubles, rows, messages, catalog and contracts there are: an error leaves all rows and
messages as they were, and so does a result without a row. With a row, that row and its event are
all that is new. Nothing results only if the grace for missing contracts leaves the calendar. -/
theorem process_all_or_nothing (settings : EngineSettings Float) (usage : Usage Float)
    (w : World (Memory Float) Float) :
    match (process settings usage).exec w with
    | some (.ok ⟨calculation, some row⟩, w') => ∃ coverage left,
      (resolveCoverage settings.catalog usage).exec w = some (.ok coverage, left) ∧
        Recorded usage coverage.gratis w.now w.storage w'.storage calculation row
    | some (.ok ⟨_, none⟩, w') => w'.storage = w.storage
    | some (.error _, w') => w'.storage = w.storage
    | none => w.now.minus? settings.contractGrace = none := by
  rw [process_eq, exec_bind]
  rcases price_cases settings usage w with ⟨unit, coverage, queries, counters, found, answer,
    priced⟩ | ⟨e, queries, notices, failed⟩ | ⟨nothing, left⟩
  · obtain ⟨result, w', posted, recorded⟩ := post_all_or_nothing usage
      (if settings.catalog.isContractEnabled usage.productId then some coverage else none)
      (usable_of_billingUnit found) { w with queries, counters }
    simp only [priced, Option.bind_some, proceed_ok, posted]
    rw [gratis_answered answer] at recorded
    match result, recorded with
    | .ok ⟨calculation, some row⟩, recorded => exact ⟨coverage, _, answer, recorded⟩
    | .ok ⟨_, none⟩, same => exact same
    | .error _, same => exact same
  · simp only [failed, Option.bind_some, proceed_error]
  · simp only [nothing, Option.bind_none]
    exact left

/-- Hours are billed in halves, without contracts. -/
def soldInHalves : EngineSettings Float where
  catalog := ⟨[⟨"machine", true, false, .hourly, [⟨"hours", 2, false, none, none, none⟩]⟩]⟩
  contractGrace := ⟨0⟩
  retention := none
  stuckPendingAfter := ⟨0⟩

/-- Nothing is stored or on its way. -/
def beforeHours : World (Memory Float) Float where
  now := ⟨0, 0⟩
  mint n := ⟨BitVec.ofNat 128 n⟩
  minted := 0
  contracts _ := .ok []
  queries := []
  counters := .empty
  notices := []
  storage := .empty {}

def fourthHour : Usage Float :=
  ⟨"org", ⟨7⟩, "machine", "hours", "premium", "production", .aws, "account", none, 4, 4, ⟨0, 0⟩⟩

/-- Four hours make a row and an event, both of eight halves. -/
theorem process_all_or_nothing_hours :
    ∃ calculation row left, (process soldInHalves fourthHour).exec beforeHours =
        some (.ok ⟨calculation, some row⟩, left) ∧
      Recorded fourthHour false ⟨0, 0⟩ beforeHours.storage left.storage calculation row ∧
      row.remitted = 8 ∧ left.storage.queue.messages.length = 1 ∧
      ∃ event : BillingEvent Float, event.remittanceId = row.id ∧ event.billedValue = 8 ∧
        left.storage.queue = beforeHours.storage.queue.publish
          (.ofPayload Topic.billableUsage event.toJson) ⟨0, 0⟩ := by
  have seen : ((process soldInHalves fourthHour).exec beforeHours).map (fun p =>
      (p.2.storage.queue.messages.length, p.1.toOption.bind fun outcome =>
        outcome.row.map fun row => (row.remitted, outcome.calculation.billed))) =
          some (1, some (8, 8)) := by
    decide +kernel
  have charged : ((resolveCoverage soldInHalves.catalog fourthHour).exec beforeHours).map
      (fun p => p.1.toOption.map (·.gratis)) = some (some false) := by
    decide +kernel
  have clock : beforeHours.now = ⟨0, 0⟩ := rfl
  -- From here on nothing is evaluated again.
  generalize beforeHours = w at seen charged clock ⊢
  have law := process_all_or_nothing soldInHalves fourthHour w
  generalize (process soldInHalves fourthHour).exec w = ending at law seen ⊢
  rcases ending with _ | ⟨_ | ⟨calculation, _ | row⟩, left⟩
  · exact nomatch seen
  · exact nomatch (Prod.mk.inj (Option.some.inj seen)).2
  · exact nomatch (Prod.mk.inj (Option.some.inj seen)).2
  · obtain ⟨coverage, _, answer, recorded⟩ := law
    rw [answer] at charged
    have gratis : coverage.gratis = false := Option.some.inj (Option.some.inj charged)
    rw [gratis, clock] at recorded
    obtain ⟨messages, amounts⟩ := Prod.mk.inj (Option.some.inj seen)
    obtain ⟨remitted, billed⟩ := Prod.mk.inj (Option.some.inj amounts)
    obtain ⟨event, own, _, _, _, value, published⟩ := recorded.billed rfl
    exact ⟨calculation, row, left, rfl, recorded, remitted, messages, event, own,
      value.trans billed, published⟩

end Engine
end MeteredBilling
