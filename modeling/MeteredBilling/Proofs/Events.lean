import MeteredBilling.Proofs.Operations

/-!
# Events of observations

The events that observations enqueue on exact amounts, read from the payloads on the outgoing
topic, and the parts of the row that an accepted observation leaves.
-/

namespace MeteredBilling

open Exact

/-- The amount of a member, 0 if there is none. -/
def memberAmount (name : String) (payload : Json ℚ) : ℚ :=
  match payload.get? name with
  | some (.real x) => x
  | _ => 0

/-- The amount that an event bills, in billing units. -/
def billedValue (payload : Json ℚ) : ℚ := memberAmount "billed_value" payload

/-- The amount that an event bills, in units of the metric. -/
def billedShare (payload : Json ℚ) : ℚ :=
  billedValue payload / memberAmount "billing_factor" payload

theorem memberAmount_event (event : BillingEvent ℚ) :
    memberAmount "billed_value" event.toJson = event.billedValue ∧
      memberAmount "billing_factor" event.toJson = event.factor := by
  constructor <;> simp [memberAmount, BillingEvent.toJson, Json.get?, RemittanceKey.members,
    Json.ofAmount, Amount.isFinite]

section Emitted

variable {α : Type} {w w' : World (Memory α) α}

/-- The payloads that a world has on the outgoing topic beyond those of an earlier one. -/
def emitted (w w' : World (Memory α) α) : List (Json α) :=
  (w'.storage.queue.payloads Topic.billableUsage).drop
    (w.storage.queue.payloads Topic.billableUsage).length

theorem emitted_of_same (same : w'.storage.queue = w.storage.queue) : emitted w w' = [] := by
  rw [emitted, same, List.drop_length]

theorem payloads_publish (queue : MessageQueue α) (message : Outbound α) (now : Calendar.Instant) :
    (queue.publish message now).payloads message.topic =
      queue.payloads message.topic ++ [message.payload] := by
  simp [MessageQueue.payloads, MessageQueue.publish]

theorem emitted_of_publish (message : Outbound α) {now : Calendar.Instant}
    (outgoing : message.topic = Topic.billableUsage)
    (published : w'.storage.queue = w.storage.queue.publish message now) :
    emitted w w' = [message.payload] := by
  rw [emitted, published, ← outgoing, payloads_publish, List.drop_left]

theorem emitted_trans {w'' : World (Memory α) α}
    (first : w.storage.queue.payloads Topic.billableUsage <+:
      w'.storage.queue.payloads Topic.billableUsage)
    (second : w'.storage.queue.payloads Topic.billableUsage <+:
      w''.storage.queue.payloads Topic.billableUsage) :
    emitted w w'' = emitted w w' ++ emitted w' w'' := by
  obtain ⟨events, middle⟩ := first
  obtain ⟨more, last⟩ := second
  simp only [emitted, ← last, ← middle, List.append_assoc, List.drop_left, List.length_append,
    ← List.drop_drop]

theorem payloads_grow [Amount α] (usage : Usage α) (unit : MeasureUnit α)
    (coverage : Option (Coverage α)) (topic : String) : w.storage.queue.payloads topic <+:
      (w.after (.observe usage unit coverage)).storage.queue.payloads topic := by
  rw [World.after_observe]
  split
  · rename_i taken _
    rcases taken with _ | ⟨_, _, _ | message⟩
    · exact List.prefix_rfl
    · exact List.prefix_rfl
    · exact ((List.prefix_append ..).filter _).map _
  · exact List.prefix_rfl

end Emitted

/-! ### A small world -/

/-- A world without rows and messages at the start of 1970. -/
def opening : World (Memory ℚ) ℚ where
  now := ⟨0, 0⟩
  mint n := ⟨BitVec.ofNat 128 n⟩
  minted := 0
  contracts _ := .ok []
  queries := []
  counters := .empty
  notices := []
  storage := .empty {}

/-- A total of hours that a machine has run. -/
def hoursRun (total : ℚ) : Usage ℚ where
  orgId := "org"
  tallyId := ⟨7⟩
  productId := "machine"
  metricId := "hours"
  sla := "premium"
  purpose := "production"
  provider := .aws
  accountId := "account"
  vendorProductCode := none
  value := total
  currentTotal := total
  snapshotDate := ⟨0, 0⟩

/-! ### An observation that is accepted -/

namespace World

open Engine

variable {w : World (Memory ℚ) ℚ} {usage : Usage ℚ} {unit : MeasureUnit ℚ}
  {coverage : Option (Coverage ℚ)}

theorem after_refused (falls : ¬Follows usage.currentTotal (w.storage.rows.get? usage.key)) :
    w.after (.observe usage unit coverage) = w := by
  obtain ⟨e, refused⟩ := decisionOn_refused unit coverage falls
  rw [after_observe, refused]

/-- The observation is due for so many whole units under a contract that is not gratis. -/
def charged (w : World (Memory ℚ) ℚ) (usage : Usage ℚ) (unit : MeasureUnit ℚ)
    (coverage : Option (Coverage ℚ)) : ℚ :=
  if coverage.any (·.gratis) then 0 else (calculationOn usage unit coverage w).consumed

/-- The observation is due for so many whole units under a gratis contract. -/
def given (w : World (Memory ℚ) ℚ) (usage : Usage ℚ) (unit : MeasureUnit ℚ)
    (coverage : Option (Coverage ℚ)) : ℚ :=
  if coverage.any (·.gratis) then (calculationOn usage unit coverage w).consumed else 0

variable (positive : 0 < unit.factor)
  (usable : ∀ row ∈ w.storage.rows.get? usage.key, 0 < row.factor)
  (follows : Follows usage.currentTotal (w.storage.rows.get? usage.key))

include positive usable follows

theorem after_idle (idle : (calculationOn usage unit coverage w).consumed = 0) :
    (w.after (.observe usage unit coverage)).storage = w.storage := by
  rw [after_observe, decisionOn_kept positive usable follows idle]
  rfl

theorem row_after_written (advances : 0 < (calculationOn usage unit coverage w).consumed) :
    (w.after (.observe usage unit coverage)).storage.rows.get? usage.key =
      some (rowOn usage unit coverage w) := by
  rw [after_observe, decisionOn_written positive usable follows advances]
  exact RowTable.get?_put_self ..

variable (coverage)

theorem parts_after :
    let row := (w.after (.observe usage unit coverage)).storage.rows.get? usage.key
    billedPart row = billedPart (w.storage.rows.get? usage.key) + charged w usage unit coverage ∧
      freePart row = freePart (w.storage.rows.get? usage.key) + given w usage unit coverage ∧
      ∀ row' ∈ row, 0 < row'.factor := by
  rcases idle_or_advances usage unit coverage w with idle | advances
  · simp only [after_idle positive usable follows idle, charged, given, idle, ite_self, add_zero,
      true_and]
    exact usable
  · simp only [row_after_written positive usable follows advances]
    refine ⟨billedPart_rowAfter _ _ _ _ _ positive, freePart_rowAfter _ _ _ _ _ positive, ?_⟩
    rintro row' ⟨⟩
    exact positive

theorem accountedFor_advanced :
    accountedFor ((w.after (.observe usage unit coverage)).storage.rows.get? usage.key) =
      accountedFor (w.storage.rows.get? usage.key) +
        (calculationOn usage unit coverage w).consumed := by
  obtain ⟨billed, free, _⟩ := parts_after coverage positive usable follows
  have split : charged w usage unit coverage + given w usage unit coverage =
      (calculationOn usage unit coverage w).consumed := by
    unfold charged given
    split <;> ring
  rw [accountedFor_eq, billed, free]
  linarith [accountedFor_eq (w.storage.rows.get? usage.key)]

theorem accountedFor_after {n : ℤ} (whole : accountedFor (w.storage.rows.get? usage.key) = n) :
    accountedFor ((w.after (.observe usage unit coverage)).storage.rows.get? usage.key) =
      max (accountedFor (w.storage.rows.get? usage.key))
        (required usage.currentTotal unit.factor coverage) := by
  have consumed : (calculationOn usage unit coverage w).consumed = _ := consumed_of_whole whole
  rw [accountedFor_advanced coverage positive usable follows, consumed]
  ring

theorem lt_accountedFor_after :
    max 0 (usage.currentTotal - coveredPart unit.factor coverage) - slack <
      accountedFor ((w.after (.observe usage unit coverage)).storage.rows.get? usage.key) := by
  rw [accountedFor_advanced coverage positive usable follows]
  have rounded := lt_roundUp (max (max (usage.currentTotal - coveredPart unit.factor coverage) 0 -
    accountedFor (w.storage.rows.get? usage.key)) 0)
  have room := le_max_left (max (usage.currentTotal - coveredPart unit.factor coverage) 0 -
    accountedFor (w.storage.rows.get? usage.key)) 0
  rw [max_comm 0]
  change _ < _ + ((roundUp _ : ℤ) : ℚ)
  linarith

theorem emitted_written (advances : 0 < (calculationOn usage unit coverage w).consumed) :
    emitted w (w.after (.observe usage unit coverage)) =
      if coverage.any (·.gratis) then [] else [(eventOn usage unit coverage w).toJson] := by
  rw [after_observe, decisionOn_written positive usable follows advances]
  cases coverage.any (·.gratis) with
  | true => exact emitted_of_same rfl
  | false => exact emitted_of_publish (eventOn usage unit coverage w).toMessage rfl rfl

theorem emitted_after :
    let events := emitted w (w.after (.observe usage unit coverage))
    (events.map billedValue).sum = charged w usage unit coverage * unit.factor ∧
      (events.map billedShare).sum = charged w usage unit coverage := by
  rcases idle_or_advances usage unit coverage w with idle | advances
  · have same := congrArg Memory.queue (after_idle positive usable follows idle)
    simp [emitted_of_same same, charged, idle]
  · simp only [emitted_written coverage positive usable follows advances, charged]
    cases free : coverage.any (·.gratis) with
    | true => simp
    | false =>
      obtain ⟨value, factor⟩ := memberAmount_event (eventOn usage unit coverage w)
      have billed : (calculationOn usage unit coverage w).billed =
          (calculationOn usage unit coverage w).consumed * unit.factor := by
        simp [calculationOn, exactly, free]
      have share := mul_div_cancel_right₀ (calculationOn usage unit coverage w).consumed positive.ne'
      simp only [Bool.false_eq_true, if_false, List.map_cons, List.map_nil, List.sum_cons,
        List.sum_nil, add_zero, billedShare, billedValue, value, factor]
      exact ⟨billed, by rw [← share, ← billed]; rfl⟩

end World
end MeteredBilling
