import MeteredBilling.Proofs.Events
import MeteredBilling.Proofs.Months

/-!
# Isolation of keys

What the ledger does for one key depends on the observations of that key alone, but for the
identifiers of new rows. Observations of another key, as those of another month are, leave its row,
its outcomes and its events as they are without them.
-/

namespace MeteredBilling

open Calendar

variable {α : Type}

/-! ### Beside the identifier -/

/-- The row without its identifier. -/
def Remittance.anonymous (row : Remittance α) : Remittance α := { row with id := ⟨0⟩ }

def Outcome.anonymous (outcome : Outcome α) : Outcome α :=
  { outcome with row := outcome.row.map Remittance.anonymous }

def Json.without (name : String) : Json α → Json α
  | obj members => obj (members.filter (·.1 != name))
  | other => other

/-- The payload has the members of the key. -/
def RemittanceKey.marks (key : RemittanceKey) (payload : Json α) : Bool :=
  (key.members : List (String × Json α)).all fun (name, value) =>
    match value, payload.get? name with
    | .str text, some (.str found) => text == found
    | _, _ => false

/-- The events of a key among payloads, without the identifier of its row. -/
def eventsOf (key : RemittanceKey) (payloads : List (Json α)) : List (Json α) :=
  (payloads.filter key.marks).map (·.without "remittance_id")

theorem eventsOf_append (key : RemittanceKey) (payloads more : List (Json α)) :
    eventsOf key (payloads ++ more) = eventsOf key payloads ++ eventsOf key more := by
  rw [eventsOf, List.filter_append, List.map_append]
  rfl

theorem Provider.text_inj {p q : Provider} (same : p.text = q.text) : p = q := by
  cases p <;> cases q <;> first | rfl | exact absurd same (by decide)

variable [Amount α]

theorem marks_event {key : RemittanceKey} {event : BillingEvent α} :
    key.marks event.toJson = true ↔ key = event.key := by
  have members : key.marks event.toJson = true ↔ key.orgId = event.key.orgId ∧
      key.productId = event.key.productId ∧ key.metricId = event.key.metricId ∧
      key.sla = event.key.sla ∧ key.purpose = event.key.purpose ∧
      key.provider.text = event.key.provider.text ∧ key.accountId = event.key.accountId ∧
      key.period.text = event.key.period.text := by
    simp [RemittanceKey.marks, RemittanceKey.members, BillingEvent.toJson, Json.get?]
  rw [members]
  constructor
  · rintro ⟨org, product, metric, sla, purpose, provider, account, period⟩
    have sameProvider := Provider.text_inj provider
    have samePeriod : key.period = event.key.period := congrArg Period.mk period
    generalize event.key = other at *
    cases key
    cases other
    simp_all
  · rintro rfl
    exact ⟨rfl, rfl, rfl, rfl, rfl, rfl, rfl, rfl⟩

theorem without_event (event : BillingEvent α) (id : Uuid) :
    ({ event with remittanceId := id }).toJson.without "remittance_id" =
      event.toJson.without "remittance_id" := by
  simp only [BillingEvent.toJson, Json.without, List.cons_append, List.filter_cons,
    bne_self_eq_false, Bool.false_eq_true, if_false]

theorem compute_anonymous {total : α} {unit : MeasureUnit α} {coverage : Option (Coverage α)}
    {row row' : Option (Remittance α)}
    (same : row.map (·.anonymous) = row'.map (·.anonymous)) :
    Calculation.compute total unit row coverage = Calculation.compute total unit row' coverage := by
  have blind (row : Option (Remittance α)) : Calculation.compute total unit row coverage =
      Calculation.compute total unit (row.map (·.anonymous)) coverage := by
    cases row <;> rfl
  rw [blind row, same, ← blind row']

theorem nextRow_anonymous {row row' : Option (Remittance α)}
    (same : row.map (·.anonymous) = row'.map (·.anonymous)) (usage : Usage α)
    (calculation : Calculation α) (now : Instant) (fresh fresh' : Uuid) :
    (Decision.nextRow usage row calculation now fresh).anonymous =
      (Decision.nextRow usage row' calculation now fresh').anonymous := by
  have blind (row : Option (Remittance α)) (fresh : Uuid) :
      (Decision.nextRow usage row calculation now fresh).anonymous =
        (Decision.nextRow usage (row.map (·.anonymous)) calculation now fresh).anonymous := by
    cases row <;> rfl
  rw [blind row, blind row', same]
  rfl

/-! ### One call -/

/-- A call of the ledger: an observation at a moment. -/
structure LedgerCall (α : Type) where
  moment : Instant
  usage : Usage α
  unit : MeasureUnit α
  coverage : Option (Coverage α)

/-- What shows of a key: its row, the outcomes of its calls and its events, all but for the
identifiers of rows. -/
@[ext]
structure View (α : Type) where
  row : Option (Remittance α)
  outcomes : List (Option (Except BillingError (Outcome α)))
  events : List (Json α)

namespace LedgerCall

def perform (call : LedgerCall α) : Engine (Memory α) α (Outcome α) := do
  modify fun w => { w with now := call.moment }
  Engine.apply call.usage call.unit call.coverage

def outcome (call : LedgerCall α) (w : World (Memory α) α) :
    Option (Except BillingError (Outcome α)) :=
  (call.perform.exec w).map fun p => p.1.map Outcome.anonymous

def leave (w : World (Memory α) α) (call : LedgerCall α) : World (Memory α) α :=
  ((call.perform.exec w).map (·.2)).getD w

def sent (call : LedgerCall α) (calculation : Calculation α) (next : Remittance α) :
    Option (BillingEvent α) :=
  if Amount.lt 0 calculation.billed then some (.ofRow next calculation.billed call.usage) else none

/-- What a call makes of a row without an identifier. -/
def view (call : LedgerCall α) (row : Option (Remittance α)) : View α :=
  match Calculation.compute call.usage.currentTotal call.unit row call.coverage with
  | .error e => ⟨row, [some (.error e)], []⟩
  | .ok calculation =>
    if calculation.advances then
      let next := (Decision.nextRow call.usage row calculation call.moment ⟨0⟩).anonymous
      ⟨some next, [some (.ok ⟨calculation, some next⟩)],
        ((call.sent calculation next).map (·.toJson.without "remittance_id")).toList⟩
    else ⟨row, [some (.ok ⟨calculation, none⟩)], []⟩

theorem leave_eq (w : World (Memory α) α) (call : LedgerCall α) : leave w call =
    ({ w with now := call.moment }).after (.observe call.usage call.unit call.coverage) := by
  rw [leave, perform, World.after_observe, Engine.exec_bind, Engine.exec_modify,
    Option.bind_some, Engine.proceed_ok, Engine.exec_apply]
  cases Engine.decisionOn call.usage call.unit call.coverage { w with now := call.moment } <;> rfl

theorem outcome_eq (call : LedgerCall α) (w : World (Memory α) α) : call.outcome w =
    some ((Engine.decisionOn call.usage call.unit call.coverage { w with now := call.moment }).map
      fun taken => (w.storage.commit call.usage.key call.moment taken).1.anonymous) := by
  rw [outcome, perform, Engine.exec_bind, Engine.exec_modify, Option.bind_some, Engine.proceed_ok,
    Engine.exec_apply]
  cases Engine.decisionOn call.usage call.unit call.coverage { w with now := call.moment } <;> rfl

variable {w : World (Memory α) α} {key : RemittanceKey}

theorem leave_cases (call : LedgerCall α) (w : World (Memory α) α) :
    let row := w.storage.rows.get? call.usage.key
    let computed := Calculation.compute call.usage.currentTotal call.unit row call.coverage
    (∃ e, computed = .error e ∧ call.outcome w = some (.error e) ∧
      (leave w call).storage = w.storage) ∨
    (∃ calculation, computed = .ok calculation ∧ calculation.advances = false ∧
      call.outcome w = some (.ok ⟨calculation, none⟩) ∧ (leave w call).storage = w.storage) ∨
    ∃ calculation fresh, computed = .ok calculation ∧ calculation.advances = true ∧
      let next := Decision.nextRow call.usage row calculation call.moment fresh
      call.outcome w = some (.ok ⟨calculation, some next.anonymous⟩) ∧
        (leave w call).storage = ⟨w.storage.rows.put call.usage.key next,
          w.storage.queue.publish? ((call.sent calculation next).map (·.toMessage))
            call.moment⟩ := by
  dsimp only
  rw [outcome_eq, leave_eq, World.after_observe, Engine.decisionOn_eq]
  cases read : Calculation.compute call.usage.currentTotal call.unit
    (w.storage.rows.get? call.usage.key) call.coverage with
  | error e => exact .inl ⟨e, rfl, rfl, rfl⟩
  | ok calculation =>
    simp only [Engine.map_ok]
    cases advances : calculation.advances with
    | false => exact .inr (.inl ⟨calculation, rfl, advances, rfl, rfl⟩)
    | true =>
      refine .inr (.inr ⟨calculation, w.mint (w.minted + 1), rfl, advances, rfl, ?_⟩)
      simp only [sent]
      cases Amount.lt 0 calculation.billed <;> rfl

theorem emitted_leave {call : LedgerCall α} {calculation : Calculation α} {next : Remittance α}
    {rows : RowTable α} (left : (leave w call).storage = ⟨rows,
      w.storage.queue.publish? ((call.sent calculation next).map (·.toMessage)) call.moment⟩) :
    emitted w (leave w call) = ((call.sent calculation next).map (·.toJson)).toList := by
  have queue := congrArg Memory.queue left
  cases event : call.sent calculation next with
  | none =>
    rw [event] at queue
    exact emitted_of_same queue
  | some event' =>
    rw [event] at queue
    exact emitted_of_publish event'.toMessage rfl queue

/-- The event of a call is one of its key, and shows nothing of the row but what stays without the
identifier. -/
theorem eventsOf_sent {call : LedgerCall α} {next : Remittance α} (own : next.key = call.usage.key)
    (calculation : Calculation α) :
    eventsOf key ((call.sent calculation next).map (·.toJson)).toList =
      if key = call.usage.key then
        ((call.sent calculation next.anonymous).map (·.toJson.without "remittance_id")).toList
      else [] := by
  rw [sent, sent]
  cases Amount.lt 0 calculation.billed with
  | false => simp [eventsOf]
  | true =>
    have marked : key.marks (BillingEvent.ofRow next calculation.billed call.usage).toJson =
        decide (key = call.usage.key) := by
      rw [Bool.eq_iff_iff, marks_event, decide_eq_true_iff, ← own]
      rfl
    have same := without_event (BillingEvent.ofRow next.anonymous calculation.billed call.usage)
      next.id
    change (BillingEvent.ofRow next calculation.billed call.usage).toJson.without _ = _ at same
    simp only [if_true, Option.map_some, Option.toList_some, eventsOf, List.filter_cons,
      List.filter_nil, marked]
    by_cases mine : key = call.usage.key
    · simp [mine, same]
    · simp [mine]

/-- What a call does for its key is decided by the row that the key has, without its identifier. -/
theorem view_eq (call : LedgerCall α) (w : World (Memory α) α) :
    call.view ((w.storage.rows.get? call.usage.key).map (·.anonymous)) =
      ⟨((leave w call).storage.rows.get? call.usage.key).map (·.anonymous), [call.outcome w],
        eventsOf call.usage.key (emitted w (leave w call))⟩ := by
  have blind : ((w.storage.rows.get? call.usage.key).map (·.anonymous)).map (·.anonymous) =
      (w.storage.rows.get? call.usage.key).map (·.anonymous) := by
    rw [Option.map_map]
    rfl
  rw [view, compute_anonymous blind]
  rcases call.leave_cases w with ⟨e, computed, outcome, same⟩ |
    ⟨calculation, computed, still, outcome, same⟩ |
    ⟨calculation, fresh, computed, advances, outcome, left⟩
  · rw [computed, outcome, same, emitted_of_same (congrArg _ same)]
    rfl
  · rw [computed, outcome, same, emitted_of_same (congrArg _ same)]
    simp only [still]
    rfl
  · have anonymous := nextRow_anonymous blind call.usage calculation call.moment ⟨0⟩ fresh
    rw [computed, outcome, emitted_leave left, eventsOf_sent rfl, left, RowTable.get?_put_self,
      Option.map_some]
    simp only [advances, if_true, anonymous]

theorem of_other (other : call.usage.key ≠ key) :
    (leave w call).storage.rows.get? key = w.storage.rows.get? key ∧
      eventsOf key (emitted w (leave w call)) = [] := by
  rcases call.leave_cases w with ⟨_, _, _, same⟩ | ⟨_, _, _, _, same⟩ | ⟨_, _, _, _, _, left⟩
  · rw [same, emitted_of_same (congrArg _ same)]
    exact ⟨rfl, rfl⟩
  · rw [same, emitted_of_same (congrArg _ same)]
    exact ⟨rfl, rfl⟩
  · rw [emitted_leave left, eventsOf_sent rfl, if_neg (Ne.symm other), left]
    exact ⟨RowTable.get?_put_other _ _ (Ne.symm other), rfl⟩

end LedgerCall

/-! ### Runs of calls -/

namespace View

def followedBy (first later : View α) : View α :=
  ⟨later.row, first.outcomes ++ later.outcomes, first.events ++ later.events⟩

/-- What calls for one key, one after the other, make of its row. -/
def ofCalls (row : Option (Remittance α)) : List (LedgerCall α) → View α
  | [] => ⟨row, [], []⟩
  | call :: rest => (call.view row).followedBy (ofCalls (call.view row).row rest)

end View

namespace World

variable {w : World (Memory α) α} {key : RemittanceKey}

def runCalls (w : World (Memory α) α) (calls : List (LedgerCall α)) : World (Memory α) α :=
  calls.foldl LedgerCall.leave w

def outcomes (key : RemittanceKey) (w : World (Memory α) α) :
    List (LedgerCall α) → List (Option (Except BillingError (Outcome α)))
  | [] => []
  | call :: rest =>
    if call.usage.key = key then call.outcome w :: outcomes key (LedgerCall.leave w call) rest
    else outcomes key (LedgerCall.leave w call) rest

/-- What a run of calls shows of a key. -/
def view (key : RemittanceKey) (w : World (Memory α) α) (calls : List (LedgerCall α)) : View α where
  row := ((w.runCalls calls).storage.rows.get? key).map (·.anonymous)
  outcomes := w.outcomes key calls
  events := eventsOf key (emitted w (w.runCalls calls))

theorem payloads_leave (w : World (Memory α) α) (call : LedgerCall α) :
    w.storage.queue.payloads Topic.billableUsage <+:
      (LedgerCall.leave w call).storage.queue.payloads Topic.billableUsage := by
  rw [LedgerCall.leave_eq]
  exact payloads_grow (w := { w with now := call.moment }) call.usage call.unit call.coverage
    Topic.billableUsage

theorem payloads_runCalls (w : World (Memory α) α) (calls : List (LedgerCall α)) :
    w.storage.queue.payloads Topic.billableUsage <+:
      (w.runCalls calls).storage.queue.payloads Topic.billableUsage := by
  induction calls generalizing w with
  | nil => exact List.prefix_rfl
  | cons call rest ih => exact (payloads_leave w call).trans (ih _)

theorem events_cons (call : LedgerCall α) (rest : List (LedgerCall α)) :
    (w.view key (call :: rest)).events = eventsOf key (emitted w (LedgerCall.leave w call)) ++
      ((LedgerCall.leave w call).view key rest).events := by
  have split := emitted_trans (payloads_leave w call)
    (payloads_runCalls (LedgerCall.leave w call) rest)
  simp only [view]
  rw [← eventsOf_append, ← split]
  rfl

theorem view_cons_own (call : LedgerCall α) (rest : List (LedgerCall α)) :
    w.view call.usage.key (call :: rest) =
      (call.view ((w.storage.rows.get? call.usage.key).map (·.anonymous))).followedBy
        ((LedgerCall.leave w call).view call.usage.key rest) := by
  rw [LedgerCall.view_eq]
  refine View.ext rfl ?_ (events_cons call rest)
  exact if_pos rfl

theorem view_cons_other {call : LedgerCall α} (other : call.usage.key ≠ key)
    (rest : List (LedgerCall α)) :
    w.view key (call :: rest) = (LedgerCall.leave w call).view key rest := by
  refine View.ext rfl (if_neg other) ?_
  rw [events_cons, (LedgerCall.of_other other).2]
  rfl

/-- A run shows of a key what the calls for the key, alone, make of its row. -/
theorem view_eq (w : World (Memory α) α) (key : RemittanceKey) (calls : List (LedgerCall α)) :
    w.view key calls = .ofCalls ((w.storage.rows.get? key).map (·.anonymous))
      (calls.filter (·.usage.key = key)) := by
  induction calls generalizing w with
  | nil =>
    have nothing : emitted w w = [] := emitted_of_same rfl
    simp only [view, runCalls, List.foldl_nil, nothing]
    rfl
  | cons call rest ih =>
    by_cases own : call.usage.key = key
    · subst own
      have row := congrArg View.row (call.view_eq w)
      rw [view_cons_own, List.filter_cons_of_pos (by simp), View.ofCalls, row, ih]
    · rw [view_cons_other own, List.filter_cons_of_neg (by simp [own]), ih,
        (LedgerCall.of_other own).1]

/-- Leaving out calls for other keys does not show at a key. -/
theorem view_filter {select : LedgerCall α → Bool} {calls : List (LedgerCall α)}
    (keeps : ∀ call ∈ calls, call.usage.key = key → select call = true) :
    w.view key calls = w.view key (calls.filter select) := by
  rw [view_eq, view_eq, List.filter_filter]
  congr 1
  refine List.filter_congr fun call member => ?_
  by_cases own : call.usage.key = key
  · simp [own, keeps call member own]
  · simp [own]

end World

/-- What a run of the ledger shows of a key, its row, its outcomes and its events, is what the calls
for that key alone show, and so is what the calls of its month show. Without a row for the key and
without calls of its month nothing shows: a new month starts from nothing. -/
theorem key_isolated (w : World (Memory α) α) (key : RemittanceKey) (calls : List (LedgerCall α)) :
    w.view key calls = w.view key (calls.filter (·.usage.key = key)) ∧
      ∀ usage : Usage α, usage.key = key →
        let inMonth := calls.filter (·.usage.snapshotDate.month = usage.snapshotDate.month)
        w.view key calls = w.view key inMonth ∧
          (w.storage.rows.get? key = none → inMonth = [] → w.view key calls = ⟨none, [], []⟩) := by
  refine ⟨World.view_filter fun call _ own => by simpa using own, fun usage own => ?_⟩
  intro inMonth
  have month : w.view key calls = w.view key inMonth := by
    refine World.view_filter fun call _ same => ?_
    have period : call.usage.period = usage.period :=
      congrArg RemittanceKey.period (same.trans own.symm)
    simpa using Period.ofInstant_eq_iff.mp period
  refine ⟨month, fun absent empty => ?_⟩
  rw [month, empty, World.view_eq, absent]
  rfl

end MeteredBilling
