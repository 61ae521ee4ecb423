import MeteredBilling.Engine.Retention
import MeteredBilling.Proofs.Changes
import MeteredBilling.Proofs.Dates
import MeteredBilling.Proofs.Isolation

/-!
# Purges

Retention of at least 31 days bills nothing again: a purge leaves the row of a month alone for as
long as the month is observed, and a row that a purge deletes is observed no more.
-/

namespace MeteredBilling

open Calendar

variable {α : Type}

/-! ### Bills and age -/

/-- What decides on the bills and the age of a row, with the rest of it left blank. -/
def Remittance.standing (row : Remittance α) : Remittance α :=
  { row with
    id := ⟨0⟩
    status := .pending
    errorCode := none
    billedOn := none
    retryAfter := none
    tallyId := ⟨0⟩
    updatedAt := row.pendingDate }

theorem Json.get?_without {name other : String} (different : other ≠ name) (payload : Json α) :
    (payload.without other).get? name = payload.get? name := by
  cases payload with
  | obj members =>
    simp only [without, get?, ← List.filter_reverse, List.find?_filter]
    congr 2
    funext member
    by_cases named : member.1 = name
    · simp [named, Ne.symm different]
    · simp [named]
  | _ => rfl

theorem billedValue_without (payload : Json ℚ) :
    billedValue (payload.without "remittance_id") = billedValue payload := by
  rw [billedValue, billedValue, memberAmount, memberAmount, Json.get?_without (by decide)]

variable [Amount α]

/-- What a call makes of a row, but for the parts that do not count, is decided by the parts of the
row that do. -/
theorem LedgerCall.view_standing (call : LedgerCall α) {row row' : Option (Remittance α)}
    (same : row.map (·.standing) = row'.map (·.standing)) :
    (call.view row).row.map (·.standing) = (call.view row').row.map (·.standing) ∧
      (call.view row).events = (call.view row').events := by
  have blind (row : Option (Remittance α)) :
      (call.view row).row.map (·.standing) =
          (call.view (row.map (·.standing))).row.map (·.standing) ∧
        (call.view row).events = (call.view (row.map (·.standing))).events := by
    have computed : Calculation.compute call.usage.currentTotal call.unit row call.coverage =
        Calculation.compute call.usage.currentTotal call.unit (row.map (·.standing))
          call.coverage := by
      cases row <;> rfl
    rw [view, view, computed]
    split
    · cases row <;> exact ⟨rfl, rfl⟩
    · split
      · cases row <;> exact ⟨rfl, rfl⟩
      · cases row <;> exact ⟨rfl, rfl⟩
  obtain ⟨rows, events⟩ := blind row
  obtain ⟨rows', events'⟩ := blind row'
  rw [rows, rows', events, events', same]
  exact ⟨rfl, rfl⟩

theorem Upkeep.standing_effect (u : Upkeep α) (now : Instant) (key : RemittanceKey) :
    ∃ act : Option (Remittance α) → Option (Remittance α), ∀ m : Memory α, m.rows.Single key →
      ((u.effect m now).rows.get? key).map (·.standing) =
        act ((m.rows.get? key).map (·.standing)) := by
  cases u with
  | acknowledge feedback =>
    refine ⟨id, fun m _ => ?_⟩
    simp only [effect]
    split
    · exact RowTable.map_modify _ _ fun _ => rfl
    · rfl
  | redeliver event header =>
    refine ⟨id, fun m _ => ?_⟩
    simp only [effect, Memory.markRetry]
    split
    · split
      · rfl
      · exact RowTable.map_modifyFirst _ _ fun _ => rfl
    · rfl
  | giveUp cutoff => exact ⟨id, fun m _ => RowTable.map_modify _ _ fun _ => rfl⟩
  | reset request =>
    refine ⟨Option.map fun row =>
      (if request.selects row then RowTable.resetAmounts now row else row).standing, fun m _ => ?_⟩
    rw [effect, RowTable.get?_modify, Option.map_map, Option.map_map]
    congr 1
    funext row
    have blind : request.selects row.standing = request.selects row := rfl
    simp only [Function.comp_apply, blind]
    split <;> rfl
  | expire orgId cutoff =>
    exact ⟨_, fun m single => RowTable.map_remove single fun _ => rfl⟩
  | deleteOrg orgId =>
    exact ⟨_, fun m single => RowTable.map_remove single fun _ => rfl⟩

/-- A row keeps its date, unless its key is observed. -/
theorem RowChange.dated {operation : Operation α} {now : Instant} {fresh : Uuid}
    {key : RemittanceKey} {before after : Option (Remittance α)}
    (change : RowChange now fresh key operation before after) :
    ∀ later ∈ after, (∃ row ∈ before, row.pendingDate = later.pendingDate) ∨
      later.pendingDate = now ∧ ∃ usage unit coverage, operation = .observe usage unit coverage ∧
        usage.key = key := by
  intro later stored
  cases change with
  | same => exact .inl ⟨later, stored, rfl⟩
  | written own =>
    cases stored
    exact .inr ⟨rfl, _, _, _, rfl, own⟩
  | @acknowledged _ _ row | @rescheduled _ _ _ row | @givenUp _ row | @reset _ row =>
    cases stored
    exact .inl ⟨row, rfl, rfl⟩
  | removed => cases stored

theorem Upkeep.dated (u : Upkeep α) {m : Memory α} {key : RemittanceKey} (now : Instant)
    (single : m.rows.Single key) : ∀ later ∈ (u.effect m now).rows.get? key,
      ∃ row ∈ m.rows.get? key, row.pendingDate = later.pendingDate := by
  intro later stored
  have change : RowChange now ⟨0⟩ key (.upkeep u) _ _ := RowChange.upkeep u single
  rcases change.dated later stored with before | ⟨_, _, _, _, observed, _⟩
  · exact before
  · cases observed

/-! ### The cutoff of a purge -/

/-- The longest month, in nanoseconds. -/
def month31 : Int := 31 * secondsPerDay * nanosPerSecond

/-- A cutoff that is made before some moment lies before the month of that moment. -/
theorem not_lt_cutoff {retention : Span} {moment later date cutoff : Instant}
    (long : month31 ≤ retention.nanos) (cut : moment.minus? retention = some cutoff)
    (before : moment ≤ later) (plain : moment.isLeap = false)
    (month : later.month = date.month) : ¬date < cutoff := by
  intro expired
  have old : date.second ≤ cutoff.second := by
    rw [Instant.lt_iff] at expired
    omega
  have passed : moment.second ≤ later.second := by
    rw [Instant.le_iff] at before
    omega
  have fraction : (moment.fraction : Int) < nanosPerSecond := by simpa [Instant.isLeap] using plain
  have back := Instant.nanos_minus? cut
  have near := second_of_month month
  simp only [month31, Instant.nanos, nanosPerSecond] at *
  omega

/-! ### Runs with purges -/

/-- What happens at a moment of a run in which old rows are purged. -/
inductive Occasion (α : Type)
  | call (call : LedgerCall α)
  | upkeep (moment : Instant) (u : Upkeep α)
  | purge (moment : Instant) (orgId : String)

namespace Occasion

omit [Amount α] in
def moment : Occasion α → Instant
  | call c => c.moment
  | upkeep moment _ | purge moment _ => moment

omit [Amount α] in
def isPurge : Occasion α → Bool
  | purge .. => true
  | _ => false

def perform (settings : EngineSettings α) : Occasion α → Engine (Memory α) α PUnit
  | call c => discard c.perform
  | upkeep moment u => do
    modify fun w => { w with now := moment }
    u.perform
  | purge moment orgId => do
    modify fun w => { w with now := moment }
    discard (Engine.purge settings orgId)

/-- The world that is left, whatever becomes of it. -/
def leave (settings : EngineSettings α) (w : World (Memory α) α) (occasion : Occasion α) :
    World (Memory α) α :=
  (((occasion.perform settings).exec w).map (·.2)).getD w

/-- The payloads that the ledger emits for a key. -/
def events (settings : EngineSettings α) (key : RemittanceKey) (w : World (Memory α) α) :
    Occasion α → List (Json α)
  | call c => (emitted w ((call c).leave settings w)).filter key.marks
  | _ => []

variable {settings : EngineSettings α} {key : RemittanceKey} {w : World (Memory α) α}

theorem leave_call (w : World (Memory α) α) (c : LedgerCall α) :
    (call c).leave settings w = LedgerCall.leave w c := by
  rw [leave, perform, Engine.exec_discard, Option.map_map]
  rfl

theorem storage_upkeep (w : World (Memory α) α) (moment : Instant) (u : Upkeep α) :
    ((upkeep moment u).leave settings w).storage = u.effect w.storage moment := by
  obtain ⟨result, notices, ran⟩ := u.exec_perform { w with now := moment }
  rw [leave, perform, Engine.exec_bind, Engine.exec_modify, Option.bind_some, Engine.proceed_ok,
    ran]
  rfl

/-- A purge deletes what expires, unless nothing does. -/
theorem storage_purge (settings : EngineSettings α) (w : World (Memory α) α) (moment : Instant)
    (orgId : String) :
    ((purge moment orgId).leave settings w).storage = w.storage ∨
      ∃ retention ∈ settings.retention, ∃ cutoff, moment.minus? retention = some cutoff ∧
        ((purge moment orgId).leave settings w).storage =
          (Upkeep.expire orgId cutoff).effect w.storage moment := by
  cases kept : settings.retention with
  | none =>
    left
    simp [leave, perform, Engine.purge, kept]
  | some retention =>
    cases cut : moment.minus? retention with
    | none =>
      left
      simp [leave, perform, Engine.purge, kept, cut]
    | some cutoff =>
      refine .inr ⟨retention, rfl, cutoff, cut, ?_⟩
      have removed (w : World (Memory α) α) :
          (RowStore.deleteOlderThan orgId cutoff : Engine (Memory α) α Nat).exec w =
            some (.ok (w.storage.rows.count (RowTable.isExpired orgId cutoff)),
              { w with storage := (Upkeep.expire orgId cutoff).effect w.storage w.now }) := rfl
      simp [leave, perform, Engine.purge, kept, cut, removed, Upkeep.effect]

theorem single_leave (occasion : Occasion α) (single : w.storage.rows.Single key) :
    (occasion.leave settings w).storage.rows.Single key := by
  cases occasion with
  | call c =>
    rw [leave_call, LedgerCall.leave_eq]
    exact World.single_after _ single
  | upkeep moment u =>
    rw [storage_upkeep]
    exact u.single_effect single
  | purge moment orgId =>
    rcases storage_purge settings w moment orgId with same | ⟨_, _, cutoff, _, same⟩
    · rwa [same]
    · rw [same]
      exact Upkeep.single_effect _ single

/-- The date of a row is that of the row before, unless its key is observed at that moment. -/
theorem dated (occasion : Occasion α) (single : w.storage.rows.Single key) :
    ∀ later ∈ (occasion.leave settings w).storage.rows.get? key,
      (∃ row ∈ w.storage.rows.get? key, row.pendingDate = later.pendingDate) ∨
        ∃ c, occasion = call c ∧ c.usage.key = key ∧ later.pendingDate = c.moment := by
  intro later stored
  cases occasion with
  | call c =>
    rw [leave_call, LedgerCall.leave_eq] at stored
    have change := World.row_change (w := { w with now := c.moment })
      (.observe c.usage c.unit c.coverage) single
    rcases change.dated later stored with before | ⟨written, usage, _, _, same, own⟩
    · exact .inl before
    · cases same
      exact .inr ⟨c, rfl, own, written⟩
  | upkeep moment u =>
    rw [storage_upkeep] at stored
    exact .inl (u.dated moment single later stored)
  | purge moment orgId =>
    rcases storage_purge settings w moment orgId with same | ⟨_, _, cutoff, _, same⟩
    · rw [same] at stored
      exact .inl ⟨later, stored, rfl⟩
    · rw [same] at stored
      exact .inl (Upkeep.dated _ moment single later stored)

theorem events_of_other {c : LedgerCall α} (other : c.usage.key ≠ key) :
    (call c).events settings key w = [] := by
  have nothing : eventsOf key (emitted w (LedgerCall.leave w c)) = [] :=
    (LedgerCall.of_other other).2
  rw [events, leave_call]
  exact List.map_eq_nil_iff.mp nothing

end Occasion

/-- The payloads that the ledger emits for a key in a run. -/
def World.ledgerEvents (settings : EngineSettings α) (key : RemittanceKey)
    (w : World (Memory α) α) : List (Occasion α) → List (Json α)
  | [] => []
  | occasion :: rest =>
    occasion.events settings key w ++
      (occasion.leave settings w).ledgerEvents settings key rest

/-- The clock never goes back and shows no leap second to a purge, and a key is observed in its
month alone. -/
structure Timely (key : RemittanceKey) (occasions : List (Occasion α)) : Prop where
  ordered : (occasions.map (·.moment)).Pairwise (· ≤ ·)
  plain : ∀ moment orgId, .purge moment orgId ∈ occasions → moment.isLeap = false
  within : ∀ c, .call c ∈ occasions → c.usage.key = key → Period.ofInstant c.moment = key.period

omit [Amount α] in
theorem Timely.rest {key : RemittanceKey} {occasion : Occasion α} {occasions : List (Occasion α)}
    (timely : Timely key (occasion :: occasions)) : Timely key occasions where
  ordered := (List.pairwise_cons.mp timely.ordered).2
  plain moment orgId member := timely.plain moment orgId (List.mem_cons_of_mem _ member)
  within c member := timely.within c (List.mem_cons_of_mem _ member)

/-- Of a key two worlds show the same bills and the same age, and its row, if there is one, was
written in the month that it bills. -/
structure Linked (key : RemittanceKey) (w v : World (Memory α) α) : Prop where
  single : w.storage.rows.Single key
  single' : v.storage.rows.Single key
  same : (w.storage.rows.get? key).map (·.standing) = (v.storage.rows.get? key).map (·.standing)
  month : ∀ row ∈ w.storage.rows.get? key, Period.ofInstant row.pendingDate = key.period

section Runs

variable {settings : EngineSettings α} {key : RemittanceKey} {w v : World (Memory α) α}
  {occasion : Occasion α} {occasions : List (Occasion α)}

/-- The ledger emits nothing for a key that is not observed. -/
theorem ledgerEvents_of_unobserved
    (unobserved : ∀ c, .call c ∈ occasions → c.usage.key ≠ key) :
    w.ledgerEvents settings key occasions = [] := by
  induction occasions generalizing w with
  | nil => rfl
  | cons occasion rest ih =>
    rw [World.ledgerEvents, ih fun c member => unobserved c (List.mem_cons_of_mem _ member),
      List.append_nil]
    cases occasion with
    | call c => exact Occasion.events_of_other (unobserved c List.mem_cons_self)
    | upkeep | purge => rfl

namespace Linked

/-- Worlds stay linked when the key is observed in its month, or not at all. -/
theorem leave (linked : Linked key w v)
    (within : ∀ c, occasion = .call c → c.usage.key = key →
      Period.ofInstant c.moment = key.period)
    (same : ((occasion.leave settings w).storage.rows.get? key).map (·.standing) =
      ((occasion.leave settings v).storage.rows.get? key).map (·.standing)) :
    Linked key (occasion.leave settings w) (occasion.leave settings v) where
  single := occasion.single_leave linked.single
  single' := occasion.single_leave linked.single'
  same := same
  month later stored := by
    rcases occasion.dated linked.single later stored with ⟨row, present, date⟩ | ⟨c, rfl, own, date⟩
    · exact date ▸ linked.month row present
    · exact date ▸ within c rfl own

theorem call (linked : Linked key w v) (settings : EngineSettings α) (c : LedgerCall α) :
    (((Occasion.call c).leave settings w).storage.rows.get? key).map (·.standing) =
        (((Occasion.call c).leave settings v).storage.rows.get? key).map (·.standing) ∧
      ((Occasion.call c).events settings key w).map (·.without "remittance_id") =
        ((Occasion.call c).events settings key v).map (·.without "remittance_id") := by
  rw [Occasion.events, Occasion.events, Occasion.leave_call, Occasion.leave_call]
  by_cases own : c.usage.key = key
  · subst own
    have blank : ((w.storage.rows.get? c.usage.key).map (·.anonymous)).map (·.standing) =
        ((v.storage.rows.get? c.usage.key).map (·.anonymous)).map (·.standing) := by
      rw [Option.map_map, Option.map_map]
      exact linked.same
    have views := c.view_standing blank
    rw [c.view_eq, c.view_eq, Option.map_map, Option.map_map] at views
    exact views
  · obtain ⟨row, nothing⟩ := LedgerCall.of_other (w := w) own
    obtain ⟨row', nothing'⟩ := LedgerCall.of_other (w := v) own
    rw [row, row']
    exact ⟨linked.same, nothing.trans nothing'.symm⟩

omit [Amount α] in
theorem of_row {w' : World (Memory α) α} (linked : Linked key w v)
    (single : w'.storage.rows.Single key)
    (kept : w'.storage.rows.get? key = w.storage.rows.get? key) : Linked key w' v where
  single := single
  single' := linked.single'
  same := by rw [kept, linked.same]
  month row stored := linked.month row (kept ▸ stored)

/-- No purge before another moment of the month takes the row away. -/
theorem purge (linked : Linked key w v) {moment later : Instant} (orgId : String)
    (long : ∀ retention ∈ settings.retention, month31 ≤ retention.nanos)
    (before : moment ≤ later) (plain : moment.isLeap = false)
    (month : Period.ofInstant later = key.period) :
    Linked key ((Occasion.purge moment orgId).leave settings w) v := by
  refine linked.of_row (Occasion.single_leave _ linked.single) ?_
  rcases Occasion.storage_purge settings w moment orgId with same |
    ⟨retention, kept, cutoff, cut, same⟩
  · rw [same]
  · rw [same, Upkeep.effect, RowTable.get?_remove _ linked.single]
    cases present : w.storage.rows.get? key with
    | none => rfl
    | some row =>
      have recent : ¬row.pendingDate < cutoff :=
        not_lt_cutoff (long retention kept) cut before plain
          (Period.ofInstant_eq_iff.mp (month.trans (linked.month row present).symm))
      simp [Option.filter, RowTable.isExpired, recent]

/-- Purges do not show in what the ledger emits for a key that is observed in its month alone. -/
theorem ledgerEvents (linked : Linked key w v)
    (long : ∀ retention ∈ settings.retention, month31 ≤ retention.nanos)
    (timely : Timely key occasions) :
    (w.ledgerEvents settings key occasions).map (·.without "remittance_id") =
      (v.ledgerEvents settings key (occasions.filter (!·.isPurge))).map
        (·.without "remittance_id") := by
  induction occasions generalizing w v with
  | nil => rfl
  | cons occasion rest ih =>
    have within : ∀ c, occasion = .call c → c.usage.key = key →
        Period.ofInstant c.moment = key.period := by
      rintro c rfl own
      exact timely.within c List.mem_cons_self own
    cases occasion with
    | call c =>
      obtain ⟨same, events⟩ := linked.call settings c
      rw [List.filter_cons_of_pos (by rfl), World.ledgerEvents, World.ledgerEvents, List.map_append,
        List.map_append, events, ih (linked.leave within same) timely.rest]
    | upkeep moment u =>
      have same : (((Occasion.upkeep moment u).leave settings w).storage.rows.get? key).map
            (·.standing) =
          (((Occasion.upkeep moment u).leave settings v).storage.rows.get? key).map
            (·.standing) := by
        obtain ⟨act, acts⟩ := u.standing_effect moment key
        rw [Occasion.storage_upkeep, Occasion.storage_upkeep, acts _ linked.single,
          acts _ linked.single', linked.same]
      exact ih (linked.leave within same) timely.rest
    | purge moment orgId =>
      rw [List.filter_cons_of_neg (by simp [Occasion.isPurge])]
      by_cases observed : ∃ c, .call c ∈ rest ∧ c.usage.key = key
      · obtain ⟨c, member, own⟩ := observed
        have before : moment ≤ c.moment :=
          (List.pairwise_cons.mp timely.ordered).1 c.moment (List.mem_map_of_mem member)
        have plain := timely.plain moment orgId List.mem_cons_self
        have kept := linked.purge orgId long before plain (timely.rest.within c member own)
        exact ih kept timely.rest
      · -- The row may be gone, and nothing is observed for it again.
        have never : ∀ c, .call c ∈ rest → c.usage.key ≠ key :=
          fun c member own => observed ⟨c, member, own⟩
        have nothing : ((Occasion.purge moment orgId).leave settings w).ledgerEvents settings key
          rest = [] := ledgerEvents_of_unobserved never
        rw [World.ledgerEvents, nothing, ledgerEvents_of_unobserved fun c member =>
          never c (List.mem_of_mem_filter member)]
        rfl

end Linked

end Runs

/-- Under a retention of at least 31 days, and without a row of the key at first: what the ledger
bills for a key that is observed in its month alone is what it bills without the purges, whichever
organisations they are for and whatever other operations there are. Without a retention purges
change nothing at all. -/
theorem purges_bill_nothing (settings : EngineSettings ℚ) {key : RemittanceKey}
    {start : World (Memory ℚ) ℚ} {occasions : List (Occasion ℚ)}
    (long : ∀ retention ∈ settings.retention, month31 ≤ retention.nanos)
    (absent : start.storage.rows.get? key = none) (timely : Timely key occasions) :
    ((start.ledgerEvents settings key occasions).map billedValue).sum =
        ((start.ledgerEvents settings key (occasions.filter (!·.isPurge))).map billedValue).sum ∧
      (settings.retention = none → ∀ (w : World (Memory ℚ) ℚ) orgId,
        (Engine.purge settings orgId).exec w = some (.ok none, w)) := by
  constructor
  · have single := RowTable.single_of_absent absent
    have linked : Linked key start start := by
      refine ⟨single, single, rfl, fun row present => ?_⟩
      rw [absent] at present
      cases present
    have billed (payloads : List (Json ℚ)) : payloads.map billedValue =
        (payloads.map (·.without "remittance_id")).map billedValue := by
      rw [List.map_map]
      exact List.map_congr_left fun payload _ => (billedValue_without payload).symm
    rw [billed, linked.ledgerEvents long timely, ← billed]
  · intro kept w orgId
    simp [Engine.purge, kept]

/-- Rows are kept for 31 days. -/
def keptForMonth : EngineSettings ℚ where
  catalog := ⟨[]⟩
  contractGrace := ⟨0⟩
  retention := some ⟨month31⟩
  stuckPendingAfter := ⟨0⟩

/-- Hours of a January are observed on its first and in its last second, old rows are purged right
before the last second and once more when the row is old enough. -/
def purgedHours : List (Occasion ℚ) :=
  [.call ⟨⟨0, 0⟩, hoursRun 4, ⟨some "hours", 2⟩, none⟩,
    .purge ⟨2678399, 0⟩ "org",
    .call ⟨⟨2678399, 0⟩, hoursRun 9, ⟨some "hours", 2⟩, none⟩,
    .purge ⟨5356800, 0⟩ "org"]

theorem purges_bill_nothing_hours :
    (∀ retention ∈ keptForMonth.retention, month31 ≤ retention.nanos) ∧
      opening.storage.rows.get? (hoursRun 0).key = none ∧ Timely (hoursRun 0).key purgedHours ∧
      ((opening.ledgerEvents keptForMonth (hoursRun 0).key purgedHours).map billedValue).sum = 18 ∧
      ((opening.ledgerEvents keptForMonth (hoursRun 0).key
        (purgedHours.filter (!·.isPurge))).map billedValue).sum = 18 := by
  have long : ∀ retention ∈ keptForMonth.retention, month31 ≤ retention.nanos := by
    rintro _ ⟨⟩
    exact le_rfl
  have absent : opening.storage.rows.get? (hoursRun 0).key = none := rfl
  have timely : Timely (hoursRun 0).key purgedHours := by
    refine ⟨by decide, fun moment orgId member => ?_, fun c member _ => ?_⟩
    · simp only [purgedHours, List.mem_cons, Occasion.purge.injEq, reduceCtorEq, false_or, or_false,
        List.not_mem_nil] at member
      rcases member with ⟨rfl, _⟩ | ⟨rfl, _⟩ <;> rfl
    · simp only [purgedHours, List.mem_cons, Occasion.call.injEq, reduceCtorEq, false_or, or_false,
        List.not_mem_nil] at member
      rcases member with rfl | rfl <;> decide +kernel
  have billed : ((opening.ledgerEvents keptForMonth (hoursRun 0).key
      (purgedHours.filter (!·.isPurge))).map billedValue).sum = 18 := by
    decide +kernel
  have same := (purges_bill_nothing keptForMonth long absent timely).1
  exact ⟨long, absent, timely, same.trans billed, billed⟩

end MeteredBilling
