import MeteredBilling.Proofs.Exact
import MeteredBilling.Proofs.Transactions

/-!
# Transactions on the ledger

What is said to reconcile a key and to put a row back to pending: one block for every attempt. A row
is written only after it was read in the same block, its event only after the row, and nothing at
all unless the decision is to write.
-/

namespace MeteredBilling.Sql

open Calendar Engine Session

variable {ρ α : Type}

namespace Reply

def row? (reply : Reply α) : Except BillingError (Option (Remittance α)) :=
  reply.outcome >>= fun found => found.remittanceRows.head?.mapM (·.toRow)

def written (reply : Reply α) : Except BillingError (Remittance α) :=
  reply.outcome >>= fun returned =>
    match returned.remittanceRows with
    | stored :: _ => stored.toRow
    | [] => .error (.persistence .rowNotFound)

def number (reply : Reply α) : Except BillingError Int :=
  reply.outcome >>= fun returned =>
    match returned.numberRows with
    | n :: _ => .ok n
    | [] => .error (.persistence .rowNotFound)

end Reply

/-- What is said to write an event, if there is one. -/
inductive Announces : Option (Outbound α) → Except BillingError Unit → List (Exchange α) → Prop
  | nothing : Announces none (.ok ⟨⟩) []
  | event {event : Outbound α} (receipt : Reply α) :
      Announces (some event) (receipt.number.map fun _ => ⟨⟩) [(.enqueue event, receipt)]

/-- What is said to write a row, and its event after it. -/
inductive Writes (row : Remittance α) (event : Option (Outbound α)) :
    Except BillingError (Remittance α) → List (Exchange α) → Prop
  | failed {put : Reply α} {e : BillingError} (failed : put.written = .error e) :
      Writes row event (.error e) [(.putRow (.ofRow row), put)]
  | written {put : Reply α} {stored : Remittance α} {result : Except BillingError Unit}
      {said : List (Exchange α)} (wrote : put.written = .ok stored)
      (announced : Announces event result said) :
      Writes row event (result.map fun _ => stored) ((.putRow (.ofRow row), put) :: said)

/-- What is said in one attempt to reconcile a key, and the result of it. -/
inductive Reconciles (key : RemittanceKey)
    (decide : Option (Remittance α) → Except BillingError (Decision α)) :
    Except BillingError (Outcome α) → List (Exchange α) → Prop
  | unread {read : Reply α} {e : BillingError} (failed : read.row? = .error e) :
      Reconciles key decide (.error e) [(.lockRow key, read)]
  | undecided {read : Reply α} {prior : Option (Remittance α)} {e : BillingError}
      (found : read.row? = .ok prior) (failed : decide prior = .error e) :
      Reconciles key decide (.error e) [(.lockRow key, read)]
  | kept {read : Reply α} {prior : Option (Remittance α)} {calculation : Calculation α}
      (found : read.row? = .ok prior) (keep : decide prior = .ok (.keep calculation)) :
      Reconciles key decide (.ok ⟨calculation, none⟩) [(.lockRow key, read)]
  | wrote {read : Reply α} {prior : Option (Remittance α)} {calculation : Calculation α}
      {row : Remittance α} {event : Option (Outbound α)}
      {written : Except BillingError (Remittance α)} {said : List (Exchange α)}
      (found : read.row? = .ok prior)
      (write : decide prior = .ok (.write calculation row event))
      (writes : Writes row event written said) :
      Reconciles key decide (written.map fun stored => ⟨calculation, some stored⟩)
        ((.lockRow key, read) :: said)

/-- What is said in one attempt to put a row back to pending, and the result of it. -/
inductive Reschedules (id : Uuid) (retryAfter : Instant) (republish : Option (Outbound α)) :
    Except BillingError (Option (Remittance α)) → List (Exchange α) → Prop
  | refused {reply : Reply α} {e : BillingError} (refused : reply.failure? = some e) :
      Reschedules id retryAfter republish (.error e) [(.reschedule id retryAfter, reply)]
  | absent {reply : Reply α} (accepted : reply.failure? = none)
      (nothing : reply.remittanceRows = []) :
      Reschedules id retryAfter republish (.ok none) [(.reschedule id retryAfter, reply)]
  | found {reply : Reply α} {stored : StoredRemittance α} {others : List (StoredRemittance α)}
      {announced : Except BillingError Unit} {said : List (Exchange α)}
      (accepted : reply.failure? = none) (found : reply.remittanceRows = stored :: others)
      (announces : Announces republish announced said) :
      Reschedules id retryAfter republish (announced >>= fun _ => stored.toRow.map some)
        ((.reschedule id retryAfter, reply) :: said)

namespace Session

variable [Server ρ α] {w : World (Session ρ α) α}

theorem decide_sends (decide : Decide α) (prior : Option (Remittance α)) :
    Says (Engine.decide decide prior) w fun result said =>
      result = decide w.now (w.mint (w.minted + 1)) prior ∧ said = [] := by
  by_cases taken : Decision.takesIdentifier prior (decide w.now (w.mint (w.minted + 1)) prior)
  · refine ⟨_, { w with minted := w.minted + 1 }, [], ?_,
      .silent rfl rfl rfl (Nat.le_add_right _ 1), rfl, rfl⟩
    simp [Engine.decide, taken]
  · refine .silent ?_ ⟨rfl, rfl⟩
    simp [Engine.decide, taken]

theorem reading_sends {β : Type} (statement : Statement α)
    (view : Reply α → Except BillingError β) :
    Says (send statement >>= fun reply => ofResult (view reply)) w fun result said =>
      ∃ reply : Reply α, said = [(statement, reply)] ∧ result = reply.outcome >>= view := by
  refine .send_bind (fun reply e refused => ?_) (fun reply _ accepted => .ofResult ?_)
  · exact ⟨reply, rfl, by simp [Reply.outcome, refused, bind, Except.bind]⟩
  · exact ⟨reply, rfl, by simp [Reply.outcome, accepted, bind, Except.bind]⟩

theorem rowOf?_sends (statement : Statement α) :
    Says (rowOf? statement) w fun result said =>
      ∃ reply : Reply α, said = [(statement, reply)] ∧ result = reply.row? :=
  reading_sends statement _

theorem putRow_sends (row : Remittance α) :
    Says (putRow row) w fun result said =>
      ∃ reply : Reply α, said = [(.putRow (.ofRow row), reply)] ∧ result = reply.written := by
  have same : (putRow row : Engine (Session ρ α) α (Remittance α)) =
      send (.putRow (.ofRow row)) >>= fun reply => ofResult (match reply.remittanceRows with
        | stored :: _ => stored.toRow
        | [] => .error (.persistence .rowNotFound)) := by
    refine bind_congr fun reply => ?_
    cases reply.remittanceRows <;> rfl
  rw [same]
  exact reading_sends _ _

theorem enqueue_sends (message : Outbound α) :
    Says (enqueue message) w fun result said =>
      ∃ reply : Reply α, said = [(.enqueue message, reply)] ∧ result = reply.number := by
  have same : (enqueue message : Engine (Session ρ α) α Int) = send (.enqueue message) >>=
      fun reply => ofResult (match reply.numberRows with
        | n :: _ => .ok n
        | [] => .error (.persistence .rowNotFound)) := by
    refine bind_congr fun reply => ?_
    cases reply.numberRows <;> rfl
  rw [same]
  exact reading_sends _ _

theorem announce_sends {β : Type} (event : Option (Outbound α))
    {f : Unit → Engine (Session ρ α) α β}
    {wanted : Except BillingError β → List (Exchange α) → Prop}
    (failed : ∀ e said, Announces event (.error e) said → wanted (.error e) said)
    (later : ∀ left said, Announces event (.ok ()) said →
      Says (f ()) left fun result more => wanted result (said ++ more)) :
    Says (match event with
      | some event => discard (enqueue event) >>= f
      | _ => f ()) w wanted := by
  cases event with
  | none => exact later w [] .nothing
  | some event =>
    have announced : Says (discard (enqueue event)) w (Announces (some event)) := by
      refine (enqueue_sends event).discard fun result said spoken => ?_
      obtain ⟨receipt, rfl, rfl⟩ := spoken
      exact .event receipt
    exact announced.bind failed fun _ left said _ spoken => later left said spoken

theorem write_sends (calculation : Calculation α) (row : Remittance α)
    (event : Option (Outbound α)) :
    Says (do
      let written ← putRow row
      if let some event := event then discard (enqueue event)
      return ⟨calculation, some written⟩ : Engine (Session ρ α) α (Outcome α)) w
      fun result said => ∃ written, Writes row event written said ∧
        result = written.map fun stored => ⟨calculation, some stored⟩ := by
  refine (putRow_sends row).bind (fun e said spoken => ?_) (fun stored left said _ spoken => ?_)
  · obtain ⟨put, rfl, failed⟩ := spoken
    exact ⟨.error e, .failed failed.symm, rfl⟩
  · obtain ⟨put, rfl, wrote⟩ := spoken
    let last : Unit → Engine (Session ρ α) α (Outcome α) :=
      fun _ => pure ⟨calculation, some stored⟩
    refine announce_sends event (f := last) (fun e said announced => ?_)
      (fun _ said announced => ?_)
    · exact ⟨.error e, .written wrote.symm announced, rfl⟩
    · refine .pure ⟨.ok stored, ?_, rfl⟩
      rw [List.append_nil]
      exact .written wrote.symm announced

theorem reconcileWork_sends (key : RemittanceKey) (decide : Decide α) :
    Says (reconcileWork key decide) w fun result said =>
      ∃ n, w.minted < n ∧ Reconciles key (decide w.now (w.mint n)) result said := by
  unfold reconcileWork
  refine (rowOf?_sends (.lockRow key)).bind (fun e said spoken => ?_)
    (fun prior left said spoke spoken => ?_)
  · obtain ⟨read, rfl, failed⟩ := spoken
    exact ⟨w.minted + 1, by omega, .unread failed.symm⟩
  · obtain ⟨read, rfl, found⟩ := spoken
    have fresh : w.minted < left.minted + 1 := Nat.lt_succ_of_le spoke.minted
    refine (decide_sends decide prior).bind (fun e said spoken => ?_)
      (fun taken left' said _ spoken => ?_)
    · obtain ⟨failed, rfl⟩ := spoken
      rw [spoke.now, spoke.mint] at failed
      exact ⟨left.minted + 1, fresh, .undecided found.symm failed.symm⟩
    · obtain ⟨decided, rfl⟩ := spoken
      rw [spoke.now, spoke.mint] at decided
      cases taken with
      | keep calculation => exact .pure ⟨left.minted + 1, fresh, .kept found.symm decided.symm⟩
      | write calculation row event =>
        refine (write_sends calculation row event).mono fun result said spoken => ?_
        obtain ⟨written, writes, rfl⟩ := spoken
        exact ⟨left.minted + 1, fresh, .wrote found.symm decided.symm writes⟩

theorem markRetryWork_sends (id : Uuid) (retryAfter : Instant) (republish : Option (Outbound α)) :
    Says (markRetryWork id retryAfter republish) w (Reschedules id retryAfter republish) := by
  unfold markRetryWork
  refine .send_bind (fun reply e refused => .refused refused) (fun reply _ accepted => ?_)
  cases found : reply.remittanceRows with
  | nil => exact .pure (.absent accepted found)
  | cons stored others =>
    -- the event goes out before the row that was put back is read
    dsimp only
    let last : Unit → Engine (Session ρ α) α (Option (Remittance α)) :=
      fun _ => ofResult stored.toRow >>= fun row => pure (some row)
    refine announce_sends republish (f := last) (fun e said spoken => ?_)
      (fun left said spoken => ?_)
    · exact .found accepted found spoken
    · have same : last () = ofResult (stored.toRow.map some) := by
        refine ext fun w => ?_
        cases read : stored.toRow <;> simp [last, read]
      rw [same]
      refine .ofResult ?_
      rw [List.append_nil]
      exact .found accepted found spoken

/-- On any server, whatever it answers at any point: reconciling a key and putting a row back to
pending say one block for every attempt, at most as many as the session allows, another one only
after a conflict of the work or the commit, and come to the result of the last one. In a block the
work says what its kind says on the row that was read there. -/
theorem transaction_protocol (w : World (Session ρ α) α) :
    (∀ key (decide : Decide α), ∃ result left blocks,
      (RowStore.reconcile key decide : Engine (Session ρ α) α (Outcome α)).exec w =
        some (result, left) ∧
      Conducted (fun worked said =>
          ∃ n, w.minted < n ∧ Reconciles key (decide w.now (w.mint n)) worked said)
        (max 1 w.storage.maxAttempts) w left result blocks) ∧
    ∀ id retryAfter (republish : Option (Outbound α)), ∃ result left blocks,
      (RowStore.markRetry id retryAfter republish :
        Engine (Session ρ α) α (Option (Remittance α))).exec w = some (result, left) ∧
      Conducted (Reschedules id retryAfter republish)
        (max 1 w.storage.maxAttempts) w left result blocks := by
  refine ⟨fun key decide => ?_, fun id retryAfter republish => ?_⟩
  · refine within_conducted (reconcileWork key decide) fun middle said spoke => ?_
    refine (reconcileWork_sends key decide).mono fun result said spoken => ?_
    obtain ⟨n, fresh, reconciled⟩ := spoken
    rw [spoke.now, spoke.mint] at reconciled
    exact ⟨n, Nat.lt_of_le_of_lt spoke.minted fresh, reconciled⟩
  · exact within_conducted (markRetryWork id retryAfter republish) fun _ _ _ =>
      markRetryWork_sends id retryAfter republish

/-! ### Dropped transactions -/

/-- The statements of a block that ends with its commit or its rollback. -/
inductive Brief : List (Statement α) → Prop
  | unopened : Brief [.begin]
  | unset : Brief [.begin, .serializable]
  | closed {body : List (Statement α)} {ending : Statement α}
      (work : ∀ statement ∈ body, statement.isControl = false)
      (ends : ending = .commit ∨ ending = .rollback) :
      Brief (.begin :: .serializable :: (body ++ [ending]))

def opens : Statement α → Bool
  | .begin => true
  | _ => false

def ends : Statement α → Bool
  | .commit | .rollback => true
  | _ => false

theorem Brief.ends_le {statements : List (Statement α)} (brief : Brief statements) :
    statements.countP ends ≤ statements.countP opens := by
  cases brief with
  | unopened => exact Nat.zero_le 1
  | unset => exact Nat.zero_le 1
  | @closed body ending work last =>
    have quiet : body.countP ends = 0 := by
      refine List.countP_eq_zero.mpr fun statement member ending => ?_
      have plain := work statement member
      cases statement <;> simp_all [ends, Statement.isControl]
    have one : [ending].countP ends ≤ 1 := List.countP_le_length
    calc (.begin :: .serializable :: (body ++ [ending])).countP ends
      _ = [ending].countP ends := by simp [quiet, ends]
      _ ≤ 1 := one
      _ ≤ (.begin :: .serializable :: (body ++ [ending])).countP opens := by
        rw [List.countP_cons_of_pos (by rfl)]
        exact Nat.le_add_left 1 _

theorem ends_le_of_brief {blocks : List (List (Statement α))} (brief : ∀ b ∈ blocks, Brief b) :
    blocks.flatten.countP ends ≤ blocks.flatten.countP opens := by
  induction blocks with
  | nil => exact Nat.le_refl _
  | cons b rest ih =>
    obtain ⟨first, others⟩ := List.forall_mem_cons.mp brief
    rw [List.flatten_cons, List.countP_append, List.countP_append]
    exact Nat.add_le_add first.ends_le (ih others)

/-- A server without rows, on which every commit meets a conflict. -/
structure Contended where

instance : Server Contended ℚ where
  answer
    | .commit, server => (.refused "40001" "could not serialize access", server)
    | _, server => (.affected 0, server)

def contended : World (Session Contended ℚ) ℚ where
  now := ⟨0, 0⟩
  mint n := ⟨BitVec.ofNat 128 n⟩
  minted := 0
  contracts _ := .ok []
  queries := []
  counters := .empty
  notices := []
  storage := ⟨⟨⟩, [], 1, {}⟩

/-- The transaction is dropped after its commit has failed, and is rolled back for that. -/
theorem commit_then_rollback :
    let sent : List (Statement ℚ) :=
      [.begin, .serializable, .reschedule ⟨1⟩ ⟨0, 0⟩, .commit, .rollback]
    ((RowStore.markRetry ⟨1⟩ ⟨0, 0⟩ none :
        Engine (Session Contended ℚ) ℚ (Option (Remittance ℚ))).exec contended).map
      (·.2.storage.sent) = some sent ∧
      ¬∃ blocks : List (List (Statement ℚ)), (∀ b ∈ blocks, Brief b) ∧ sent = blocks.flatten := by
  constructor
  · change ((withinFrom (markRetryWork ⟨1⟩ ⟨0, 0⟩ none) 0 1 :
      Engine (Session Contended ℚ) ℚ (Option (Remittance ℚ))).exec contended).map _ = _
    rw [withinFrom_eq]
    rfl
  · rintro ⟨blocks, brief, same⟩
    have balanced := ends_le_of_brief brief
    rw [← same] at balanced
    exact absurd balanced (by decide)

end Session
end MeteredBilling.Sql
