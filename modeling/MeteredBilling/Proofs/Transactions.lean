import MeteredBilling.Proofs.Conversation

/-!
# Blocks of a transaction

Work in a transaction is said in blocks, one for every attempt. A block follows another one only
after a conflict, and the result is that of the last block.
-/

namespace MeteredBilling.Sql

open Engine Session

variable {ρ α β : Type}

/-- What is said when a transaction is dropped: it is rolled back, unless the connection is gone. -/
inductive Dropped (cause : BillingError) : List (Exchange α) → Prop
  | gone (disconnected : cause = .persistence .disconnected) : Dropped cause []
  | rolledBack (reply : Reply α) (connected : cause ≠ .persistence .disconnected) :
      Dropped cause [(.rollback, reply)]

/-- What is said when a block is rolled back for a cause. If that fails, the transaction is
dropped. -/
inductive RolledBack (cause : BillingError) : List (Exchange α) → Prop
  | gone (disconnected : cause = .persistence .disconnected) : RolledBack cause []
  | done {reply : Reply α} (connected : cause ≠ .persistence .disconnected)
      (accepted : reply.failure? = none) : RolledBack cause [(.rollback, reply)]
  | refused {reply : Reply α} {e : BillingError} {tail : List (Exchange α)}
      (connected : cause ≠ .persistence .disconnected) (refused : reply.failure? = some e)
      (dropped : Dropped e tail) : RolledBack cause ((.rollback, reply) :: tail)

/-- What is said to end a block by what came of its work, and the result of the block: a commit of
work that succeeded, and otherwise a rollback. -/
inductive Closed : Except BillingError β → List (Exchange α) → Except BillingError β → Prop
  | committed {v : β} {reply : Reply α} (accepted : reply.failure? = none) :
      Closed (.ok v) [(.commit, reply)] (.ok v)
  | refused {v : β} {reply : Reply α} {e : BillingError} {tail : List (Exchange α)}
      (refused : reply.failure? = some e) (dropped : Dropped e tail) :
      Closed (.ok v) ((.commit, reply) :: tail) (.error e)
  | rolledBack {e : BillingError} {tail : List (Exchange α)} (rolled : RolledBack e tail) :
      Closed (.error e) tail (.error e)

/-- How a block ends: before its work, or with a result. -/
inductive Ending (β : Type)
  | unopened (cause : BillingError)
  | closed (result : Except BillingError β)

namespace Ending

def result : Ending β → Except BillingError β
  | unopened cause => .error cause
  | closed result => result

def Conflict : Ending β → Prop
  | closed (.error e) => isConflict e = true
  | _ => False

end Ending

/-- What is said in one block for work that says what is expected. -/
inductive Block (Work : Except BillingError β → List (Exchange α) → Prop) :
    List (Exchange α) → Ending β → Prop
  | unopened {begun : Reply α} {e : BillingError} (refused : begun.failure? = some e) :
      Block Work [(.begin, begun)] (.unopened e)
  | unset {begun isolated : Reply α} {e : BillingError} {tail : List (Exchange α)}
      (opened : begun.failure? = none) (refused : isolated.failure? = some e)
      (dropped : Dropped e tail) :
      Block Work ((.begin, begun) :: (.serializable, isolated) :: tail) (.unopened e)
  | closed {begun isolated : Reply α} {worked result : Except BillingError β}
      {body tail : List (Exchange α)} (opened : begun.failure? = none)
      (set : isolated.failure? = none) (work : Work worked body)
      (closed : Closed worked tail result) :
      Block Work ((.begin, begun) :: (.serializable, isolated) :: (body ++ tail)) (.closed result)

/-- What a transaction says from one world to another: one block for every attempt, another one only
after a conflict and as long as attempts remain, and the result of the last one. -/
structure Conducted [Server ρ α] (Work : Except BillingError β → List (Exchange α) → Prop)
    (attempts : Nat) (w left : World (Session ρ α) α) (result : Except BillingError β)
    (blocks : List (List (Exchange α) × Ending β)) : Prop where
  sent : left.storage.sent = w.storage.sent ++ (blocks.flatMap (·.1)).map (·.1)
  replies : Talk w.storage.server (blocks.flatMap (·.1)) left.storage.server
  bounded : blocks.length ≤ attempts
  formed : ∀ b ∈ blocks, Block Work b.1 b.2
  again : ∀ b ∈ blocks.dropLast, b.2.Conflict
  last : ∃ b, blocks.getLast? = some b ∧ result = b.2.result ∧
    (b.2.Conflict → blocks.length = attempts)

namespace Session

variable [Server ρ α] {w : World (Session ρ α) α}
  {Work : Except BillingError β → List (Exchange α) → Prop}

theorem abandon_sends (cause : BillingError) :
    Says (abandon cause) w fun result said => result = .ok ⟨⟩ ∧ Dropped cause said := by
  unfold abandon
  by_cases gone : cause = .persistence .disconnected
  · rw [if_neg (fun connected => connected gone)]
    exact .pure ⟨rfl, .gone gone⟩
  · rw [if_pos gone]
    change Says (attempt (send .rollback) >>= fun _ => (pure ⟨⟩ : Engine (Session ρ α) α PUnit)) w _
    exact Says.attempt_bind (fun reply _ _ => .pure ⟨rfl, .rolledBack reply gone⟩)
      (fun reply _ _ _ => .pure ⟨rfl, .rolledBack reply gone⟩)

theorem rollBack_sends (cause : BillingError) :
    Says (rollBack cause) w fun result said => result = .ok ⟨⟩ ∧ RolledBack cause said := by
  unfold rollBack
  by_cases gone : cause = .persistence .disconnected
  · rw [if_pos gone]
    exact (Says.notice .rollbackFailed).mono fun _ _ nothing =>
      ⟨nothing.1, nothing.2 ▸ .gone gone⟩
  · rw [if_neg gone]
    refine Says.attempt_bind (fun reply _ accepted => ?_) (fun reply e _ refused => ?_)
    · exact .pure ⟨rfl, .done gone accepted⟩
    · refine (Says.notice .rollbackFailed).andThen fun left said _ nothing => ?_
      subst nothing
      refine (abandon_sends e).mono fun result said dropped => ⟨dropped.1, ?_⟩
      exact .refused gone refused dropped.2

theorem closeBlock_sends (worked : Except BillingError β) :
    Says (closeBlock worked) w fun result said =>
      ∃ closed, result = .ok closed ∧ Closed worked said closed := by
  unfold closeBlock
  cases worked with
  | ok v =>
    refine Says.attempt_bind (fun reply _ accepted => ?_) (fun reply e _ refused => ?_)
    · exact .pure ⟨_, rfl, .committed accepted⟩
    · refine (abandon_sends e).andThen fun left said _ dropped => ?_
      exact .pure ⟨_, rfl, by simpa using Closed.refused refused dropped⟩
  | error e =>
    refine (rollBack_sends e).andThen fun left said _ rolled => ?_
    exact .pure ⟨_, rfl, by simpa using Closed.rolledBack rolled⟩

theorem openBlock_sends (Work : Except BillingError β → List (Exchange α) → Prop) :
    Says (openBlock : Engine (Session ρ α) α PUnit) w fun result said =>
      (∃ e, result = .error e ∧ Block Work said (.unopened e)) ∨
        (result = .ok ⟨⟩ ∧ ∃ begun isolated : Reply α, begun.failure? = none ∧
          isolated.failure? = none ∧ said = [(.begin, begun), (.serializable, isolated)]) := by
  unfold openBlock
  rw [Says.discard_bind]
  refine .send_bind (fun begun e refused => ?_) (fun begun _ opened => ?_)
  · exact .inl ⟨e, rfl, .unopened refused⟩
  · refine .attempt_bind (fun isolated _ set => ?_) (fun isolated e _ refused => ?_)
    · exact .pure (.inr ⟨rfl, begun, isolated, opened, set, rfl⟩)
    · refine (abandon_sends e).andThen fun left said _ dropped => ?_
      exact .throw (.inl ⟨e, rfl, by simpa using Block.unset opened refused dropped⟩)

/-- What comes after a block, by the attempts that are left. -/
def goOn (work : Engine (Session ρ α) α β) (left number : Nat) : Ending β → Engine (Session ρ α) α β
  | .unopened e => throw e
  | .closed (.ok v) => pure v
  | .closed (.error e) =>
    match left with
    | 0 => throw e
    | left + 1 =>
      if isConflict e then do
        notice (.transactionConflict number)
        withinFrom work left (number + 1)
      else throw e

theorem withinFrom_eq (work : Engine (Session ρ α) α β) (left number : Nat) :
    withinFrom work left number = (openBlock >>= fun _ => attempt work >>= fun worked =>
      closeBlock worked >>= fun closed => goOn work left number (.closed closed)) := by
  -- the body of the recursion, which Lean has no equation for
  delta withinFrom
  cases left with
  | zero =>
    refine bind_congr (m := Engine (Session ρ α) α) (x := openBlock) fun _ => ?_
    refine bind_congr (m := Engine (Session ρ α) α) fun worked => ?_
    refine bind_congr (m := Engine (Session ρ α) α) fun closed => ?_
    cases closed <;> rfl
  | succ left =>
    refine bind_congr (m := Engine (Session ρ α) α) (x := openBlock) fun _ => ?_
    refine bind_congr (m := Engine (Session ρ α) α) fun worked => ?_
    refine bind_congr (m := Engine (Session ρ α) α) fun closed => ?_
    cases closed with
    | ok v => rfl
    | error e =>
      change _ = if isConflict e then
        notice (.transactionConflict number) >>= fun _ => withinFrom work left (number + 1)
        else throw e
      delta withinFrom
      rfl

theorem withinFrom_block (work : Engine (Session ρ α) α β) (left number : Nat)
    (talks : ∀ middle said, Spoke w middle said → Says work middle Work) :
    ∃ ending middle said, Block Work said ending ∧ Spoke w middle said ∧
      (withinFrom work left number).exec w = (goOn work left number ending).exec middle := by
  rw [withinFrom_eq]
  obtain ⟨_, opened, start, ran, spoke,
    ⟨e, rfl, block⟩ | ⟨rfl, begun, isolated, opens, sets, rfl⟩⟩ := openBlock_sends Work (w := w)
  · refine ⟨.unopened e, opened, start, block, spoke, ?_⟩
    rw [exec_bind, ran]
    rfl
  · obtain ⟨worked, done, body, works, spoke', meets⟩ := talks opened _ spoke
    obtain ⟨_, left', tail, closes, spoke'', closed, rfl, ends⟩ :=
      closeBlock_sends worked (w := done)
    refine ⟨.closed closed, left', _, .closed opens sets meets ends,
      spoke.trans (spoke'.trans spoke''), ?_⟩
    simp only [exec_bind, exec_attempt, ran, works, closes, Option.bind_some, Option.map_some,
      proceed_ok]

theorem goOn_stops (work : Engine (Session ρ α) α β) {left : Nat} (number : Nat) {ending : Ending β}
    (stops : ending.Conflict → left = 0) :
    (goOn work left number ending).exec w = some (ending.result, w) := by
  rcases ending with e | e | v
  · rfl
  · cases left with
    | zero => rfl
    | succ left =>
      have passes : ¬isConflict e = true := fun conflict => nomatch stops conflict
      simp only [goOn, if_neg passes]
      rfl
  · rfl

theorem goOn_again {middle : World (Session ρ α) α} {said : List (Exchange α)}
    (work : Engine (Session ρ α) α β) (left number : Nat) {ending : Ending β}
    (conflict : ending.Conflict) (spoke : Spoke w middle said) :
    ∃ noted, (goOn work (left + 1) number ending).exec middle =
      (withinFrom work left (number + 1)).exec noted ∧ Spoke w noted said := by
  rcases ending with e | e | v
  · cases conflict
  · obtain ⟨_, noted, _, gave, silent, rfl, rfl⟩ :=
      Says.notice (w := middle) (.transactionConflict number)
    refine ⟨noted, ?_, List.append_nil said ▸ spoke.trans silent⟩
    have repeats : isConflict e = true := conflict
    simp only [goOn, if_pos repeats, exec_bind, gave, Option.bind_some, proceed_ok]
  · cases conflict

end Session

namespace Conducted

variable [Server ρ α] {w middle left : World (Session ρ α) α} {result : Except BillingError β}
  {Work : Except BillingError β → List (Exchange α) → Prop} {attempts : Nat}
  {said : List (Exchange α)} {ending : Ending β} {blocks : List (List (Exchange α) × Ending β)}

theorem one (block : Block Work said ending) (spoke : Spoke w left said)
    (stops : ending.Conflict → attempts = 0) :
    Conducted Work (attempts + 1) w left ending.result [(said, ending)] where
  sent := by simpa using spoke.sent
  replies := by simpa using spoke.replies
  bounded := Nat.le_add_left 1 attempts
  formed := by simpa using block
  again := by simp
  last := ⟨_, rfl, rfl, fun conflict => by rw [stops conflict]; rfl⟩

theorem more (block : Block Work said ending) (spoke : Spoke w middle said)
    (conflict : ending.Conflict) (later : Conducted Work attempts middle left result blocks) :
    Conducted Work (attempts + 1) w left result ((said, ending) :: blocks) := by
  obtain ⟨b, final, same, used⟩ := later.last
  have some : blocks ≠ [] := by
    rintro rfl
    cases final
  constructor
  case sent => rw [later.sent, spoke.sent]; simp
  case replies => exact spoke.replies.append later.replies
  case bounded => exact Nat.succ_le_succ later.bounded
  case formed => exact List.forall_mem_cons.mpr ⟨block, later.formed⟩
  case again =>
    rw [List.dropLast_cons_of_ne_nil some]
    exact List.forall_mem_cons.mpr ⟨conflict, later.again⟩
  case last =>
    refine ⟨b, ?_, same, fun conflict => congrArg (· + 1) (used conflict)⟩
    rw [List.getLast?_cons_of_ne_nil some]
    exact final

end Conducted

namespace Session

variable [Server ρ α] {w : World (Session ρ α) α}
  {Work : Except BillingError β → List (Exchange α) → Prop}

theorem withinFrom_conducted (work : Engine (Session ρ α) α β) (left number : Nat)
    (talks : ∀ middle said, Spoke w middle said → Says work middle Work) :
    ∃ result last blocks, (withinFrom work left number).exec w = some (result, last) ∧
      Conducted Work (left + 1) w last result blocks := by
  induction left generalizing w number with
  | zero =>
    obtain ⟨ending, middle, said, block, spoke, ran⟩ := withinFrom_block work 0 number talks
    refine ⟨ending.result, middle, _, ?_, .one block spoke fun _ => rfl⟩
    rw [ran, goOn_stops work number fun _ => rfl]
  | succ left ih =>
    obtain ⟨ending, middle, said, block, spoke, ran⟩ :=
      withinFrom_block work (left + 1) number talks
    by_cases conflict : ending.Conflict
    · obtain ⟨noted, ran', spoke'⟩ := goOn_again work left number conflict spoke
      obtain ⟨result, last, blocks, later, conducted⟩ := ih (number + 1) fun middle more said =>
        talks middle _ (spoke'.trans said)
      exact ⟨result, last, _, by rw [ran, ran', later], .more block spoke' conflict conducted⟩
    · have stops : ending.Conflict → left + 1 = 0 := fun again => absurd again conflict
      refine ⟨ending.result, middle, _, ?_, .one block spoke stops⟩
      rw [ran, goOn_stops work number stops]

theorem within_conducted (work : Engine (Session ρ α) α β)
    (talks : ∀ middle said, Spoke w middle said → Says work middle Work) :
    ∃ result left blocks, (within work).exec w = some (result, left) ∧
      Conducted Work (max 1 w.storage.maxAttempts) w left result blocks := by
  obtain ⟨result, left, blocks, ran, conducted⟩ :=
    withinFrom_conducted work (w.storage.maxAttempts - 1) 1 talks
  refine ⟨result, left, blocks, ran, ?_⟩
  have attempts : w.storage.maxAttempts - 1 + 1 = max 1 w.storage.maxAttempts := by omega
  rwa [attempts] at conducted

end Session
end MeteredBilling.Sql
