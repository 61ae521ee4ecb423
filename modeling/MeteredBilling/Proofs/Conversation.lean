import MeteredBilling.Proofs.Execution
import MeteredBilling.Sql.Storage

/-!
# Conversations with a server

Statements with the replies that the server gave to them. An operation on a session comes to a
result and to what was said for it, and both compose along the operation.
-/

namespace MeteredBilling

/-- The world that a statement leaves. -/
def World.heard {ρ α : Type} [Sql.Server ρ α] (w : World (Sql.Session ρ α) α)
    (statement : Sql.Statement α) : World (Sql.Session ρ α) α :=
  { w with storage := { w.storage with
      server := (Sql.Server.answer statement w.storage.server).2
      sent := w.storage.sent ++ [statement] } }

end MeteredBilling

namespace MeteredBilling.Sql

open Engine

variable {ρ α β γ : Type}

/-- A statement and the reply to it. -/
abbrev Exchange (α : Type) := Statement α × Reply α

namespace Reply

/-- The error that a reply stands for. -/
def failure? : Reply α → Option BillingError
  | refused code text => some (.persistence (.refused code text))
  | closed => some (.persistence .disconnected)
  | _ => none

/-- A reply, unless it is a failure. -/
def outcome (reply : Reply α) : Except BillingError (Reply α) :=
  match reply.failure? with
  | some e => .error e
  | none => .ok reply

theorem outcome_ok {reply accepted : Reply α} (ok : reply.outcome = .ok accepted) :
    accepted = reply ∧ reply.failure? = none := by
  unfold outcome at ok
  cases failed : reply.failure? with
  | some e =>
    rw [failed] at ok
    cases ok
  | none =>
    rw [failed] at ok
    cases ok
    exact ⟨rfl, rfl⟩

theorem outcome_error {reply : Reply α} {e : BillingError} (error : reply.outcome = .error e) :
    reply.failure? = some e := by
  unfold outcome at error
  cases failed : reply.failure? with
  | some e =>
    rw [failed] at error
    cases error
    rfl
  | none =>
    rw [failed] at error
    cases error

end Reply

variable [Server ρ α]

theorem Session.exec_send (statement : Statement α) (w : World (Session ρ α) α) :
    (Session.send statement : Engine (Session ρ α) α (Reply α)).exec w =
      some ((Server.answer statement w.storage.server).1.outcome, w.heard statement) := by
  simp only [Session.send, exec_bind, exec_get, exec_set, Option.bind_some, proceed_ok]
  cases (Server.answer statement w.storage.server).1 <;> rfl

/-- The exchanges of a server, each reply the one that it gives in its state at that point. -/
inductive Talk : ρ → List (Exchange α) → ρ → Prop
  | silence (server : ρ) : Talk server [] server
  | said {server last : ρ} {statement : Statement α} {rest : List (Exchange α)}
      (later : Talk (Server.answer statement server).2 rest last) :
      Talk server ((statement, (Server.answer statement server).1) :: rest) last

theorem Talk.append {server middle last : ρ} {said more : List (Exchange α)}
    (first : Talk server said middle) (later : Talk middle more last) :
    Talk server (said ++ more) last := by
  induction first with
  | silence => exact later
  | said _ ih => exact .said (ih later)

/-- One world of a session goes over into another by an exchange with the server. -/
structure Spoke (w left : World (Session ρ α) α) (said : List (Exchange α)) : Prop where
  sent : left.storage.sent = w.storage.sent ++ said.map (·.1)
  replies : Talk w.storage.server said left.storage.server
  attempts : left.storage.maxAttempts = w.storage.maxAttempts
  now : left.now = w.now
  mint : left.mint = w.mint
  minted : w.minted ≤ left.minted

namespace Spoke

variable {w middle left : World (Session ρ α) α} {said more : List (Exchange α)}

theorem silent (server : left.storage = w.storage) (now : left.now = w.now)
    (mint : left.mint = w.mint) (minted : w.minted ≤ left.minted) : Spoke w left [] where
  sent := by rw [server, List.map_nil, List.append_nil]
  replies := by
    rw [server]
    exact .silence _
  attempts := by rw [server]
  now := now
  mint := mint
  minted := minted

theorem refl (w : World (Session ρ α) α) : Spoke w w [] := silent rfl rfl rfl (Nat.le_refl _)

theorem trans (first : Spoke w middle said) (later : Spoke middle left more) :
    Spoke w left (said ++ more) where
  sent := by rw [later.sent, first.sent, List.map_append, List.append_assoc]
  replies := first.replies.append later.replies
  attempts := later.attempts.trans first.attempts
  now := later.now.trans first.now
  mint := later.mint.trans first.mint
  minted := Nat.le_trans first.minted later.minted

end Spoke

/-- An operation gives a result, and the two of them, the result and what was said for it, are as
expected. -/
def Says (x : Engine (Session ρ α) α β) (w : World (Session ρ α) α)
    (expected : Except BillingError β → List (Exchange α) → Prop) : Prop :=
  ∃ result left said, x.exec w = some (result, left) ∧ Spoke w left said ∧ expected result said

namespace Says

variable {w : World (Session ρ α) α} {x : Engine (Session ρ α) α β}
  {f : β → Engine (Session ρ α) α γ} {expected : Except BillingError β → List (Exchange α) → Prop}
  {wanted : Except BillingError γ → List (Exchange α) → Prop}

theorem silent {result : Except BillingError β} (ran : x.exec w = some (result, w))
    (meets : expected result []) : Says x w expected :=
  ⟨result, w, [], ran, .refl w, meets⟩

theorem pure {b : β} (meets : expected (.ok b) []) :
    Says (Pure.pure b : Engine (Session ρ α) α β) w expected := silent (exec_pure b) meets

theorem throw {e : BillingError} (meets : expected (.error e) []) :
    Says (MonadExcept.throw e : Engine (Session ρ α) α β) w expected := silent (exec_throw e) meets

theorem ofResult {result : Except BillingError β} (meets : expected result []) :
    Says (Engine.ofResult result : Engine (Session ρ α) α β) w expected :=
  silent (exec_ofResult result) meets

theorem notice (n : Notice) : Says (Engine.notice n : Engine (Session ρ α) α PUnit) w
    fun result said => result = .ok ⟨⟩ ∧ said = [] :=
  ⟨_, _, [], exec_notice n, .silent rfl rfl rfl (Nat.le_refl _), rfl, rfl⟩

theorem bind (first : Says x w expected)
    (failed : ∀ e said, expected (.error e) said → wanted (.error e) said)
    (later : ∀ b left said, Spoke w left said → expected (.ok b) said →
      Says (f b) left fun result more => wanted result (said ++ more)) :
    Says (x >>= f) w wanted := by
  obtain ⟨result, middle, said, ran, spoke, meets⟩ := first
  cases result with
  | error e =>
    refine ⟨.error e, middle, said, ?_, spoke, failed e said meets⟩
    rw [exec_bind, ran, Option.bind_some, proceed_error]
  | ok b =>
    obtain ⟨result, left, more, rest, spoke', reached⟩ := later b middle said spoke meets
    refine ⟨result, left, said ++ more, ?_, spoke.trans spoke', reached⟩
    rw [exec_bind, ran, Option.bind_some, proceed_ok, rest]

theorem andThen {b : β} {said : List (Exchange α) → Prop}
    (first : Says x w fun result spoken => result = .ok b ∧ said spoken)
    (later : ∀ left spoken, Spoke w left spoken → said spoken →
      Says (f b) left fun result more => wanted result (spoken ++ more)) :
    Says (x >>= f) w wanted := by
  refine first.bind (fun e spoken failed => ?_) (fun b' left spoken spoke reached => ?_)
  · cases failed.1
  · obtain ⟨same, meets⟩ := reached
    cases same
    exact later left spoken spoke meets

theorem attempt {wanted : Except BillingError (Except BillingError β) → List (Exchange α) → Prop}
    (first : Says x w expected)
    (meets : ∀ result said, expected result said → wanted (.ok result) said) :
    Says (Engine.attempt x) w wanted := by
  obtain ⟨result, left, said, ran, spoke, reached⟩ := first
  refine ⟨.ok result, left, said, ?_, spoke, meets result said reached⟩
  rw [exec_attempt, ran, Option.map_some]

theorem mono {wanted : Except BillingError β → List (Exchange α) → Prop} (first : Says x w expected)
    (meets : ∀ result said, expected result said → wanted result said) : Says x w wanted := by
  obtain ⟨result, left, said, ran, spoke, reached⟩ := first
  exact ⟨result, left, said, ran, spoke, meets result said reached⟩

theorem discard {wanted : Except BillingError PUnit → List (Exchange α) → Prop}
    (first : Says x w expected)
    (meets : ∀ result said, expected result said → wanted (result.map fun _ => ⟨⟩) said) :
    Says (Functor.discard x) w wanted := by
  obtain ⟨result, left, said, ran, spoke, reached⟩ := first
  refine ⟨_, left, said, ?_, spoke, meets result said reached⟩
  rw [exec_discard, ran, Option.map_some]

theorem send (statement : Statement α) :
    Says (Session.send statement : Engine (Session ρ α) α (Reply α)) w fun result said =>
      ∃ reply : Reply α, said = [(statement, reply)] ∧ result = reply.outcome := by
  have spoke : Spoke w (w.heard statement)
      [(statement, (Server.answer statement w.storage.server).1)] :=
    { sent := rfl
      replies := .said (.silence _)
      attempts := rfl
      now := rfl
      mint := rfl
      minted := Nat.le_refl _ }
  exact ⟨_, _, _, Session.exec_send statement w, spoke, _, rfl, rfl⟩

theorem send_bind {statement : Statement α} {f : Reply α → Engine (Session ρ α) α γ}
    (refused : ∀ (reply : Reply α) e, reply.failure? = some e →
      wanted (.error e) [(statement, reply)])
    (accepted : ∀ (reply : Reply α) left, reply.failure? = none →
      Says (f reply) left fun result more => wanted result ((statement, reply) :: more)) :
    Says (Session.send statement >>= f) w wanted := by
  refine (send statement).bind (fun e said spoken => ?_) (fun b left said _ spoken => ?_)
  · obtain ⟨reply, rfl, error⟩ := spoken
    exact refused reply e (Reply.outcome_error error.symm)
  · obtain ⟨reply, rfl, ok⟩ := spoken
    obtain ⟨rfl, fine⟩ := Reply.outcome_ok ok.symm
    exact accepted b left fine

theorem attempt_bind {statement : Statement α} {f : Except BillingError (Reply α) →
      Engine (Session ρ α) α γ}
    (accepted : ∀ (reply : Reply α) left, reply.failure? = none →
      Says (f (.ok reply)) left fun result more => wanted result ((statement, reply) :: more))
    (refused : ∀ (reply : Reply α) e left, reply.failure? = some e →
      Says (f (.error e)) left fun result more => wanted result ((statement, reply) :: more)) :
    Says (Engine.attempt (Session.send statement) >>= f) w wanted := by
  have sent : Says (Engine.attempt (Session.send statement)) w fun result said =>
      ∃ reply : Reply α, said = [(statement, reply)] ∧ result = .ok reply.outcome := by
    refine (send statement).attempt fun result said spoken => ?_
    obtain ⟨reply, rfl, rfl⟩ := spoken
    exact ⟨reply, rfl, rfl⟩
  refine sent.bind (fun e said spoken => ?_) (fun b left said _ spoken => ?_)
  · obtain ⟨_, _, failed⟩ := spoken
    cases failed
  · obtain ⟨reply, rfl, same⟩ := spoken
    cases same
    unfold Reply.outcome
    cases failed : reply.failure? with
    | none => exact accepted reply left failed
    | some e => exact refused reply e left failed

omit [Server ρ α] in
theorem discard_bind (x : Engine (Session ρ α) α β) (f : PUnit → Engine (Session ρ α) α γ) :
    Functor.discard x >>= f = x >>= fun _ => f ⟨⟩ :=
  bind_map_left (fun _ => PUnit.unit) x f

end Says
end MeteredBilling.Sql
