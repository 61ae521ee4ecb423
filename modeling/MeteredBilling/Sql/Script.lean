import MeteredBilling.Sql.Session

/-!
# Scripted servers

A server without data that answers from a script, to rehearse what a session sends: the replies to
its statements in turn, and the statements that fail.
-/

namespace MeteredBilling.Sql

/-- What a script has for a statement: rows for one that returns them, a count for any other. -/
structure ScriptedReply (α : Type) where
  rows : Option (List (Json α))
  count : Option Nat

/-- The statement of that verb that fails, counted from 1, and the state code that it fails with. -/
structure ScriptedFailure where
  verb : String
  number : Nat
  code : String
  deriving DecidableEq, Repr

structure Script (α : Type) where
  replies : List (ScriptedReply α)
  failures : List ScriptedFailure
  /-- The verbs of the statements so far. -/
  seen : List String

namespace Script

variable {α : Type}

/-- The state code that stands for the end of the connection. -/
def closeCode : String := "close"

def failureReply (code : String) : Reply α :=
  if code = closeCode then .closed else .refused code ("scripted failure " ++ code)

/-- The failure of the next statement of a verb. -/
def failure? (s : Script α) (verb : String) : Option ScriptedFailure :=
  let number := s.seen.count verb + 1
  s.failures.find? fun f => f.verb = verb ∧ f.number = number

/-- Rows of a script that have the columns of their kind. -/
def readRows {β : Type} [Amount α] (record : Record (Json α) β) (rows : List (Json α)) : List β :=
  rows.filterMap fun row => (record.decoder row).toOption

/-- The reply to a statement. Where the script has none, a row that is written comes back, a message
gets the number 1, and everything else finds nothing. -/
def replyTo [Amount α] (statement : Statement α) (reply : Option (ScriptedReply α)) : Reply α :=
  let rows := reply.bind (·.rows)
  let stored := readRows StoredRemittance.record
  match statement with
  | .lockRow _ | .rowOfKey _ | .rowsOf _ | .rowsOfTally _ | .reschedule .. =>
    .remittances (stored (rows.getD []))
  | .putRow row => .remittances ((rows.map stored).getD [row])
  | .enqueue _ =>
    let number : Record (Json α) Int := .required "id" .int
    .numbers ((rows.map (readRows number)).getD [1])
  | .claim .. => .deliveries (readRows StoredDelivery.record (rows.getD []))
  | _ => .affected ((reply.bind (·.count)).getD 0)

def answer [Amount α] (statement : Statement α) (s : Script α) : Reply α × Script α :=
  let next := { s with seen := s.seen ++ [statement.verb] }
  match s.failure? statement.verb with
  | some failure => (failureReply failure.code, next)
  | none =>
    if statement.isControl then (.affected 0, next)
    else (replyTo statement s.replies.head?, { next with replies := s.replies.tail })

instance [Amount α] : Server (Script α) α := ⟨answer⟩

end Script
end MeteredBilling.Sql
