import MeteredBilling.Contract.Query
import MeteredBilling.Counters
import MeteredBilling.Emission.Feedback
import MeteredBilling.Engine.Notice
import MeteredBilling.Message.Basic
import MeteredBilling.Remittance.Decision
import MeteredBilling.Remittance.Selection

/-!
# The world of the engine

What the engine's operations read and change: the clock, fresh identifiers, the contract service,
counters, notices, and a storage of rows and messages behind two interfaces. An operation fails
with a billing error and keeps what it changed before, or yields nothing at all when a moment
leaves the calendar.
-/

namespace MeteredBilling

open Calendar

structure World (σ α : Type) where
  now : Instant
  /-- The identifiers given to new rows, in turn from 1. -/
  mint : Nat → Uuid
  minted : Nat
  contracts : ContractService α
  /-- The contract lookups made, the latest last. -/
  queries : List ContractQuery
  counters : Counters α
  /-- The notices given, the latest last. -/
  notices : List Notice
  storage : σ

/-- An operation of the engine over a storage. -/
abbrev Engine (σ α : Type) := ExceptT BillingError (StateT (World σ α) Option)

namespace Engine

variable {σ α β : Type}

def ofResult (result : Except BillingError β) : Engine σ α β := ExceptT.mk (pure result)

/-- Goes on with a moment on the calendar. -/
def onCalendar (moment : Option Instant) : Engine σ α Instant :=
  ExceptT.mk fun w => moment.map fun t => (.ok t, w)

/-- Runs an operation and hands out its error as a value. -/
def attempt (operation : Engine σ α β) : Engine σ α (Except BillingError β) :=
  ExceptT.mk (operation.run >>= fun result => pure (.ok result))

def now : Engine σ α Instant := return (← get).now

def notice (n : Notice) : Engine σ α PUnit :=
  modify fun w => { w with notices := w.notices ++ [n] }

def count [Amount α] (counter : UsageCounter) (labels : CounterLabels) (value : α) :
    Engine σ α PUnit :=
  modify fun w => { w with counters := w.counters.increment counter labels value }

/-- Asks the contract service. -/
def lookUpContracts (query : ContractQuery) : Engine σ α (List (Contract α)) := do
  modify fun w => { w with queries := w.queries ++ [query] }
  ofResult ((← get).contracts query)

/-- Decides with the clock and the next fresh identifier, which is used up if a new row takes it. -/
def decide (decide : Decide α) (prior : Option (Remittance α)) : Engine σ α (Decision α) := do
  let w ← get
  let decision := decide w.now (w.mint (w.minted + 1)) prior
  if Decision.takesIdentifier prior decision then set { w with minted := w.minted + 1 }
  ofResult decision

end Engine

/-- Rows of remittances, and messages written together with them. -/
class RowStore (σ α : Type) where
  /-- Reads the row of a key, decides, and writes the row and its event, in one step. -/
  reconcile : RemittanceKey → Decide α → Engine σ α (Outcome α)
  findByKey : RemittanceKey → Engine σ α (Option (Remittance α))
  find : RemittanceFilter → Engine σ α (List (Remittance α))
  findByTally : Uuid → Engine σ α (List (Remittance α))
  /-- Settles the listed rows that wait for the update's tally, and tells how many. -/
  updateStatus : List Uuid → StatusUpdate → Engine σ α Nat
  /-- Puts a row back to pending and republishes its event, in one step. -/
  markRetry : Uuid → Instant → Option (Outbound α) → Engine σ α (Option (Remittance α))
  deleteOlderThan : String → Instant → Engine σ α Nat
  deleteByOrg : String → Engine σ α Nat
  resetRemitted : ResetRequest → Engine σ α Nat
  /-- Fails the rows that have been pending since before a cutoff. -/
  failStuck : Instant → Engine σ α Nat

/-- Topics with delivery at least once. -/
class MessageBus (σ α : Type) where
  publish : Outbound α → Engine σ α Int
  claim : String → Engine σ α (Option (Delivery α))
  ack : Delivery α → Engine σ α PUnit
  /-- Releases a delivery for another attempt, after a delay. -/
  retry : Delivery α → Complaint → Engine σ α PUnit
  /-- Takes a message out of delivery and keeps it. -/
  poison : Delivery α → Complaint → Engine σ α PUnit

end MeteredBilling
