import MeteredBilling.Calendar.Instant

/-!
# Redelivery delays

Delays of up to `2 ^ 64` seconds that double with every attempt, up to a bound, and their use on
the calendar.
-/

namespace MeteredBilling

open Calendar

/-- A delay, in nanoseconds. -/
abbrev Delay := Nat

namespace Delay

/-- The longest delay: 64 bits of seconds, and all nanoseconds below one more. -/
def longest : Delay := Word.greatest 64 * 1000000000 + 999999999

def ofSeconds (n : Nat) : Delay := n * 1000000000

def ofMillis (n : Nat) : Delay := n * 1000000

def millis (d : Delay) : Nat := d / 1000000

def times (d : Delay) (n : Nat) : Delay := min (d * n) longest

/-- The span of a delay, and none at all where it exceeds what a span can hold. -/
def toSpan (d : Delay) : Span := if (d : Int) ≤ Span.limit then ⟨d⟩ else ⟨0⟩

end Delay

/-- How a bus redelivers. -/
structure DeliveryPolicy where
  maxAttempts : Int := 5
  /-- The time after which a claimed message counts as abandoned. -/
  visibilityTimeout : Delay := Delay.ofSeconds 300
  initialBackoff : Delay := Delay.ofSeconds 1
  maxBackoff : Delay := Delay.ofSeconds 300
  deriving DecidableEq, Repr

namespace DeliveryPolicy

/-- The delay after an attempt, counted from 1; the doubling stops after twenty steps. -/
def backoff (policy : DeliveryPolicy) (attempts : Int) : Delay :=
  min (policy.initialBackoff.times (Nat.pow 2 (min (attempts - 1) 20).toNat)) policy.maxBackoff

end DeliveryPolicy
end MeteredBilling
