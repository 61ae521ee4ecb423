import MeteredBilling.Calendar.Date
import MeteredBilling.Word

/-!
# Instants and spans

An instant is a second of universal time, counted from the start of 1970, and the nanoseconds since
it began. A leap second has no number of its own: it goes on with the nanoseconds of the second
before it. Spans are signed and limited to `2 ^ 63 - 1` milliseconds; moving an instant out of the
supported years gives nothing.
-/

namespace MeteredBilling.Calendar

structure Instant where
  second : Int
  /-- Nanoseconds since the second began; a whole second of them or more in a leap second. -/
  fraction : Nat
  deriving DecidableEq, Repr, Inhabited

instance : LT Instant :=
  ⟨fun a b => a.second < b.second ∨ a.second = b.second ∧ a.fraction < b.fraction⟩

instance : LE Instant :=
  ⟨fun a b => a.second < b.second ∨ a.second = b.second ∧ a.fraction ≤ b.fraction⟩

instance (a b : Instant) : Decidable (a < b) :=
  inferInstanceAs (Decidable (a.second < b.second ∨ a.second = b.second ∧ a.fraction < b.fraction))

instance (a b : Instant) : Decidable (a ≤ b) :=
  inferInstanceAs (Decidable (a.second < b.second ∨ a.second = b.second ∧ a.fraction ≤ b.fraction))

theorem Instant.lt_iff {a b : Instant} :
    a < b ↔ a.second < b.second ∨ a.second = b.second ∧ a.fraction < b.fraction := Iff.rfl

theorem Instant.le_iff {a b : Instant} :
    a ≤ b ↔ a.second < b.second ∨ a.second = b.second ∧ a.fraction ≤ b.fraction := Iff.rfl

theorem Instant.eq_iff {a b : Instant} :
    a = b ↔ a.second = b.second ∧ a.fraction = b.fraction := by
  cases a
  cases b
  simp

def nanosPerSecond : Int := 1000000000

def secondsPerDay : Int := 86400

/-- A signed stretch of time, in nanoseconds. -/
structure Span where
  nanos : Int
  deriving DecidableEq, Repr, Inhabited

namespace Span

def limit : Int := (Word.greatest 63 : Int) * 1000000

def ofSeconds? (seconds : Int) : Option Span :=
  if (seconds * nanosPerSecond).natAbs ≤ limit then some ⟨seconds * nanosPerSecond⟩ else none

def ofMinutes? (minutes : Int) : Option Span := ofSeconds? (minutes * 60)

def ofHours? (hours : Int) : Option Span := ofSeconds? (hours * 3600)

def ofDays? (days : Int) : Option Span := ofSeconds? (days * secondsPerDay)

/-- The whole seconds, counted toward zero. -/
def seconds (s : Span) : Int := s.nanos.tdiv nanosPerSecond

def minutes (s : Span) : Int := s.seconds.tdiv 60

end Span

namespace Instant

/-- The start of 1970 as a day number. -/
def epochDay : Int := firstDay 1970

def ofDate (d : Date) (secondOfDay fraction : Nat) : Instant :=
  ⟨(d.number - epochDay) * secondsPerDay + secondOfDay, fraction⟩

def ofNanos (nanos : Int) : Instant :=
  ⟨nanos / nanosPerSecond, (nanos % nanosPerSecond).toNat⟩

/-- The nanoseconds since the start of 1970, where leap seconds do not count. -/
def nanos (t : Instant) : Int := t.second * nanosPerSecond + t.fraction

def isLeap (t : Instant) : Bool := nanosPerSecond ≤ t.fraction

/-- The nanoseconds since the second began that a clock shows, be it a leap second. -/
def subsecond (t : Instant) : Nat := t.fraction % nanosPerSecond.toNat

def dayNumber (t : Instant) : Int := t.second / secondsPerDay + epochDay

def secondOfDay (t : Instant) : Nat := (t.second % secondsPerDay).toNat

/-- The date in universal time. -/
def date (t : Instant) : Date := Date.ofNumber t.dayNumber

/-- The first supported instant. -/
def earliest : Instant := ofDate ⟨Date.firstYear, 1, 1⟩ 0 0

/-- The last supported instant. -/
def latest : Instant := ofDate ⟨Date.lastYear, 12, 31⟩ 86399 999999999

def supported? (t : Instant) : Option Instant :=
  if earliest ≤ t ∧ t ≤ latest then some t else none

def plus? (t : Instant) (s : Span) : Option Instant := (ofNanos (t.nanos + s.nanos)).supported?

def minus? (t : Instant) (s : Span) : Option Instant := t.plus? ⟨-s.nanos⟩

/-- The instant so many seconds later, which stays in its leap second. -/
def shift? (t : Instant) (seconds : Int) : Option Instant :=
  ({ t with second := t.second + seconds } : Instant).supported?

/-- A moment that a clock can be set to, which shows no leap seconds. -/
def onClock? (t : Instant) : Option Instant := if t.isLeap then none else some t

/-- The instant in whole microseconds counted from the start of 2000, cut toward that moment. -/
def toMicroseconds (t : Instant) : Instant :=
  let base := (ofDate ⟨2000, 1, 1⟩ 0 0).nanos
  ofNanos (base + (t.nanos - base).tdiv 1000 * 1000)

end Instant
end MeteredBilling.Calendar
