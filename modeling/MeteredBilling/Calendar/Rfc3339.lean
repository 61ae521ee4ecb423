import MeteredBilling.Calendar.Instant
import MeteredBilling.Decimal.Numeral
import MeteredBilling.Decimal.Positional
import MeteredBilling.Text.Blank
import MeteredBilling.Word

/-!
# Timestamps

Instants as RFC 3339 timestamps. The strict reader takes the standard's form, the tolerant one also
blanks between the parts, short and signed numbers, and other spellings of the offset. Writing uses
`Z` and the fewest of 0, 3, 6 or 9 fraction digits that lose nothing.
-/

namespace MeteredBilling.Calendar

open Decimal Text

/-- What is wrong with a timestamp. -/
inductive TimestampFault
  | tooShort
  | invalid
  | outOfRange
  | tooLong
  /-- The local time is on the calendar, and the universal one is not. -/
  | impossible
  deriving DecidableEq, Repr

namespace TimestampFault

def message : TimestampFault → String
  | tooShort => "premature end of input"
  | invalid => "input contains invalid characters"
  | outOfRange => "input is out of range"
  | tooLong => "trailing input"
  | impossible => "no possible date and time matching input"

end TimestampFault

namespace Timestamp

/-- Reads a part of a timestamp from the front of a text. -/
abbrev Reader := StateT (List Char) (Except TimestampFault)

/-- The length in bytes. -/
def byteLength (text : List Char) : Nat := text.foldl (fun length c => length + c.utf8Size) 0

/-- A number of at least `least` and at most `most` digits. -/
def number (least most : Nat) : Reader Nat := do
  let text ← get
  if byteLength text < least then throw .tooShort
  let digits := (text.take most).takeWhile Char.isDigit
  if digits.length < least then throw .invalid
  set (text.drop digits.length)
  return digitsValue digits

def character (isExpected : Char → Bool) : Reader Char := do
  match ← get with
  | [] => throw .tooShort
  | c :: rest =>
    if !isExpected c then throw .invalid
    set rest
    return c

def literal (expected : Char) : Reader PUnit := discard (character (· == expected))

def isSeparator (c : Char) : Bool := c == 'T' || c == 't' || c == ' '

def blanks : Reader PUnit := modify fun text => text.dropWhile isBlank

/-- The nanoseconds of a fraction, of which nine digits count. -/
def subsecond : Reader Nat := do
  match ← get with
  | '.' :: rest =>
    set rest
    let start := rest.takeWhile Char.isDigit
    let value ← number 1 9
    modify fun text => text.dropWhile Char.isDigit
    return value * Nat.pow 10 (9 - start.length)
  | _ => return 0

/-- Two digits of an offset's minutes. -/
def offsetMinutes : Reader Nat := do
  let minutes ← number 2 2
  if 59 < minutes then throw .outOfRange
  return minutes

/-- The seconds that local time is ahead of universal time, with something between hours and
minutes. -/
def offset (between : Reader PUnit) : Reader Int := do
  let sign ← character fun c => "Zz+-\u2212".toList.contains c
  if sign == 'Z' || sign == 'z' then return 0
  let hours ← number 2 2
  between
  let minutes ← offsetMinutes
  let ahead : Int := hours * 3600 + minutes * 60
  return if sign == '+' then ahead else -ahead

def inRange (least most : Nat) (reader : Reader Nat) : Reader Nat := do
  let value ← reader
  if value < least || most < value then throw .outOfRange
  return value

def dateOf (year : Int) (month day : Nat) : Reader Date := do
  let date : Date := ⟨year, month, day⟩
  if !date.isValid then throw .outOfRange
  return date

/-- The local time of a date as if it were universal. Any minute may end in a leap second. -/
def localOf (date : Date) (hour minute second nanos : Nat) : Reader Instant := do
  if 23 < hour || 59 < minute || 60 < second then throw .outOfRange
  let start := hour * 3600 + minute * 60
  return if second = 60 then .ofDate date (start + 59) (nanosPerSecond.toNat + nanos)
    else .ofDate date (start + second) nanos

/-- The instant of a local time with its offset, which is below a day. -/
def universal (localTime : Instant) (ahead : Int) : Reader Instant := do
  if secondsPerDay ≤ ahead.natAbs then throw .outOfRange
  match localTime.shift? (-ahead) with
  | some t => return t
  | none => throw .impossible

/-! ### The strict form -/

def strict : Reader Instant := do
  if byteLength (← get) < 19 then throw .tooShort
  let year ← number 4 4
  literal '-'
  let month ← number 2 2
  literal '-'
  let day ← number 2 2
  let date ← dateOf year month day
  discard (character isSeparator)
  let hour ← number 2 2
  literal ':'
  let minute ← number 2 2
  literal ':'
  let second ← number 2 2
  let localTime ← localOf date hour minute second (← subsecond)
  let ahead ← offset (literal ':')
  if !(← get).isEmpty then throw .tooLong
  universal localTime ahead

/-! ### The tolerant form -/

/-- A number of up to `most` digits behind blanks. -/
def looseNumber (most least greatest : Nat) : Reader Nat := do
  blanks
  inRange least greatest (number 1 most)

/-- A year of up to four digits, or of any number of them behind a sign. -/
def signedYear : Reader Int := do
  match ← get with
  | '-' :: rest =>
    set rest
    return -(← number 1 rest.length)
  | '+' :: rest =>
    set rest
    number 1 rest.length
  | _ => number 1 4

/-- A year in 32 bits behind blanks. -/
def looseYear : Reader Int := do
  blanks
  let year ← signedYear
  if !Word.holds 32 year then throw .outOfRange
  return year

def looseLiteral (expected : Char) : Reader PUnit := do
  blanks
  literal expected

/-- A colon, blanks, both or nothing. -/
def colons : Reader PUnit := modify fun text => text.dropWhile fun c => c == ':' || isBlank c

def looseOffset : Reader Int := do
  blanks
  let text ← get
  if (text.take 3).map Char.toUpper == "UTC".toList then
    set (text.drop 3)
    return 0
  else offset colons

def loose : Reader Instant := do
  let year ← looseYear
  looseLiteral '-'
  let month ← looseNumber 2 1 12
  looseLiteral '-'
  let day ← looseNumber 2 1 31
  discard (character isSeparator)
  let hour ← looseNumber 2 0 23
  looseLiteral ':'
  let minute ← looseNumber 2 0 59
  looseLiteral ':'
  let second ← looseNumber 2 0 60
  let nanos ← subsecond
  let ahead ← looseOffset
  blanks
  if !(← get).isEmpty then throw .tooLong
  let date ← dateOf year month day
  universal (← localOf date hour minute second nanos) ahead

end Timestamp

namespace Instant

/-- Reads a timestamp of the strict form. -/
def ofTimestamp (text : String) : Except TimestampFault Instant :=
  (Timestamp.strict.run text.toList).map (·.1)

/-- Reads a timestamp of the tolerant form. -/
def ofLooseTimestamp (text : String) : Except TimestampFault Instant :=
  (Timestamp.loose.run text.toList).map (·.1)

/-- Four digits at least; a sign stands before years below 0 and above 9999. -/
def yearText (year : Int) : List Char :=
  let sign := if year < 0 then ['-'] else if 9999 < year then ['+'] else []
  sign ++ padded 4 year.natAbs

def dateText (t : Instant) : List Char :=
  let d := t.date
  yearText d.year ++ '-' :: padded 2 d.month ++ '-' :: padded 2 d.day

def timeText (t : Instant) : List Char :=
  let s := t.secondOfDay
  padded 2 (s / 3600) ++ ':' :: padded 2 (s / 60 % 60)
    ++ ':' :: padded 2 (s % 60 + t.isLeap.toNat)

def fractionText (t : Instant) : List Char :=
  let n := t.subsecond
  if n = 0 then []
  else if n % 1000000 = 0 then '.' :: padded 3 (n / 1000000)
  else if n % 1000 = 0 then '.' :: padded 6 (n / 1000)
  else '.' :: padded 9 n

/-- The timestamp in universal time. -/
def timestamp (t : Instant) : String :=
  String.ofList (dateText t ++ 'T' :: timeText t ++ fractionText t ++ ['Z'])

/-- The wording of an instant in messages. -/
def text (t : Instant) : String :=
  String.ofList (dateText t ++ ' ' :: timeText t ++ fractionText t ++ " UTC".toList)

end Instant
end MeteredBilling.Calendar
