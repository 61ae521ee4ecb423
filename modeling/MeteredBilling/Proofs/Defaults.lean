import MeteredBilling.Proofs.Numerals
import MeteredBilling.Settings

/-!
# Defaults of settings

Each setting of the engine comes from its own variable: the value of a usable text, and else the
default. Whatever the texts are, the settings are in their ranges. But a time that is a number of
its kind and longer than any span leaves no settings at all.
-/

namespace MeteredBilling

open Calendar Decimal

namespace Environment

/-- What a variable holds between blanks, unless that is nothing. -/
def Holds (value : Option String) (part : List Char) : Prop :=
  part ≠ [] ∧ ∃ text ∈ value, Text.Encloses text.toList part

def CountText (least bits : Nat) (text : List Char) (n : Nat) : Prop :=
  Number false least (Word.greatest bits) text n

/-- The text of a delay in a unit of so many nanoseconds. -/
def DelayText (least unit : Nat) (text : List Char) (delay : Delay) : Prop :=
  ∃ n, CountText least 64 text n ∧ delay = n * unit

/-- The text of a span in a unit of so many seconds. -/
def SpanText (least : Nat) (unit : Int) (text : List Char) (span : Span) : Prop :=
  ∃ n, Number true least (Word.greatest 63) text n ∧ n * unit * nanosPerSecond ≤ Span.limit ∧
    span = ⟨n * unit * nanosPerSecond⟩

/-- The text of a number in its range, which is longer than any span in its unit. -/
def Overlong (least : Nat) (unit : Int) (text : List Char) : Prop :=
  ∃ n, Number true least (Word.greatest 63) text n ∧ Span.limit < n * unit * nanosPerSecond

def FactorText (text : List Char) (x : Float) : Prop :=
  ∃ numeral, Spells text numeral ∧
    x = Amount.ofDecimal numeral.negative numeral.mantissa numeral.exponent ∧
    Amount.isFinite x = true ∧ Amount.le 1 x = true

theorem DelayText.positive {least unit : Nat} {text : List Char} {delay : Delay}
    (usable : DelayText least unit text delay) (positive : 0 < least) (counts : 0 < unit) :
    0 < delay := by
  obtain ⟨n, ⟨_, low, _⟩, rfl⟩ := usable
  exact Nat.mul_pos (by omega) counts

theorem SpanText.nonneg {least : Nat} {unit : Int} {text : List Char} {span : Span}
    (usable : SpanText least unit text span) (counts : 0 ≤ unit) : 0 ≤ span.nanos := by
  obtain ⟨n, ⟨_, low, _⟩, _, rfl⟩ := usable
  exact Int.mul_nonneg (Int.mul_nonneg (by omega) counts) (by decide)

theorem SpanText.positive {least : Nat} {unit : Int} {text : List Char} {span : Span}
    (usable : SpanText least unit text span) (positive : 0 < least) (counts : 0 < unit) :
    0 < span.nanos := by
  obtain ⟨n, ⟨_, low, _⟩, _, rfl⟩ := usable
  exact Int.mul_pos (Int.mul_pos (by omega) counts) (by decide)

variable {env : Environment} {name : String}

theorem read?_eq_some_iff {text : String} :
    env.read? name = some text ↔ Holds (env name) text.toList := by
  have filled (text : String) : (!text.isEmpty) = true ↔ text.toList ≠ [] := by
    simp
  unfold read? Holds
  rw [Option.filter_eq_some_iff, filled]
  constructor
  · rintro ⟨trimmed, some⟩
    obtain ⟨whole, present, rfl⟩ := Option.map_eq_some_iff.mp trimmed
    refine ⟨some, whole, present, ?_⟩
    rw [Text.trim, String.toList_ofList]
    exact Text.encloses_trimmed whole.toList
  · rintro ⟨some, whole, present, encloses⟩
    refine ⟨?_, some⟩
    rw [Option.mem_def.mp present, Option.map_some, Text.trim, Text.trimmed_eq_iff.mpr encloses,
      String.ofList_toList]

theorem text_eq_some_iff {text : String} :
    env.read? name = some text ↔ ∃ part, Holds (env name) part ∧ text = String.ofList part := by
  rw [read?_eq_some_iff]
  constructor
  · intro holds
    exact ⟨text.toList, holds, String.ofList_toList.symm⟩
  · rintro ⟨part, holds, rfl⟩
    rwa [String.toList_ofList]

theorem bind_read?_eq_some_iff {β : Type} {f : String → Option β} {v : β} {P : List Char → Prop}
    (spec : ∀ text : String, f text = some v ↔ P text.toList) :
    (env.read? name).bind f = some v ↔ ∃ part, Holds (env name) part ∧ P part := by
  rw [Option.bind_eq_some_iff]
  constructor
  · rintro ⟨text, read, value⟩
    exact ⟨text.toList, read?_eq_some_iff.mp read, (spec text).mp value⟩
  · rintro ⟨part, holds, value⟩
    refine ⟨String.ofList part, read?_eq_some_iff.mpr ?_, (spec _).mpr ?_⟩
    · rwa [String.toList_ofList]
    · rwa [String.toList_ofList]

theorem nat?_eq (least greatest : Nat) : env.nat? name least greatest =
    (env.read? name).bind fun text => countOf? least greatest text.toList := rfl

theorem nat?_eq_some_iff {least greatest n : Nat} : env.nat? name least greatest = some n ↔
    ∃ part, Holds (env name) part ∧ Number false least greatest part n :=
  bind_read?_eq_some_iff fun _ => countOf?_eq_some_iff

theorem count?_eq (least : Nat) : env.count? name least =
    (env.read? name).bind fun text => signedCountOf? least (Word.greatest 63) text.toList := by
  unfold count?
  rw [nat?_eq]
  cases env.read? name with
  | none => rfl
  | some text =>
    rw [Option.map_some, Option.bind_some, Option.bind_some]
    split
    · rename_i digits same
      rw [Option.some.inj same]
      rfl
    · rename_i other
      apply Eq.symm
      apply if_neg
      intro minus
      obtain ⟨digits, same⟩ := List.head?_eq_some_iff.mp minus
      exact other digits (congrArg some same)

theorem count?_eq_some_iff {least n : Nat} : env.count? name least = some n ↔
    ∃ part, Holds (env name) part ∧ Number true least (Word.greatest 63) part n := by
  rw [count?_eq]
  exact bind_read?_eq_some_iff fun _ => signedCountOf?_eq_some_iff

theorem delay_eq_some_iff {least unit : Nat} {delay : Delay} :
    ((env.nat? name least (Word.greatest 64)).map (· * unit)) = some delay ↔
      ∃ part, Holds (env name) part ∧ DelayText least unit part delay := by
  simp only [Option.map_eq_some_iff, nat?_eq_some_iff, DelayText, CountText]
  constructor
  · rintro ⟨n, ⟨part, holds, number⟩, rfl⟩
    exact ⟨part, holds, n, number, rfl⟩
  · rintro ⟨part, holds, n, number, rfl⟩
    exact ⟨n, ⟨part, holds, number⟩, rfl⟩

theorem factor_eq (default : Float) : ∃ read : Option Float,
    env.factor name default = read.getD default ∧
      ∀ x, read = some x ↔ ∃ part, Holds (env name) part ∧ FactorText part x := by
  refine ⟨_, rfl, fun x => bind_read?_eq_some_iff fun text => ?_⟩
  simp only [FactorText, ← lenient?_eq_some_iff, Option.bind_eq_bind, Option.bind_eq_some_iff,
    Option.guard_eq_some', Bool.and_eq_true, Option.some.injEq]
  constructor
  · rintro ⟨numeral, read, _, range, rfl⟩
    exact ⟨numeral, read, rfl, range⟩
  · rintro ⟨numeral, read, rfl, range⟩
    exact ⟨numeral, read, ⟨⟩, range, rfl⟩

theorem ofSeconds?_eq (n : Nat) {unit : Int} (nonneg : 0 ≤ unit) : Span.ofSeconds? (n * unit) =
    if n * unit * nanosPerSecond ≤ Span.limit then some ⟨n * unit * nanosPerSecond⟩ else none := by
  have sign : 0 ≤ (n : Int) * unit * nanosPerSecond :=
    Int.mul_nonneg (Int.mul_nonneg (Int.natCast_nonneg n) nonneg) (by decide)
  rw [Span.ofSeconds?, Int.natAbs_of_nonneg sign]

theorem span_eq_some_iff {least : Nat} {unit : Int} (nonneg : 0 ≤ unit) {span : Span} :
    ((env.count? name least).bind fun n => Span.ofSeconds? (n * unit)) = some span ↔
      ∃ part, Holds (env name) part ∧ SpanText least unit part span := by
  simp only [Option.bind_eq_some_iff, count?_eq_some_iff, ofSeconds?_eq _ nonneg,
    Option.ite_none_right_eq_some, Option.some.injEq, SpanText]
  constructor
  · rintro ⟨n, ⟨part, holds, number⟩, fits, rfl⟩
    exact ⟨part, holds, n, number, fits, rfl⟩
  · rintro ⟨part, holds, m, number, fits, rfl⟩
    obtain ⟨n, rfl⟩ := number.natural
    exact ⟨n, ⟨part, holds, number⟩, fits, rfl⟩

theorem span_overlong_iff {least : Nat} {unit : Int} (nonneg : 0 ≤ unit) :
    (∃ n ∈ env.count? name least, Span.ofSeconds? (n * unit) = none) ↔
      ∃ part, Holds (env name) part ∧ Overlong least unit part := by
  simp only [Option.mem_def, count?_eq_some_iff, ofSeconds?_eq _ nonneg, Overlong]
  constructor
  · rintro ⟨n, ⟨part, holds, number⟩, refused⟩
    refine ⟨part, holds, n, number, ?_⟩
    by_contra fits
    rw [if_pos (not_lt.mp fits)] at refused
    cases refused
  · rintro ⟨part, holds, m, number, long⟩
    obtain ⟨n, rfl⟩ := number.natural
    exact ⟨n, ⟨part, holds, number⟩, if_neg (not_le.mpr long)⟩

end Environment

/-! ### The settings -/

/-- The settings of the engine, by the type of their values. -/
inductive Setting : Type → Type
  | retention : Setting (Option Span)
  | lookupBase : Setting String
  | lookupTimeout : Setting Delay
  | lookupAttempts : Setting Nat
  | lookupBackoff : Setting Delay
  | lookupMultiplier : Setting Float
  | lookupMaxBackoff : Setting Delay
  | contractGrace : Setting Span
  | concurrency : Setting Nat
  | pollInterval : Setting Delay
  | deliveryAttempts : Setting Int
  | visibilityTimeout : Setting Delay
  | redeliveryBackoff : Setting Delay
  | redeliveryMaxBackoff : Setting Delay
  | transactionAttempts : Setting Nat
  | stuckPendingAfter : Setting Span
  | catalogPath : Setting String

namespace Setting

open Environment

variable {β : Type}

def variableName : Setting β → String
  | retention => "REMITTANCE_RETENTION_DAYS"
  | lookupBase => "CONTRACT_CLIENT_URL"
  | lookupTimeout => "CONTRACT_CLIENT_TIMEOUT_MILLIS"
  | lookupAttempts => "CONTRACT_CLIENT_MAX_ATTEMPTS"
  | lookupBackoff => "CONTRACT_CLIENT_BACK_OFF_INITIAL_INTERVAL_MILLIS"
  | lookupMultiplier => "CONTRACT_CLIENT_BACK_OFF_MULTIPLIER"
  | lookupMaxBackoff => "CONTRACT_CLIENT_BACK_OFF_MAX_INTERVAL_MILLIS"
  | contractGrace => "CONTRACT_MISSING_GRACE_MINUTES"
  | concurrency => "CONSUMER_CONCURRENCY"
  | pollInterval => "CONSUMER_POLL_INTERVAL_MILLIS"
  | deliveryAttempts => "MESSAGE_MAX_ATTEMPTS"
  | visibilityTimeout => "MESSAGE_VISIBILITY_TIMEOUT_SECS"
  | redeliveryBackoff => "MESSAGE_RETRY_BACKOFF_MILLIS"
  | redeliveryMaxBackoff => "MESSAGE_RETRY_MAX_BACKOFF_MILLIS"
  | transactionAttempts => "REMITTANCE_TX_MAX_ATTEMPTS"
  | stuckPendingAfter => "REMITTANCE_STUCK_PENDING_HOURS"
  | catalogPath => "PRODUCT_CATALOG_PATH"

def of (settings : Settings) : Setting β → β
  | retention => settings.retention
  | lookupBase => settings.contracts.baseUrl
  | lookupTimeout => settings.contracts.timeout
  | lookupAttempts => settings.contracts.maxAttempts
  | lookupBackoff => settings.contracts.initialBackoff
  | lookupMultiplier => settings.contracts.multiplier
  | lookupMaxBackoff => settings.contracts.maxBackoff
  | contractGrace => settings.contractGrace
  | concurrency => settings.consumerConcurrency
  | pollInterval => settings.pollInterval
  | deliveryAttempts => settings.bus.maxAttempts
  | visibilityTimeout => settings.bus.visibilityTimeout
  | redeliveryBackoff => settings.bus.initialBackoff
  | redeliveryMaxBackoff => settings.bus.maxBackoff
  | transactionAttempts => settings.maxTransactionAttempts
  | stuckPendingAfter => settings.stuckPendingAfter
  | catalogPath => settings.catalogPath

def default : Setting β → β
  | retention => none
  | lookupBase => "http://localhost:8000"
  | lookupTimeout => Delay.ofSeconds 10
  | lookupAttempts => 1
  | lookupBackoff => Delay.ofSeconds 1
  | lookupMultiplier => 2
  | lookupMaxBackoff => Delay.ofSeconds 64
  | contractGrace => ⟨30 * 60 * nanosPerSecond⟩
  | concurrency => 4
  | pollInterval => Delay.ofMillis 500
  | deliveryAttempts => 5
  | visibilityTimeout => Delay.ofSeconds 300
  | redeliveryBackoff => Delay.ofSeconds 1
  | redeliveryMaxBackoff => Delay.ofSeconds 300
  | transactionAttempts => 5
  | stuckPendingAfter => ⟨24 * 3600 * nanosPerSecond⟩
  | catalogPath => "config/products.yaml"

/-- The texts that a setting can use, and their values. -/
def Accepts : Setting β → List Char → β → Prop
  | retention, text, kept => ∃ span, SpanText 1 86400 text span ∧ kept = some span
  | contractGrace, text, span => SpanText 0 60 text span
  | stuckPendingAfter, text, span => SpanText 1 3600 text span
  | lookupBase, text, s => s = String.ofList text
  | catalogPath, text, s => s = String.ofList text
  | lookupTimeout, text, delay => DelayText 1 1000000 text delay
  | lookupBackoff, text, delay => DelayText 0 1000000 text delay
  | lookupMaxBackoff, text, delay => DelayText 0 1000000 text delay
  | pollInterval, text, delay => DelayText 1 1000000 text delay
  | visibilityTimeout, text, delay => DelayText 1 1000000000 text delay
  | redeliveryBackoff, text, delay => DelayText 0 1000000 text delay
  | redeliveryMaxBackoff, text, delay => DelayText 0 1000000 text delay
  | lookupAttempts, text, n => CountText 1 32 text n
  | concurrency, text, n => CountText 1 64 text n
  | transactionAttempts, text, n => CountText 1 32 text n
  | deliveryAttempts, text, n => Number true 1 (Word.greatest 31) text n
  | lookupMultiplier, text, x => FactorText text x

/-- The range of a setting. -/
def Sound : Setting β → β → Prop
  | retention, kept => ∀ span ∈ kept, 0 < span.nanos
  | contractGrace, span => 0 ≤ span.nanos
  | stuckPendingAfter, span => 0 < span.nanos
  | lookupTimeout, delay => 0 < delay
  | pollInterval, delay => 0 < delay
  | visibilityTimeout, delay => 0 < delay
  | lookupAttempts, n => 0 < n
  | concurrency, n => 0 < n
  | transactionAttempts, n => 0 < n
  | deliveryAttempts, n => 0 < n
  | lookupMultiplier, x => Amount.isFinite x = true ∧ Amount.le 1 x = true
  | _, _ => True

/-- The least number and the seconds of one, of a setting that is a time on the calendar. -/
def calendarUnit? : Setting β → Option (Nat × Int)
  | retention => some (1, 86400)
  | contractGrace => some (0, 60)
  | stuckPendingAfter => some (1, 3600)
  | _ => none

/-- The value that the variable of a setting gives it. -/
def Usable (setting : Setting β) (value : Option String) (v : β) : Prop :=
  ∃ part, Holds value part ∧ setting.Accepts part v

/-- The variable of a setting holds a number that is too long for a span. -/
def Unspannable (setting : Setting β) (value : Option String) : Prop :=
  ∃ part, Holds value part ∧
    ∃ unit ∈ setting.calendarUnit?, Overlong unit.1 unit.2 part

theorem default_sound (setting : Setting β) : setting.Sound setting.default := by
  cases setting with
  | retention => rintro span ⟨⟩
  | lookupMultiplier => exact ⟨by decide, by decide⟩
  | lookupBase | catalogPath => trivial
  | lookupBackoff | lookupMaxBackoff | redeliveryBackoff | redeliveryMaxBackoff => trivial
  | _ =>
    simp only [Sound, default]
    decide

theorem accepts_sound {setting : Setting β} {text : List Char} {v : β}
    (accepts : setting.Accepts text v) : setting.Sound v := by
  cases setting with
  | retention =>
    obtain ⟨span, usable, rfl⟩ := accepts
    rintro _ ⟨⟩
    exact usable.positive (by decide) (by decide)
  | contractGrace => exact accepts.nonneg (by decide)
  | stuckPendingAfter => exact accepts.positive (by decide) (by decide)
  | lookupTimeout | pollInterval | visibilityTimeout => exact accepts.positive (by decide) (by decide)
  | lookupAttempts | concurrency | transactionAttempts => exact Int.ofNat_lt.mp accepts.2.1
  | deliveryAttempts => exact accepts.2.1
  | lookupMultiplier =>
    obtain ⟨_, _, _, range⟩ := accepts
    exact range
  | _ => trivial

end Setting

namespace Settings

open Environment

variable {env env' : Environment} {settings settings' : Settings} {β : Type}

theorem spanOf_eq_some {count : Option Nat} {ofCount : Int → Option Span} {read : Option Span}
    (some : spanOf count ofCount = some read) : read = count.bind fun n => ofCount n := by
  cases count with
  | none =>
    cases some
    rfl
  | some n =>
    obtain ⟨span, long, rfl⟩ := Option.map_eq_some_iff.mp some
    exact long.symm

theorem spanOf_eq_none_iff {count : Option Nat} {ofCount : Int → Option Span} :
    spanOf count ofCount = none ↔ ∃ n ∈ count, ofCount n = none := by
  cases count with
  | none => simp [spanOf]
  | some n => simp [spanOf]

theorem getD_map_some (read : Option β) : (read.map some).getD none = read := by
  cases read <;> rfl

theorem map_some_iff {read kept : Option Span} {value : Option String}
    {usable : List Char → Span → Prop}
    (spec : ∀ span, read = some span ↔ ∃ part, Holds value part ∧ usable part span) :
    read.map some = some kept ↔
      ∃ part, Holds value part ∧ ∃ span, usable part span ∧ kept = some span := by
  rw [Option.map_eq_some_iff]
  constructor
  · rintro ⟨span, same, rfl⟩
    obtain ⟨part, holds, accepted⟩ := (spec span).mp same
    exact ⟨part, holds, span, accepted, rfl⟩
  · rintro ⟨part, holds, span, accepted, rfl⟩
    exact ⟨span, (spec span).mpr ⟨part, holds, accepted⟩, rfl⟩

/-- A setting is what its variable gives it, and else its default. -/
theorem source (setting : Setting β) (settled : ofEnvironment env = some settings) :
    ∃ read : Option β, setting.of settings = read.getD setting.default ∧
      ∀ v, read = some v ↔ setting.Usable (env setting.variableName) v := by
  simp only [ofEnvironment, Option.bind_eq_bind, Option.bind_eq_some_iff] at settled
  obtain ⟨retention, keeps, grace, waits, stuck, gives, made⟩ := settled
  obtain rfl := Option.some.inj made
  obtain rfl := spanOf_eq_some keeps
  obtain rfl := spanOf_eq_some waits
  obtain rfl := spanOf_eq_some gives
  cases setting with
  | retention =>
    exact ⟨_, (getD_map_some _).symm, fun v =>
      map_some_iff fun span => Environment.span_eq_some_iff (by decide)⟩
  | contractGrace => exact ⟨_, rfl, fun v => Environment.span_eq_some_iff (by decide)⟩
  | stuckPendingAfter => exact ⟨_, rfl, fun v => Environment.span_eq_some_iff (by decide)⟩
  | lookupBase | catalogPath => exact ⟨_, rfl, fun v => Environment.text_eq_some_iff⟩
  | lookupTimeout | lookupBackoff | lookupMaxBackoff | pollInterval | visibilityTimeout
  | redeliveryBackoff | redeliveryMaxBackoff =>
    exact ⟨_, rfl, fun v => Environment.delay_eq_some_iff⟩
  | lookupAttempts | concurrency | transactionAttempts =>
    exact ⟨_, rfl, fun v => Environment.nat?_eq_some_iff⟩
  | deliveryAttempts =>
    refine ⟨_, rfl, fun n => ?_⟩
    rw [Option.map_eq_some_iff]
    constructor
    · rintro ⟨n, read, rfl⟩
      obtain ⟨part, holds, number⟩ := Environment.nat?_eq_some_iff.mp read
      exact ⟨part, holds, (number_positive (by decide)).mpr number⟩
    · rintro ⟨part, holds, number⟩
      obtain ⟨n, rfl⟩ := Number.natural number
      exact ⟨n, Environment.nat?_eq_some_iff.mpr
        ⟨part, holds, (number_positive (by decide)).mp number⟩, rfl⟩
  | lookupMultiplier => exact Environment.factor_eq _

theorem same_source {setting : Setting β} (settled : ofEnvironment env = some settings)
    (settled' : ofEnvironment env' = some settings')
    (same : env' setting.variableName = env setting.variableName) :
    setting.of settings' = setting.of settings := by
  obtain ⟨read, value, usable⟩ := source setting settled
  obtain ⟨read', value', usable'⟩ := source setting settled'
  have equal : read' = read := by
    ext v
    rw [usable, usable', same]
  rw [value, value', equal]

theorem ofEnvironment_eq_none : ofEnvironment env = none ↔
    spanOf (env.count? "REMITTANCE_RETENTION_DAYS" 1) Span.ofDays? = none ∨
      spanOf (env.count? "CONTRACT_MISSING_GRACE_MINUTES" 0) Span.ofMinutes? = none ∨
      spanOf (env.count? "REMITTANCE_STUCK_PENDING_HOURS" 1) Span.ofHours? = none := by
  unfold ofEnvironment
  cases spanOf (env.count? "REMITTANCE_RETENTION_DAYS" 1) Span.ofDays? with
  | none => simp
  | some retention =>
    cases spanOf (env.count? "CONTRACT_MISSING_GRACE_MINUTES" 0) Span.ofMinutes? with
    | none => simp
    | some grace =>
      cases spanOf (env.count? "REMITTANCE_STUCK_PENDING_HOURS" 1) Span.ofHours? <;> simp

theorem ofEnvironment_eq_none_iff : ofEnvironment env = none ↔
    ∃ β, ∃ setting : Setting β, setting.Unspannable (env setting.variableName) := by
  have long {name : String} {least : Nat} {unit : Int} (nonneg : 0 ≤ unit) :
      spanOf (env.count? name least) (fun n => Span.ofSeconds? (n * unit)) = none ↔
        ∃ part, Holds (env name) part ∧ Overlong least unit part :=
    spanOf_eq_none_iff.trans (Environment.span_overlong_iff nonneg)
  rw [ofEnvironment_eq_none]
  constructor
  · rintro (kept | waits | gives)
    · obtain ⟨part, holds, overlong⟩ := (long (by decide)).mp kept
      exact ⟨_, .retention, part, holds, _, rfl, overlong⟩
    · obtain ⟨part, holds, overlong⟩ := (long (by decide)).mp waits
      exact ⟨_, .contractGrace, part, holds, _, rfl, overlong⟩
    · obtain ⟨part, holds, overlong⟩ := (long (by decide)).mp gives
      exact ⟨_, .stuckPendingAfter, part, holds, _, rfl, overlong⟩
  · rintro ⟨β, setting, part, holds, unit, timed, overlong⟩
    cases setting with
    | retention =>
      cases timed
      exact .inl ((long (by decide)).mpr ⟨part, holds, overlong⟩)
    | contractGrace =>
      cases timed
      exact .inr (.inl ((long (by decide)).mpr ⟨part, holds, overlong⟩))
    | stuckPendingAfter =>
      cases timed
      exact .inr (.inr ((long (by decide)).mpr ⟨part, holds, overlong⟩))
    | _ => cases timed

/-- There are settings unless a time on the calendar is too long for a span. Each is in its range,
is the value of its own variable if the text there is usable, and else the default; so it is the
same in every environment that agrees on that variable. -/
theorem settings_or_defaults (env : Environment) :
    (ofEnvironment env = none ↔
      ∃ β, ∃ setting : Setting β, setting.Unspannable (env setting.variableName)) ∧
    ∀ settings, ofEnvironment env = some settings → ∀ β, ∀ setting : Setting β,
      setting.Sound (setting.of settings) ∧
      (∀ v, setting.Usable (env setting.variableName) v → setting.of settings = v) ∧
      ((∀ v, ¬setting.Usable (env setting.variableName) v) →
        setting.of settings = setting.default) ∧
      ∀ env' settings', ofEnvironment env' = some settings' →
        env' setting.variableName = env setting.variableName →
        setting.of settings' = setting.of settings := by
  refine ⟨ofEnvironment_eq_none_iff, ?_⟩
  intro settings settled β setting
  obtain ⟨read, value, usable⟩ := source setting settled
  refine ⟨?_, ?_, ?_, fun _ _ => same_source settled⟩
  · rw [value]
    cases read with
    | none => exact setting.default_sound
    | some v =>
      obtain ⟨_, _, accepts⟩ := (usable v).mp rfl
      exact Setting.accepts_sound accepts
  · intro v accepted
    rw [value, (usable v).mpr accepted, Option.getD_some]
  · intro unusable
    cases read with
    | none => exact value
    | some v => exact absurd ((usable v).mp rfl) (unusable v)

/-- Seventy days of retention, and no number of consumers. -/
def partly : Environment := fun name =>
  if name = "REMITTANCE_RETENTION_DAYS" then some " 70 "
  else if name = "CONSUMER_CONCURRENCY" then some "zero" else none

theorem settings_or_defaults_partly : ∃ settings settings', ofEnvironment partly = some settings ∧
    ofEnvironment (fun _ => none) = some settings' ∧
    settings.retention = some ⟨70 * 86400 * nanosPerSecond⟩ ∧ settings.consumerConcurrency = 4 ∧
    settings'.pollInterval = settings.pollInterval := by
  have completes : (ofEnvironment partly).isSome = true := by decide +kernel
  have completes' : (ofEnvironment fun _ => none).isSome = true := by decide +kernel
  obtain ⟨settings, settled⟩ := Option.isSome_iff_exists.mp completes
  obtain ⟨settings', settled'⟩ := Option.isSome_iff_exists.mp completes'
  have each := (settings_or_defaults partly).2 settings settled
  refine ⟨settings, settings', settled, settled', ?_, ?_, ?_⟩
  · apply (each _ .retention).2.1
    have encloses : Text.Encloses " 70 ".toList ['7', '0'] :=
      Text.trimmed_eq_iff.mp (by decide +kernel)
    have digits : Decimal.Run ['7', '0'] := by decide
    have inRange : (1 : Int) ≤ 70 ∧ (70 : Int) ≤ (Word.greatest 63 : Nat) := by decide +kernel
    have fits : (70 : Int) * 86400 * nanosPerSecond ≤ Span.limit := by decide +kernel
    exact ⟨['7', '0'], ⟨by decide, _, rfl, encloses⟩, _, ⟨70, ⟨.plain digits, inRange⟩, fits, rfl⟩,
      rfl⟩
  · apply (each _ .concurrency).2.2.1
    intro n usable
    have unread : partly.nat? "CONSUMER_CONCURRENCY" 1 (Word.greatest 64) = none := by decide +kernel
    cases unread.symm.trans (Environment.nat?_eq_some_iff.mpr usable)
  · exact (each _ .pollInterval).2.2.2 _ _ settled' (by decide)

/-- As many days of retention as a word with a sign can count. -/
def endless : Environment := fun name =>
  if name = "REMITTANCE_RETENTION_DAYS" then some "9223372036854775807" else none

/-- No span is as long, and instead of the default there are no settings. -/
theorem endless_retention_refused : ofEnvironment endless = none := by
  have nothing : (ofEnvironment endless).isNone = true := by decide +kernel
  exact Option.isNone_iff_eq_none.mp nothing

end Settings
end MeteredBilling
