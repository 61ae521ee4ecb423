import MeteredBilling.Proofs.Dates
import MeteredBilling.Proofs.Periods

/-!
# Timestamps read back

The timestamp that is written of an instant is read as that instant. Each part of it is read up to
the mark that follows, which is no digit and no blank.
-/

namespace MeteredBilling

open Decimal Text

theorem isBlank_of_isDigit {c : Char} (digit : c.isDigit = true) : isBlank c = false := by
  have bounds := digit_bounds digit
  have zero : '0'.toNat = 48 := rfl
  simp [isBlank]
  omega

namespace Calendar

namespace Timestamp

theorem le_byteLength (text : List Char) : text.length ≤ byteLength text := by
  have grows : ∀ (text : List Char) (start : Nat),
      start + text.length ≤ text.foldl (fun length c => length + c.utf8Size) start := by
    intro text
    induction text with
    | nil => exact fun start => Nat.le_refl start
    | cons c rest ih =>
      intro start
      have step := ih (start + c.utf8Size)
      have size := Char.utf8Size_pos c
      rw [List.foldl_cons, List.length_cons]
      omega
  have all := grows text 0
  rwa [Nat.zero_add] at all

variable {β γ : Type} {text middle rest digits : List Char} {value : β} {n : Nat}

/-- From a text the reader takes a value, and leaves the rest. -/
def Reads (reader : Reader β) (text : List Char) (value : β) (rest : List Char) : Prop :=
  reader.run text = .ok (value, rest)

namespace Reads

theorem pure (value : β) (text : List Char) :
    Reads (Pure.pure value) text value text := rfl

theorem get (text : List Char) : Reads MonadState.get text text text := rfl

theorem set (text rest : List Char) : Reads (MonadStateOf.set rest) text ⟨⟩ rest := rfl

theorem bind {reader : Reader β} {later : β → Reader γ} {last : γ}
    (first : Reads reader text value middle) (next : Reads (later value) middle last rest) :
    Reads (reader >>= later) text last rest := by
  unfold Reads at first next ⊢
  rw [StateT.run_bind, first]
  exact next

theorem discard {reader : Reader β} (first : Reads reader text value rest) :
    Reads (Functor.discard reader) text ⟨⟩ rest := by
  unfold Reads at first ⊢
  change (Functor.map (fun _ => PUnit.unit) reader).run text = _
  rw [StateT.run_map, first]
  rfl

theorem passes {wrong : Prop} [Decidable wrong] {reader failing : Reader β} (fine : ¬wrong)
    (next : Reads reader text value rest) :
    Reads (if wrong then failing else reader) text value rest := by
  rw [if_neg fine]
  exact next

theorem blanks (plain : ∀ c ∈ text.head?, isBlank c = false) :
    Reads Timestamp.blanks text ⟨⟩ text := by
  have kept : text.dropWhile isBlank = text := by
    cases text with
    | nil => rfl
    | cons c rest => exact List.dropWhile_cons_of_neg (by simp [plain c rfl])
  change Except.ok (PUnit.unit, text.dropWhile isBlank) = _
  rw [kept]

theorem character {isExpected : Char → Bool} {c : Char} (expected : isExpected c = true)
    (rest : List Char) : Reads (Timestamp.character isExpected) (c :: rest) c rest := by
  unfold Timestamp.character
  refine (get _).bind ?_
  simp only [expected, Bool.not_true, Bool.false_eq_true, if_false]
  exact (set _ _).bind (pure c rest)

theorem literal (c : Char) (rest : List Char) :
    Reads (Timestamp.literal c) (c :: rest) ⟨⟩ rest :=
  (character (beq_self_eq_true c) rest).discard

theorem number {least most : Nat} (digit : ∀ c ∈ digits, c.isDigit = true)
    (enough : least ≤ digits.length) (short : digits.length ≤ most)
    (stop : digits.length = most ∨ ∀ c ∈ rest.head?, c.isDigit = false) :
    Reads (Timestamp.number least most) (digits ++ rest) (digitsValue digits) rest := by
  have front : ((digits ++ rest).take most).takeWhile Char.isDigit = digits := by
    rw [List.take_append, List.take_of_length_le short, List.takeWhile_append_of_pos digit]
    rcases stop with full | mark
    · rw [full, Nat.sub_self, List.take_zero, List.takeWhile_nil, List.append_nil]
    · cases rest with
      | nil => rw [List.take_nil, List.takeWhile_nil, List.append_nil]
      | cons c rest =>
        cases most - digits.length with
        | zero => rw [List.take_zero, List.takeWhile_nil, List.append_nil]
        | succ left =>
          have none : ¬c.isDigit = true := by simp [mark c rfl]
          rw [List.take_succ_cons, List.takeWhile_cons_of_neg none, List.append_nil]
  have size : ¬byteLength (digits ++ rest) < least := by
    have bytes := le_byteLength (digits ++ rest)
    rw [List.length_append] at bytes
    omega
  unfold Timestamp.number
  refine (get _).bind (passes size ?_)
  rw [front]
  refine passes (Nat.not_lt.mpr enough) ((set _ _).bind ?_)
  rw [List.drop_left]
  exact pure _ _

/-! ### The parts of the tolerant form -/

theorem looseLiteral {c : Char} (plain : isBlank c = false) (rest : List Char) :
    Reads (Timestamp.looseLiteral c) (c :: rest) ⟨⟩ rest := by
  refine (blanks ?_).bind (literal c rest)
  rintro c ⟨⟩
  exact plain

theorem head_padded {width : Nat} {c : Char} (positive : 0 < width)
    (head : c ∈ (padded width n ++ rest).head?) : c.isDigit = true := by
  have filled : padded width n ≠ [] := by
    intro nothing
    have size : (padded width n).length = 0 := by rw [nothing]; rfl
    simp only [padded, natText, List.length_append, List.length_replicate] at size
    omega
  obtain ⟨first, more, shape⟩ := List.exists_cons_of_ne_nil filled
  rw [shape, List.cons_append, List.head?_cons] at head
  cases head
  exact isDigit_of_mem_padded (shape ▸ List.mem_cons_self)

/-- A number of two digits that is within its bounds. -/
theorem looseNumber {least greatest : Nat} (above : least ≤ n) (below : n ≤ greatest)
    (fits : n < 100) (rest : List Char) :
    Reads (Timestamp.looseNumber 2 least greatest) (padded 2 n ++ rest) n rest := by
  have size : (padded 2 n).length = 2 := length_padded (by decide) fits
  have read : Reads (Timestamp.number 1 2) (padded 2 n ++ rest) (digitsValue (padded 2 n)) rest :=
    number (fun c member => isDigit_of_mem_padded member) (by omega) (by omega) (.inl size)
  rw [digitsValue_padded] at read
  refine (blanks fun c head => isBlank_of_isDigit (head_padded (by decide) head)).bind ?_
  refine read.bind (passes ?_ (pure n rest))
  simp only [Bool.or_eq_true, decide_eq_true_iff]
  omega

theorem four_le_padded (n : Nat) : 4 ≤ (padded 4 n).length := by
  simp only [padded, List.length_append, List.length_replicate]
  omega

theorem signedYear (year : Int) (rest : List Char) :
    Reads Timestamp.signedYear (Instant.yearText year ++ '-' :: rest) year ('-' :: rest) := by
  have digit : ∀ c ∈ padded 4 year.natAbs, c.isDigit = true :=
    fun c member => isDigit_of_mem_padded member
  have mark : ∀ c ∈ ('-' :: rest).head?, c.isDigit = false := by
    rintro c ⟨⟩
    rfl
  have long := four_le_padded year.natAbs
  -- Behind a sign any number of digits is read.
  have unbounded : Reads (Timestamp.number 1 (padded 4 year.natAbs ++ '-' :: rest).length)
      (padded 4 year.natAbs ++ '-' :: rest) (digitsValue (padded 4 year.natAbs)) ('-' :: rest) := by
    refine number digit (by omega) ?_ (.inr mark)
    rw [List.length_append]
    exact Nat.le_add_right _ _
  rw [digitsValue_padded] at unbounded
  unfold Instant.yearText Timestamp.signedYear
  by_cases negative : year < 0
  · have value : year = -(year.natAbs : Int) := by omega
    rw [if_pos negative]
    refine (get _).bind ((set _ _).bind (unbounded.bind ?_))
    rw [← value]
    exact pure _ _
  · have value : (year.natAbs : Int) = year := by omega
    rw [if_neg negative]
    by_cases five : 9999 < year
    · rw [if_pos five]
      refine (get _).bind ((set _ _).bind (unbounded.bind ?_))
      rw [value]
      exact pure _ _
    · have size : (padded 4 year.natAbs).length = 4 := length_padded (by decide) (by omega)
      have read : Reads (Timestamp.number 1 4) (padded 4 year.natAbs ++ '-' :: rest)
          (digitsValue (padded 4 year.natAbs)) ('-' :: rest) :=
        number digit (by omega) (Nat.le_of_eq size) (.inl size)
      rw [digitsValue_padded] at read
      rw [if_neg five]
      refine (get _).bind ?_
      have digits {c : Char} {more : List Char}
          (shape : padded 4 year.natAbs ++ '-' :: rest = c :: more) : c.isDigit = true := by
        have head : c ∈ (padded 4 year.natAbs ++ '-' :: rest).head? := by
          rw [shape]
          rfl
        exact head_padded (by decide) head
      split
      · rename_i shape
        cases digits shape
      · rename_i shape
        cases digits shape
      · refine read.bind ?_
        rw [value]
        exact pure _ _

theorem looseYear {year : Int} (word : Word.holds 32 year = true) (rest : List Char) :
    Reads Timestamp.looseYear (Instant.yearText year ++ '-' :: rest) year ('-' :: rest) := by
  have plain : ∀ c ∈ (Instant.yearText year ++ '-' :: rest).head?, isBlank c = false := by
    intro c head
    unfold Instant.yearText at head
    dsimp only at head
    split at head
    · cases head
      rfl
    · split at head
      · cases head
        rfl
      · exact isBlank_of_isDigit (head_padded (by decide) head)
  refine (blanks plain).bind ((signedYear year rest).bind (passes ?_ (pure _ _)))
  simp [word]

theorem fraction {width : Nat} (positive : 0 < width) (short : width ≤ 9) (fits : n < 10 ^ width) :
    Reads Timestamp.subsecond ('.' :: (padded width n ++ ['Z'])) (n * 10 ^ (9 - width)) ['Z'] := by
  have digit : ∀ c ∈ padded width n, c.isDigit = true :=
    fun c member => isDigit_of_mem_padded member
  have size := length_padded positive fits
  have read : Reads (Timestamp.number 1 9) (padded width n ++ ['Z']) (digitsValue (padded width n))
      ['Z'] := by
    refine number digit (by omega) (by omega) (.inr ?_)
    rintro c ⟨⟩
    rfl
  have start : (padded width n ++ ['Z']).takeWhile Char.isDigit = padded width n := by
    rw [List.takeWhile_append_of_pos digit]
    exact List.append_nil _
  rw [digitsValue_padded] at read
  unfold Timestamp.subsecond
  refine (get _).bind ((set _ _).bind (read.bind ?_))
  rw [start, size]
  rfl

theorem subsecond (t : Instant) :
    Reads Timestamp.subsecond (t.fractionText ++ ['Z']) t.subsecond ['Z'] := by
  have fits : t.subsecond < 1000000000 := Nat.mod_lt _ (by decide)
  unfold Instant.fractionText
  generalize t.subsecond = nanos at fits ⊢
  dsimp only
  split
  · rename_i none
    rw [none]
    rfl
  · split
    · have millis := fraction (n := nanos / 1000000) (by decide : 0 < 3) (by decide) (by omega)
      have whole : nanos / 1000000 * 10 ^ (9 - 3) = nanos := by omega
      rwa [whole] at millis
    · split
      · have micros := fraction (n := nanos / 1000) (by decide : 0 < 6) (by decide) (by omega)
        have whole : nanos / 1000 * 10 ^ (9 - 6) = nanos := by omega
        rwa [whole] at micros
      · have all := fraction (n := nanos) (by decide : 0 < 9) (by decide) (by omega)
        rwa [Nat.sub_self, Nat.pow_zero, Nat.mul_one] at all

theorem looseOffset : Reads Timestamp.looseOffset ['Z'] 0 [] := by
  have plain : ∀ c ∈ ['Z'].head?, isBlank c = false := by
    rintro c ⟨⟩
    rfl
  have other : ¬(['Z'].map Char.toUpper == "UTC".toList) = true := by decide
  refine (blanks plain).bind ((get _).bind (passes other ?_))
  exact (character (by decide) []).bind (pure 0 [])

end Reads
end Timestamp

namespace Instant

/-- A moment on the calendar that a clock can show: a second is a leap second only at the end of a
minute. -/
structure Shown (t : Instant) : Prop where
  first : earliest ≤ t
  last : t ≤ latest
  fraction : t.fraction < 1000000000 ∨ t.fraction < 2000000000 ∧ t.second % 60 = 59

namespace Shown

variable {t : Instant}

theorem supported (shown : Shown t) : t.supported? = some t := if_pos ⟨shown.first, shown.last⟩

theorem year_bounds (shown : Shown t) :
    Date.firstYear ≤ t.date.year ∧ t.date.year ≤ Date.lastYear := by
  have first : earliest.date.year = Date.firstYear := by decide +kernel
  have last : latest.date.year = Date.lastYear := by decide +kernel
  have above := yearOf_mono (dayNumber_mono shown.first)
  have below := yearOf_mono (dayNumber_mono shown.last)
  exact ⟨first ▸ above, last ▸ below⟩

theorem isValid (shown : Shown t) : t.date.isValid = true :=
  Date.isValid_iff.mpr ⟨Date.isDay_ofNumber _, shown.year_bounds⟩

end Shown
end Instant

namespace Timestamp.Reads

variable {t : Instant} {rest : List Char}

theorem dateOf (shown : t.Shown) (rest : List Char) :
    Reads (Timestamp.dateOf t.date.year t.date.month t.date.day) rest t.date rest := by
  refine passes ?_ (pure t.date rest)
  simp [shown.isValid]

theorem localOf (shown : t.Shown) (rest : List Char) : Reads (Timestamp.localOf t.date
    (t.secondOfDay / 3600) (t.secondOfDay / 60 % 60) (t.secondOfDay % 60 + t.isLeap.toNat)
    t.subsecond) rest t rest := by
  have day : t.secondOfDay < 86400 := by
    simp only [Instant.secondOfDay, secondsPerDay]
    omega
  have clock : t.secondOfDay / 3600 * 3600 + t.secondOfDay / 60 % 60 * 60 + t.secondOfDay % 60 =
      t.secondOfDay := by omega
  have billion : nanosPerSecond.toNat = 1000000000 := rfl
  have whole := Instant.ofDate_date t
  unfold Timestamp.localOf
  cases leap : t.isLeap with
  | true =>
    have long : 1000000000 ≤ t.fraction := by simpa [Instant.isLeap, nanosPerSecond] using leap
    obtain ⟨short, last⟩ : t.fraction < 2000000000 ∧ t.second % 60 = 59 := by
      rcases shown.fraction with short | leap
      · omega
      · exact leap
    have minute : t.secondOfDay % 60 = 59 := by
      simp only [Instant.secondOfDay, secondsPerDay]
      omega
    have nanos : nanosPerSecond.toNat + t.subsecond = t.fraction := by
      simp only [Instant.subsecond, billion]
      omega
    refine passes ?_ ?_
    · simp only [Bool.or_eq_true, decide_eq_true_iff, minute, Bool.toNat_true]
      omega
    · rw [minute] at clock ⊢
      dsimp only
      rw [if_pos (show 59 + true.toNat = 60 from rfl), clock, nanos, whole]
      exact pure t rest
  | false =>
    have short : t.fraction < 1000000000 := by simpa [Instant.isLeap, nanosPerSecond] using leap
    have nanos : t.subsecond = t.fraction := by
      simp only [Instant.subsecond, billion]
      omega
    have below : ¬t.secondOfDay % 60 + false.toNat = 60 := by
      have mod := Nat.mod_lt t.secondOfDay (show 0 < 60 by decide)
      rw [Bool.toNat_false]
      omega
    refine passes ?_ ?_
    · simp only [Bool.or_eq_true, decide_eq_true_iff, Bool.toNat_false]
      omega
    · dsimp only
      rw [if_neg below, Bool.toNat_false, Nat.add_zero, clock, nanos, whole]
      exact pure t rest

theorem universal (shown : t.Shown) (rest : List Char) :
    Reads (Timestamp.universal t 0) rest t rest := by
  unfold Timestamp.universal
  refine passes (by decide) ?_
  have still : t.shift? (-0) = some t := by
    unfold Instant.shift?
    rw [Int.neg_zero, Int.add_zero]
    exact shown.supported
  rw [still]
  exact pure t rest

theorem loose (shown : t.Shown) : Reads Timestamp.loose t.timestamp.toList t [] := by
  have date : t.date.IsDay := Date.isDay_ofNumber t.dayNumber
  have month := date.month_le
  have days := (daysBefore_le (isLeapYear t.date.year) t.date.month (by omega) date.month_pos).2
  have upto := date.day_le
  have day : t.secondOfDay < 86400 := by
    simp only [Instant.secondOfDay, secondsPerDay]
    omega
  have leap := Bool.toNat_le t.isLeap
  obtain ⟨least, most⟩ := shown.year_bounds
  have word : Word.holds 32 t.date.year = true := by
    simp only [Date.firstYear, Date.lastYear] at least most
    have low : -(Word.count (32 - 1) : Int) = -2147483648 := by decide
    have high : (Word.greatest (32 - 1) : Int) = 2147483647 := by decide
    simp only [Word.holds, Bool.and_eq_true, decide_eq_true_iff, low, high]
    omega
  rw [Instant.timestamp, String.toList_ofList]
  simp only [Instant.dateText, Instant.timeText, List.append_assoc, List.cons_append]
  unfold Timestamp.loose
  refine (Reads.looseYear word _).bind ?_
  refine (Reads.looseLiteral rfl _).bind ?_
  refine (Reads.looseNumber date.month_pos month (by omega) _).bind ?_
  refine (Reads.looseLiteral rfl _).bind ?_
  refine (Reads.looseNumber date.day_pos (by omega) (by omega) _).bind ?_
  refine (Reads.character rfl _).discard.bind ?_
  refine (Reads.looseNumber (Nat.zero_le _) (by omega) (by omega) _).bind ?_
  refine (Reads.looseLiteral rfl _).bind ?_
  refine (Reads.looseNumber (Nat.zero_le _) (by omega) (by omega) _).bind ?_
  refine (Reads.looseLiteral rfl _).bind ?_
  refine (Reads.looseNumber (Nat.zero_le _) (by omega) (by omega) _).bind ?_
  refine (Reads.subsecond t).bind (Reads.looseOffset.bind ?_)
  have nothing : Reads Timestamp.blanks [] ⟨⟩ [] := rfl
  refine nothing.bind ((Reads.get _).bind (passes (by decide) ?_))
  exact (dateOf shown _).bind ((localOf shown _).bind (universal shown _))

end Timestamp.Reads

/-- The timestamp of a moment reads as that moment. -/
theorem Instant.ofLooseTimestamp_timestamp {t : Instant} (shown : t.Shown) :
    ofLooseTimestamp t.timestamp = .ok t := by
  unfold ofLooseTimestamp
  rw [Timestamp.Reads.loose shown]
  rfl

end Calendar
end MeteredBilling
