import Mathlib.Data.List.DropRight
import MeteredBilling.Decimal.Numeral
import MeteredBilling.Proofs.Endpoint
import MeteredBilling.Proofs.Periods

/-!
# Numerals in settings

Which texts the readers of settings accept: what stands between blanks, whole numbers with a sign
or none, and decimal numerals in their lenient grammar.
-/

namespace MeteredBilling

namespace Text

/-- The text has blanks at its ends, and between them a part that no blank starts or ends. -/
structure Encloses (text part : List Char) : Prop where
  parts : ∃ before after, text = before ++ part ++ after ∧
    ∀ c ∈ before ++ after, isBlank c = true
  head : ∀ c ∈ part.head?, isBlank c = false
  last : ∀ c ∈ part.getLast?, isBlank c = false

theorem encloses_trimmed (text : List Char) : Encloses text (trimmed text) := by
  have split := List.rdropWhile_append_rtakeWhile (p := isBlank) (l := text.dropWhile isBlank)
  constructor
  · refine ⟨text.takeWhile isBlank, (text.dropWhile isBlank).rtakeWhile isBlank, ?_, ?_⟩
    · change text = _ ++ (text.dropWhile isBlank).rdropWhile isBlank ++ _
      rw [List.append_assoc, split, List.takeWhile_append_dropWhile]
    · intro c member
      rcases List.mem_append.mp member with front | back
      · exact List.mem_takeWhile_imp front
      · exact List.mem_rtakeWhile_imp back
  · intro c first
    change c ∈ ((text.dropWhile isBlank).rdropWhile isBlank).head? at first
    have starts : (text.dropWhile isBlank).head? = some c := by
      rw [← split, List.head?_append, first, Option.some_or]
    have visible := List.head?_dropWhile_not isBlank text
    rwa [starts] at visible
  · intro c ends
    obtain ⟨nonempty, rfl⟩ := List.mem_getLast?_eq_getLast ends
    exact Bool.eq_false_iff.mpr (List.rdropWhile_last_not isBlank _ nonempty)

theorem trimmed_eq_iff {text part : List Char} : trimmed text = part ↔ Encloses text part := by
  constructor
  · rintro rfl
    exact encloses_trimmed text
  · rintro ⟨⟨before, after, rfl, blank⟩, head, last⟩
    have front : ∀ c ∈ before, isBlank c = true := fun c member =>
      blank c (List.mem_append_left _ member)
    have back : ∀ c ∈ after, isBlank c = true := fun c member =>
      blank c (List.mem_append_right _ member)
    rw [trimmed, List.append_assoc, List.dropWhile_append_of_pos front]
    cases part with
    | nil =>
      rw [List.nil_append, List.dropWhile_eq_nil_iff.mpr back]
      rfl
    | cons c rest =>
      have starts : ¬isBlank c = true := by simp [head c rfl]
      have nothing : dropTrailing isBlank after = [] := List.rdropWhile_eq_nil_iff.mpr back
      rw [List.cons_append, List.dropWhile_cons_of_neg starts, ← List.cons_append,
        dropTrailing_append (dropTrailing_eq_self last), nothing, List.append_nil]

end Text

namespace Decimal

variable {text digits rest : List Char} {n : Nat}

/-- Digits, and at least one. -/
def Run (digits : List Char) : Prop := digits ≠ [] ∧ ∀ c ∈ digits, c.isDigit = true

theorem run_iff : (!digits.isEmpty && digits.all Char.isDigit) = true ↔ Run digits := by
  simp [Run]

instance (digits : List Char) : Decidable (Run digits) := decidable_of_iff _ run_iff

theorem nat?_eq_some_iff :
    nat? text = some n ↔ Run text ∧ n = Nat.ofDigitChars 10 text 0 := by
  rw [← digitsValue_eq]
  unfold nat?
  by_cases run : Run text
  · rw [if_pos (run_iff.mpr run)]
    constructor
    · intro read
      exact ⟨run, (Option.some.inj read).symm⟩
    · rintro ⟨_, rfl⟩
      rfl
  · rw [if_neg fun test => run (run_iff.mp test)]
    constructor
    · intro read
      cases read
    · intro ⟨other, _⟩
      exact absurd other run

theorem not_sign_of_isDigit {c : Char} (digit : c.isDigit = true) : c ≠ '-' ∧ c ≠ '+' := by
  constructor
  · rintro rfl
    cases digit
  · rintro rfl
    cases digit

theorem Run.bare (run : Run text) : ∀ c ∈ text.head?, c ≠ '-' ∧ c ≠ '+' := fun c first =>
  not_sign_of_isDigit (run.2 c (List.mem_of_mem_head? first))

/-- The text of a whole number: digits behind a sign or none, where a minus sign may be refused. -/
inductive Whole (signed : Bool) : List Char → Int → Prop
  | plain {digits : List Char} (run : Run digits) :
      Whole signed digits (Nat.ofDigitChars 10 digits 0)
  | plus {digits : List Char} (run : Run digits) :
      Whole signed ('+' :: digits) (Nat.ofDigitChars 10 digits 0)
  | minus {digits : List Char} (allowed : signed = true) (run : Run digits) :
      Whole signed ('-' :: digits) (-(Nat.ofDigitChars 10 digits 0))

/-- The text of a number in a range. -/
def Number (signed : Bool) (least greatest : Nat) (text : List Char) (n : Int) : Prop :=
  Whole signed text n ∧ least ≤ n ∧ n ≤ greatest

/-- What stands behind a plus sign, if there is one. -/
def behindPlus (text : List Char) : List Char :=
  match text with
  | '+' :: rest => rest
  | chars => chars

theorem nat?_behindPlus {text : List Char} {n : Nat} :
    nat? (behindPlus text) = some n ↔ Whole false text n := by
  constructor
  · intro read
    unfold behindPlus at read
    split at read
    · obtain ⟨run, rfl⟩ := nat?_eq_some_iff.mp read
      exact .plus run
    · obtain ⟨run, rfl⟩ := nat?_eq_some_iff.mp read
      exact .plain run
  · intro whole
    generalize value : (n : Int) = m at whole
    cases whole with
    | plain run =>
      have bare : behindPlus text = text := by
        unfold behindPlus
        split
        · exact absurd rfl (run.bare '+' rfl).2
        · rfl
      rw [bare]
      exact nat?_eq_some_iff.mpr ⟨run, Int.ofNat.inj value⟩
    | plus run => exact nat?_eq_some_iff.mpr ⟨run, Int.ofNat.inj value⟩
    | minus refused => cases refused

def countOf? (least greatest : Nat) (text : List Char) : Option Nat := do
  let n ← nat? (behindPlus text)
  guard (least ≤ n && n ≤ greatest)
  some n

theorem countOf?_eq_some_iff {least greatest n : Nat} {text : List Char} :
    countOf? least greatest text = some n ↔ Number false least greatest text n := by
  simp only [countOf?, Number, ← nat?_behindPlus, Option.bind_eq_bind, Option.bind_eq_some_iff,
    Option.guard_eq_some', Bool.and_eq_true, decide_eq_true_eq, Option.some.injEq, Nat.cast_le]
  constructor
  · rintro ⟨_, read, _, within, rfl⟩
    exact ⟨read, within⟩
  · rintro ⟨read, within⟩
    exact ⟨n, read, ⟨⟩, within, rfl⟩

theorem whole_minus {signed : Bool} {digits : List Char} {m : Int}
    (whole : Whole signed ('-' :: digits) m) :
    signed = true ∧ Run digits ∧ m = -(Nat.ofDigitChars 10 digits 0) := by
  generalize listed : '-' :: digits = text at whole
  cases whole with
  | plain run => exact absurd rfl (run.bare '-' (listed ▸ rfl)).1
  | plus run => cases listed
  | minus allowed run =>
    cases listed
    exact ⟨allowed, run, rfl⟩

theorem Number.natural {signed : Bool} {least greatest : Nat} {text : List Char} {m : Int}
    (number : Number signed least greatest text m) : ∃ n : Nat, m = n := by
  obtain ⟨_, low, _⟩ := number
  exact Int.eq_ofNat_of_zero_le (by omega)

/-- A minus sign makes no number of the range, but for zero. -/
theorem number_minus {least greatest n : Nat} {digits : List Char} :
    Number true least greatest ('-' :: digits) n ↔
      (least = 0 ∧ nat? digits = some 0) ∧ 0 = n := by
  rw [nat?_eq_some_iff]
  constructor
  · rintro ⟨whole, low, _⟩
    obtain ⟨_, run, value⟩ := whole_minus whole
    exact ⟨⟨by omega, run, by omega⟩, by omega⟩
  · rintro ⟨⟨rfl, run, zero⟩, rfl⟩
    have whole := Whole.minus rfl run
    rw [← zero] at whole
    exact ⟨whole, Int.le_refl 0, Int.natCast_nonneg greatest⟩

theorem whole_bare {signed signed' : Bool} {text : List Char} {n : Int}
    (bare : ∀ digits, text ≠ '-' :: digits) (whole : Whole signed text n) :
    Whole signed' text n := by
  cases whole with
  | plain run => exact .plain run
  | plus run => exact .plus run
  | minus => exact absurd rfl (bare _)

theorem number_unsigned {least greatest : Nat} {text : List Char} {n : Int}
    (bare : ∀ digits, text ≠ '-' :: digits) :
    Number true least greatest text n ↔ Number false least greatest text n := by
  constructor
  · rintro ⟨whole, range⟩
    exact ⟨whole_bare bare whole, range⟩
  · rintro ⟨whole, range⟩
    exact ⟨whole_bare bare whole, range⟩

/-- A number behind a sign, of which only zero may have a minus sign. -/
def signedCountOf? (least greatest : Nat) (text : List Char) : Option Nat :=
  if text.head? = some '-' then
    if least = 0 && nat? text.tail = some 0 then some 0 else none
  else countOf? least greatest text

theorem signedCountOf?_eq_some_iff {least greatest n : Nat} {text : List Char} :
    signedCountOf? least greatest text = some n ↔ Number true least greatest text n := by
  unfold signedCountOf?
  split
  · rename_i minus
    obtain ⟨digits, rfl⟩ := List.head?_eq_some_iff.mp minus
    rw [number_minus, List.tail_cons, Option.ite_none_right_eq_some, Option.some.injEq]
    simp only [Bool.and_eq_true, decide_eq_true_eq]
  · rename_i other
    have bare : ∀ digits, text ≠ '-' :: digits := by
      rintro digits rfl
      exact other rfl
    rw [number_unsigned bare]
    exact countOf?_eq_some_iff

theorem number_positive {least greatest : Nat} {text : List Char} {n : Int} (positive : 0 < least) :
    Number true least greatest text n ↔ Number false least greatest text n := by
  by_cases minus : ∃ digits, text = '-' :: digits
  · obtain ⟨digits, rfl⟩ := minus
    constructor
    · rintro ⟨whole, low, _⟩
      obtain ⟨_, _, value⟩ := whole_minus whole
      omega
    · rintro ⟨whole, _⟩
      obtain ⟨refused, _⟩ := whole_minus whole
      cases refused
  · exact number_unsigned fun digits same => minus ⟨digits, same⟩

/-! ### The lenient grammar -/

/-- A sign or none; whether it is a minus sign. -/
inductive Sign : List Char → Bool → Prop
  | none : Sign [] false
  | plus : Sign ['+'] false
  | minus : Sign ['-'] true

/-- A point with the digits behind it, which may be none, or no point. -/
inductive Places : List Char → Option (List Char) → Prop
  | none : Places [] none
  | point {digits : List Char} (all : ∀ c ∈ digits, c.isDigit = true) :
      Places ('.' :: digits) (some digits)

/-- A power of ten behind its mark, or none. -/
inductive Power : List Char → Option Int → Prop
  | none : Power [] none
  | mark {mark : Char} {sign digits : List Char} {negative : Bool}
      (letter : mark = 'e' ∨ mark = 'E') (signed : Sign sign negative) (run : Run digits) :
      Power (mark :: (sign ++ digits)) (some (if negative then -(digitsValue digits : Int)
        else digitsValue digits))

/-- A sign, digits around a point on at least one side of it, and a power of ten. -/
inductive Spells : List Char → Numeral → Prop
  | intro {sign whole point tail : List Char} {negative : Bool} {places : Option (List Char)}
      {power : Option Int} (signed : Sign sign negative) (all : ∀ c ∈ whole, c.isDigit = true)
      (pointed : Places point places) (filled : whole ++ places.getD [] ≠ [])
      (powered : Power tail power) :
      Spells (sign ++ whole ++ point ++ tail) (.build negative whole places power)

/-- No digit goes on in front of the rest. -/
def Ends (rest : List Char) : Prop := ∀ c ∈ rest.head?, c.isDigit = false

theorem digits_split (all : ∀ c ∈ digits, c.isDigit = true) (ends : Ends rest) :
    (digits ++ rest).takeWhile Char.isDigit = digits ∧
      (digits ++ rest).dropWhile Char.isDigit = rest := by
  rw [List.takeWhile_append_of_pos all, List.dropWhile_append_of_pos all]
  cases rest with
  | nil => simp
  | cons c rest =>
    have stops := ends c rfl
    simp [stops]

/-- Whether a text has a minus sign in front, and what is behind a sign. -/
def signed (text : List Char) : Bool × List Char :=
  match text with
  | '-' :: rest => (true, rest)
  | '+' :: rest => (false, rest)
  | _ => (false, text)

theorem sign_signed (text : List Char) :
    ∃ sign, Sign sign (signed text).1 ∧ text = sign ++ (signed text).2 := by
  unfold signed
  split
  · exact ⟨['-'], .minus, rfl⟩
  · exact ⟨['+'], .plus, rfl⟩
  · exact ⟨[], .none, rfl⟩

theorem signed_bare (minus : ∀ rest, text ≠ '-' :: rest) (plus : ∀ rest, text ≠ '+' :: rest) :
    signed text = (false, text) := by
  unfold signed
  split
  · exact absurd rfl (minus _)
  · exact absurd rfl (plus _)
  · rfl

theorem signed_append {sign body : List Char} {negative : Bool} (leads : Sign sign negative)
    (bare : ∀ c ∈ body.head?, c ≠ '-' ∧ c ≠ '+') : signed (sign ++ body) = (negative, body) := by
  cases leads with
  | none =>
    apply signed_bare
    · rintro rest rfl
      exact (bare '-' rfl).1 rfl
    · rintro rest rfl
      exact (bare '+' rfl).2 rfl
  | plus => rfl
  | minus => rfl

/-- A power of ten after its mark and sign. -/
def powerOf? (negative : Bool) (rest : List Char) : Option (Option Int × List Char) :=
  if (rest.takeWhile Char.isDigit).isEmpty then none
  else some (some (if negative then -(digitsValue (rest.takeWhile Char.isDigit) : Int)
    else digitsValue (rest.takeWhile Char.isDigit)), rest.dropWhile Char.isDigit)

theorem exponent?_marked {mark : Char} (letter : mark = 'e' ∨ mark = 'E') :
    exponent? (mark :: rest) = powerOf? (signed rest).1 (signed rest).2 := by
  have marked : (mark == 'e' || mark == 'E') = true := by
    simpa using letter
  simp only [exponent?, marked, if_true]
  split
  · rfl
  · rfl
  · rename_i minus plus
    rw [signed_bare minus plus]
    rfl

theorem powerOf?_eq_some_iff {negative : Bool} {power : Option Int} :
    powerOf? negative digits = some (power, []) ↔ Run digits ∧
      power = some (if negative then -(digitsValue digits : Int) else digitsValue digits) := by
  unfold powerOf?
  constructor
  · intro read
    split at read
    · cases read
    · rename_i nonempty
      obtain ⟨rfl, ended⟩ := Prod.mk.inj (Option.some.inj read)
      have all : digits.takeWhile Char.isDigit = digits := by
        have split := List.takeWhile_append_dropWhile (p := Char.isDigit) (l := digits)
        rwa [ended, List.append_nil] at split
      rw [all] at nonempty ⊢
      exact ⟨⟨by simpa using nonempty, List.takeWhile_eq_self_iff.mp all⟩, rfl⟩
  · rintro ⟨⟨nonempty, all⟩, rfl⟩
    have whole := List.takeWhile_eq_self_iff.mpr all
    have ended := List.dropWhile_eq_nil_iff.mpr all
    rw [whole, ended, if_neg (by simpa using nonempty)]

theorem exponent?_eq_some_iff {tail : List Char} {power : Option Int} :
    exponent? tail = some (power, []) ↔ Power tail power := by
  constructor
  · intro read
    cases tail with
    | nil =>
      cases read
      exact .none
    | cons mark rest =>
      by_cases letter : mark = 'e' ∨ mark = 'E'
      · obtain ⟨sign, leads, parts⟩ := sign_signed rest
        rw [exponent?_marked letter] at read
        obtain ⟨run, rfl⟩ := powerOf?_eq_some_iff.mp read
        have marked := Power.mark letter leads run
        rwa [← parts] at marked
      · simp [exponent?, letter] at read
  · intro powered
    cases powered with
    | none => rfl
    | mark letter leads run =>
      rw [exponent?_marked letter, signed_append leads run.bare]
      exact powerOf?_eq_some_iff.mpr ⟨run, rfl⟩

theorem Power.ends {tail : List Char} {power : Option Int} (powered : Power tail power) :
    Ends tail ∧ ∀ rest, tail ≠ '.' :: rest := by
  cases powered with
  | none =>
    constructor
    · rintro c ⟨⟩
    · rintro rest ⟨⟩
  | mark letter =>
    constructor
    · rintro c ⟨⟩
      rcases letter with rfl | rfl <;> rfl
    · rintro rest ⟨⟩
      rcases letter with letter | letter <;> cases letter

theorem fraction_pointed {point tail : List Char} {places : Option (List Char)} {power : Option Int}
    (pointed : Places point places) (powered : Power tail power) :
    fraction (point ++ tail) = (places, tail) := by
  obtain ⟨ends, pointless⟩ := powered.ends
  cases pointed with
  | none =>
    unfold fraction
    split
    · rename_i rest same
      exact absurd same (pointless rest)
    · rfl
  | @point digits all =>
    obtain ⟨taken, left⟩ := digits_split all ends
    change (some ((digits ++ tail).takeWhile _), (digits ++ tail).dropWhile _) = _
    rw [taken, left]

theorem fraction_places (rest : List Char) :
    ∃ point, Places point (fraction rest).1 ∧ rest = point ++ (fraction rest).2 := by
  unfold fraction
  split
  · rename_i rest
    refine ⟨'.' :: rest.takeWhile Char.isDigit, .point fun c => List.mem_takeWhile_imp, ?_⟩
    rw [List.cons_append, List.takeWhile_append_dropWhile]
  · exact ⟨[], .none, rfl⟩

/-- A numeral behind its sign. -/
def unsigned? (negative : Bool) (body : List Char) : Option Numeral := do
  let whole := body.takeWhile Char.isDigit
  let (places, rest) := fraction (body.dropWhile Char.isDigit)
  guard (!(whole ++ places.getD []).isEmpty)
  let (power, rest) ← exponent? rest
  guard rest.isEmpty
  some (.build negative whole places power)

theorem lenient?_eq (text : List Char) :
    lenient? text = unsigned? (signed text).1 (signed text).2 := rfl

theorem unsigned?_eq_some_iff {negative : Bool} {body : List Char} {numeral : Numeral} :
    unsigned? negative body = some numeral ↔ ∃ power,
      body.takeWhile Char.isDigit ++ (fraction (body.dropWhile Char.isDigit)).1.getD [] ≠ [] ∧
      Power (fraction (body.dropWhile Char.isDigit)).2 power ∧
      numeral = .build negative (body.takeWhile Char.isDigit)
        (fraction (body.dropWhile Char.isDigit)).1 power := by
  simp only [← exponent?_eq_some_iff]
  unfold unsigned?
  simp only [Option.bind_eq_bind, Option.bind_eq_some_iff, Option.guard_eq_some', Bool.not_eq_true',
    List.isEmpty_eq_false_iff, List.isEmpty_iff, Prod.exists, Option.some.injEq]
  constructor
  · rintro ⟨_, filled, power, rest, powered, _, rfl, rfl⟩
    exact ⟨power, filled, powered, rfl⟩
  · rintro ⟨power, filled, powered, rfl⟩
    exact ⟨⟨⟩, filled, power, [], powered, ⟨⟩, rfl, rfl⟩

theorem Places.ends {point tail : List Char} {places : Option (List Char)} {power : Option Int}
    (pointed : Places point places) (powered : Power tail power) : Ends (point ++ tail) := by
  cases pointed with
  | none => exact powered.ends.1
  | point =>
    rintro c ⟨⟩
    rfl

/-- In front of a numeral without a sign stands a digit or the point. -/
theorem Places.bare {whole point tail : List Char} {places : Option (List Char)}
    (all : ∀ c ∈ whole, c.isDigit = true) (pointed : Places point places)
    (filled : whole ++ places.getD [] ≠ []) :
    ∀ c ∈ (whole ++ (point ++ tail)).head?, c ≠ '-' ∧ c ≠ '+' := by
  intro c first
  cases whole with
  | nil =>
    cases pointed with
    | none => exact absurd rfl filled
    | point =>
      cases first
      decide
  | cons d rest =>
    cases first
    exact not_sign_of_isDigit (all c List.mem_cons_self)

theorem lenient?_eq_some_iff {numeral : Numeral} :
    lenient? text = some numeral ↔ Spells text numeral := by
  rw [lenient?_eq, unsigned?_eq_some_iff]
  constructor
  · rintro ⟨power, filled, powered, rfl⟩
    obtain ⟨sign, leads, parts⟩ := sign_signed text
    obtain ⟨point, pointed, after⟩ := fraction_places ((signed text).2.dropWhile Char.isDigit)
    have spelled := Spells.intro leads (fun c => List.mem_takeWhile_imp) pointed filled powered
    rwa [List.append_assoc, List.append_assoc, ← after, List.takeWhile_append_dropWhile,
      ← parts] at spelled
  · intro spelled
    cases spelled with
    | @intro sign whole point tail negative places power leads all pointed filled powered =>
      obtain ⟨taken, left⟩ := digits_split all (pointed.ends powered)
      have read := fraction_pointed pointed powered
      rw [List.append_assoc, List.append_assoc, signed_append leads (pointed.bare all filled)]
      simp only [taken, left, read]
      exact ⟨power, filled, powered, rfl⟩

end Decimal
end MeteredBilling
