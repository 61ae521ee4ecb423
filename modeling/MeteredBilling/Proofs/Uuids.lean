import Mathlib.Tactic.Ring
import MeteredBilling.Uuid

/-!
# Identifiers read back

An identifier is written in 32 digits with hyphens between them, and read as itself.
-/

namespace MeteredBilling.Uuid

theorem digitChar_digit : ∀ d < 16,
    hexValue? (Nat.digitChar d) = some d ∧ Nat.digitChar d ≠ '-' := by
  decide

theorem hexText_succ (count n : Nat) :
    hexText (count + 1) n = Nat.digitChar (n / 16 ^ count % 16) :: hexText count n := by
  unfold hexText
  rw [List.range_succ, List.reverse_append, List.reverse_singleton, List.map_append]
  rfl

theorem length_hexText (count n : Nat) : (hexText count n).length = count := by
  simp [hexText]

theorem hyphen_not_mem {count n : Nat} {c : Char} (member : c ∈ hexText count n) : c ≠ '-' := by
  obtain ⟨i, _, rfl⟩ := List.mem_map.mp member
  exact (digitChar_digit _ (Nat.mod_lt _ (by decide))).2

/-- The digits read behind a value put it up by their number, and add theirs. -/
theorem hexNumber_hexText (count n value : Nat) :
    (hexText count n).foldlM (fun value c => (hexValue? c).map (value * 16 + ·)) value =
      some (value * 16 ^ count + n % 16 ^ count) := by
  induction count generalizing value with
  | zero => simp [hexText, Nat.mod_one]
  | succ count ih =>
    have digit := (digitChar_digit (n / 16 ^ count % 16) (Nat.mod_lt _ (by decide))).1
    have parts : n % 16 ^ (count + 1) = n % 16 ^ count + 16 ^ count * (n / 16 ^ count % 16) := by
      rw [Nat.pow_succ, Nat.mod_mul]
    rw [hexText_succ, List.foldlM_cons, digit]
    change List.foldlM _ (value * 16 + n / 16 ^ count % 16) (hexText count n) = _
    rw [ih, parts, Nat.pow_succ]
    congr 1
    ring

theorem simple?_hexText (id : Uuid) : simple? (hexText 32 id.bits.toNat) = some id := by
  have within : id.bits.toNat < 16 ^ 32 := id.bits.isLt
  have number : hexNumber? (hexText 32 id.bits.toNat) = some id.bits.toNat := by
    unfold hexNumber?
    rw [hexNumber_hexText, Nat.zero_mul, Nat.zero_add, Nat.mod_eq_of_lt within]
  unfold simple?
  rw [if_pos (length_hexText ..), number, Option.map_some, BitVec.ofNat_toNat, BitVec.setWidth_eq]

/-- The digits in their groups, which hyphens stand between. -/
theorem groups (digits : List Char) : digits.take 8 ++ (digits.drop 8).take 4 ++
    (digits.drop 12).take 4 ++ (digits.drop 16).take 4 ++ digits.drop 20 = digits := by
  have next (from_ : Nat) : (digits.drop from_).take 4 ++ digits.drop (from_ + 4) =
      digits.drop from_ := by
    rw [← List.drop_drop, List.take_append_drop]
  rw [List.append_assoc, List.append_assoc, List.append_assoc, next 16, next 12, next 8,
    List.take_append_drop]

theorem filter_chars (id : Uuid) : id.chars.filter (· != '-') = hexText 32 id.bits.toNat := by
  have plain {part : List Char} (within : part ⊆ hexText 32 id.bits.toNat) :
      part.filter (· != '-') = part :=
    List.filter_eq_self.mpr fun c member => bne_iff_ne.mpr (hyphen_not_mem (within member))
  have first := plain (List.take_subset 8 _)
  have last := plain (List.drop_subset 20 _)
  have between (start : Nat) := plain
    (List.Subset.trans (List.take_subset 4 _) (List.drop_subset start (hexText 32 id.bits.toNat)))
  have dropped (part : List Char) :
      ('-' :: part).filter (· != '-') = part.filter (· != '-') := rfl
  unfold chars
  dsimp only
  simp only [List.filter_append, dropped, first, between, last]
  exact groups _

theorem length_chars (id : Uuid) : id.chars.length = 36 := by
  simp [chars, length_hexText]

theorem hyphenated?_chars (id : Uuid) : hyphenated? id.chars = some id := by
  have size := length_chars id
  have marks : ∀ i ∈ [8, 13, 18, 23], id.chars[i]? = some '-' := by
    simp [chars, List.getElem?_append, length_hexText]
  simp only [List.forall_mem_cons] at marks
  obtain ⟨first, second, third, fourth, _⟩ := marks
  unfold hyphenated?
  rw [filter_chars, simple?_hexText]
  simp only [size, first, second, third, fourth]
  rfl

theorem parse_text (id : Uuid) : parse id.text = .ok id := by
  have read : parse? id.text = some id := by
    unfold parse? text
    rw [String.toList_ofList]
    simp only [length_chars]
    exact hyphenated?_chars id
  unfold parse
  rw [read]

end MeteredBilling.Uuid
