import Mathlib.Data.List.Nodup
import MeteredBilling.Memory.Rows

/-!
# Rows by key

Which row a key has after each change of the table. A table holds a key once at the most, and every
change keeps it so.
-/

namespace MeteredBilling.RowTable

variable {α : Type} {t : RowTable α} {key other : RemittanceKey}

/-- At most one row is stored under the key. -/
def Single (t : RowTable α) (key : RemittanceKey) : Prop := (t.entries.map (·.1)).count key ≤ 1

theorem lookup_other {stored : RemittanceKey} (row : Remittance α)
    (rest : List (RemittanceKey × Remittance α)) (different : key ≠ stored) :
    ((stored, row) :: rest).lookup key = rest.lookup key := by
  have unequal : (key == stored) = false := by simpa using different
  rw [List.lookup_cons, unequal]

theorem lookup_eq_none_iff {entries : List (RemittanceKey × Remittance α)} :
    entries.lookup key = none ↔ key ∉ entries.map (·.1) := by
  rw [List.lookup_eq_none_iff, List.mem_map, not_exists]
  refine forall_congr' fun entry => ?_
  rw [not_and, bne_iff_ne, ne_comm]

theorem single_of_absent (absent : t.get? key = none) : t.Single key := by
  rw [Single, List.count_eq_zero.mpr (lookup_eq_none_iff.mp absent)]
  exact Nat.zero_le 1

theorem get?_of_mem {row : Remittance α} (single : t.Single key) (member : (key, row) ∈ t.entries) :
    t.get? key = some row := by
  obtain ⟨front, rest, parts⟩ := List.append_of_mem member
  rw [Single, parts, List.map_append, List.map_cons, List.count_append, List.count_cons_self]
    at single
  have unlisted : key ∉ front.map (·.1) := List.count_eq_zero.mp (by omega)
  refine List.lookup_eq_some_iff.mpr ⟨front, rest, parts, fun entry listed => ?_⟩
  have different : key ≠ entry.1 := fun same => unlisted (same ▸ List.mem_map_of_mem listed)
  simpa using different

theorem mem_rows {row : Remittance α} (single : ∀ key, t.Single key) (member : row ∈ t.rows) :
    ∃ key, t.get? key = some row := by
  obtain ⟨⟨key, row⟩, listed, rfl⟩ := List.mem_map.mp member
  exact ⟨key, get?_of_mem (single key) listed⟩

/-! ### A row is stored -/

@[simp] theorem get?_put_self (t : RowTable α) (key : RemittanceKey) (row : Remittance α) :
    (t.put key row).get? key = some row := by
  obtain ⟨entries⟩ := t
  simp only [get?, put]
  induction entries with
  | nil => simp [putEntry]
  | cons entry rest ih =>
    obtain ⟨stored, old⟩ := entry
    by_cases same : stored = key
    · simp [putEntry, same]
    · rw [putEntry, if_neg same, lookup_other _ _ (Ne.symm same), ih]

theorem get?_put_other (t : RowTable α) (row : Remittance α) (different : other ≠ key) :
    (t.put key row).get? other = t.get? other := by
  obtain ⟨entries⟩ := t
  simp only [get?, put]
  induction entries with
  | nil => rw [putEntry, lookup_other _ _ different]
  | cons entry rest ih =>
    obtain ⟨stored, old⟩ := entry
    by_cases same : stored = key
    · subst same
      simp only [putEntry, if_true, lookup_other _ _ different]
    · rw [putEntry, if_neg same, List.lookup_cons, List.lookup_cons, ih]

theorem keys_put (t : RowTable α) (row : Remittance α) :
    (t.put key row).entries.map (·.1) =
      if key ∈ t.entries.map (·.1) then t.entries.map (·.1) else t.entries.map (·.1) ++ [key] := by
  obtain ⟨entries⟩ := t
  simp only [put]
  induction entries with
  | nil => simp [putEntry]
  | cons entry rest ih =>
    obtain ⟨stored, old⟩ := entry
    by_cases same : stored = key
    · simp [putEntry, same]
    · simp only [putEntry, same, if_false, List.map_cons, ih, List.mem_cons, Ne.symm same, false_or]
      split <;> rfl

theorem entries_put_other (t : RowTable α) (key : RemittanceKey) (row : Remittance α) :
    (t.put key row).entries.filter (·.1 ≠ key) = t.entries.filter (·.1 ≠ key) := by
  obtain ⟨entries⟩ := t
  simp only [put]
  induction entries with
  | nil => simp [putEntry]
  | cons entry rest ih =>
    by_cases same : entry.1 = key
    · simp [putEntry, same]
    · rw [putEntry, if_neg same, List.filter_cons, List.filter_cons, ih]

theorem single_put (row : Remittance α) (single : t.Single other) :
    (t.put key row).Single other := by
  unfold Single at single ⊢
  rw [keys_put]
  split
  · exact single
  · rename_i absent
    by_cases same : key = other
    · subst same
      simp [List.count_eq_zero.mpr absent]
    · simpa [List.count_append, same] using single

/-! ### Rows are changed or removed -/

theorem awaits_iff {ids : List Uuid} {update : StatusUpdate} {row : Remittance α} :
    awaits ids update row = true ↔
      row.id ∈ ids ∧ row.tallyId = update.tallyId ∧ row.status = .pending := by
  simp [awaits, and_assoc]

theorem isStuck_iff {cutoff : Calendar.Instant} {row : Remittance α} :
    isStuck cutoff row = true ↔ row.status = .pending ∧ row.pendingDate < cutoff := by
  simp [isStuck]

@[simp] theorem get?_modify (t : RowTable α) (select : Remittance α → Bool)
    (change : Remittance α → Remittance α) (key : RemittanceKey) :
    (t.modify select change).get? key =
      (t.get? key).map fun row => if select row then change row else row := by
  obtain ⟨entries⟩ := t
  simp only [get?, modify]
  induction entries with
  | nil => rfl
  | cons entry rest ih =>
    obtain ⟨stored, row⟩ := entry
    simp only [List.map_cons, List.lookup_cons]
    split
    · rfl
    · exact ih

/-- Changes of rows do not show in what they keep. -/
theorem map_modify {β : Type} {view : Remittance α → β} {change : Remittance α → Remittance α}
    (select : Remittance α → Bool) (key : RemittanceKey)
    (keeps : ∀ row, view (change row) = view row) :
    ((t.modify select change).get? key).map view = (t.get? key).map view := by
  rw [get?_modify, Option.map_map]
  congr 1
  funext row
  simp only [Function.comp_apply]
  split
  · exact keeps row
  · rfl

theorem single_modify (select : Remittance α → Bool) (change : Remittance α → Remittance α)
    (single : t.Single key) : (t.modify select change).Single key := by
  simpa [Single, modify, Function.comp_def] using single

theorem get?_remove (select : Remittance α → Bool) (single : t.Single key) :
    (t.remove select).get? key = (t.get? key).filter (!select ·) := by
  obtain ⟨entries⟩ := t
  simp only [Single, get?, remove] at single ⊢
  induction entries with
  | nil => rfl
  | cons entry rest ih =>
    obtain ⟨stored, row⟩ := entry
    by_cases same : stored = key
    · subst same
      have unlisted : stored ∉ rest.map (·.1) := by
        simp only [List.map_cons, List.count_cons_self] at single
        exact List.count_eq_zero.mp (by omega)
      cases selected : select row with
      | false => simp [selected, Option.filter]
      | true =>
        have gone : (rest.filter fun entry => !select entry.2).lookup stored = none := by
          rw [lookup_eq_none_iff]
          exact fun listed => unlisted ((List.filter_sublist.map _).subset listed)
        simpa [selected, Option.filter] using gone
    · have rest_single : (rest.map (·.1)).count key ≤ 1 := by
        simpa [List.count_cons, same] using single
      rw [lookup_other _ _ (Ne.symm same), ← ih rest_single]
      cases selected : select row with
      | true => simp [selected]
      | false => simp [selected, lookup_other _ _ (Ne.symm same)]

/-- Which rows go is seen in what is seen of the rows. -/
theorem map_remove {view : Remittance α → Remittance α} {select : Remittance α → Bool}
    (single : t.Single key) (blind : ∀ row, select (view row) = select row) :
    ((t.remove select).get? key).map view = ((t.get? key).map view).filter (!select ·) := by
  rw [get?_remove _ single]
  cases t.get? key with
  | none => rfl
  | some row =>
    cases selected : select row with
    | true => simp [Option.filter, selected, blind]
    | false => simp [Option.filter, selected, blind]

theorem single_remove (select : Remittance α → Bool) (single : t.Single key) :
    (t.remove select).Single key :=
  Nat.le_trans (List.Sublist.count_le key (List.filter_sublist.map _)) single

/-! ### The first row is changed -/

section First

variable {select : Remittance α → Bool} {change : Remittance α → Remittance α}

theorem keys_modifyFirst (t : RowTable α) (select : Remittance α → Bool)
    (change : Remittance α → Remittance α) :
    (t.modifyFirst select change).entries.map (·.1) = t.entries.map (·.1) := by
  obtain ⟨entries⟩ := t
  simp only [modifyFirst]
  induction entries with
  | nil => rfl
  | cons entry rest ih =>
    rw [changeFirst]
    split
    · rfl
    · rw [List.map_cons, List.map_cons, ih]

theorem single_modifyFirst (select : Remittance α → Bool) (change : Remittance α → Remittance α)
    (single : t.Single key) : (t.modifyFirst select change).Single key := by
  rwa [Single, keys_modifyFirst]

/-- The row of a key stays as it is, or it is selected and changes. -/
theorem get?_modifyFirst (t : RowTable α) (select : Remittance α → Bool)
    (change : Remittance α → Remittance α) (key : RemittanceKey) :
    (t.modifyFirst select change).get? key = t.get? key ∨
      ∃ row ∈ t.get? key, select row = true ∧
        (t.modifyFirst select change).get? key = some (change row) := by
  obtain ⟨entries⟩ := t
  simp only [get?, modifyFirst]
  induction entries with
  | nil => exact .inl rfl
  | cons entry rest ih =>
    obtain ⟨stored, row⟩ := entry
    cases selected : select row with
    | true =>
      rw [changeFirst, if_pos selected]
      by_cases same : key = stored
      · subst same
        exact .inr ⟨row, by simp, selected, by simp⟩
      · exact .inl (by rw [lookup_other _ _ same, lookup_other _ _ same])
    | false =>
      rw [changeFirst, if_neg (by simp [selected])]
      by_cases same : key = stored
      · subst same
        exact .inl (by simp)
      · rw [lookup_other _ _ same, lookup_other _ _ same]
        exact ih

theorem map_modifyFirst {β : Type} {view : Remittance α → β} (select : Remittance α → Bool)
    (key : RemittanceKey) (keeps : ∀ row, view (change row) = view row) :
    ((t.modifyFirst select change).get? key).map view = (t.get? key).map view := by
  rcases get?_modifyFirst t select change key with same | ⟨row, stored, _, changed⟩
  · rw [same]
  · rw [changed, Option.mem_def.mp stored, Option.map_some, Option.map_some, keeps]

/-- One row alone is changed. -/
theorem modifyFirst_parts (change : Remittance α → Remittance α)
    (stored : ∃ row ∈ t.rows, select row = true) :
    ∃ front key row rest, t.entries = front ++ (key, row) :: rest ∧
      (∀ entry ∈ front, select entry.2 = false) ∧ select row = true ∧
      (t.modifyFirst select change).entries = front ++ (key, change row) :: rest := by
  obtain ⟨entries⟩ := t
  simp only [rows, modifyFirst] at stored ⊢
  induction entries with
  | nil => simp at stored
  | cons entry rest ih =>
    cases selected : select entry.2 with
    | true =>
      have changed : changeFirst select change (entry :: rest) =
          (entry.1, change entry.2) :: rest := by
        rw [changeFirst, if_pos selected]
      exact ⟨[], entry.1, entry.2, rest, rfl, by simp, selected, changed⟩
    | false =>
      have later : ∃ row ∈ rest.map (·.2), select row = true := by
        simpa [selected] using stored
      obtain ⟨front, key, row, behind, parts, passed, found, changed⟩ := ih later
      refine ⟨entry :: front, key, row, behind, by rw [parts, List.cons_append], ?_, found, ?_⟩
      · exact List.forall_mem_cons.mpr ⟨selected, passed⟩
      · rw [changeFirst, if_neg (by simp [selected]), changed, List.cons_append]

theorem modifyFirst_eq_modify (lone : t.count select ≤ 1) :
    t.modifyFirst select change = t.modify select change := by
  obtain ⟨entries⟩ := t
  simp only [count, rows, modifyFirst, modify, RowTable.mk.injEq] at lone ⊢
  induction entries with
  | nil => rfl
  | cons entry rest ih =>
    cases selected : select entry.2 with
    | false =>
      rw [changeFirst, if_neg (by simp [selected]), List.map_cons, ih]
      · simp [selected]
      · simpa [selected] using lone
    | true =>
      -- The row is the only one, so that all rows behind it stay.
      have others : ∀ other ∈ rest, select other.2 = false := by
        simpa [selected, List.filter_map] using lone
      rw [changeFirst, if_pos selected, List.map_cons, if_pos selected]
      have same : ∀ other ∈ rest,
          (other.1, if select other.2 then change other.2 else other.2) = id other :=
        fun other listed => by simp [others other listed]
      rw [List.map_congr_left same, List.map_id]

/-- Where no two rows share an identifier, it selects one row at the most. -/
theorem count_id_le (unique : (t.rows.map (·.id)).Nodup) (id : Uuid) :
    t.count (·.id == id) ≤ 1 := by
  have once := List.nodup_iff_count_le_one.mp unique id
  rwa [List.count_eq_countP, List.countP_map, List.countP_eq_length_filter] at once

end First

/-! ### The table as a whole -/

section Whole

variable {select : Remittance α → Bool} {change change' : Remittance α → Remittance α}

theorem modify_eq (same : ∀ row, (if select row then change row else row) = change' row) :
    t.modify select change = t.modify (fun _ => true) change' := by
  simp only [modify, same, if_true]

theorem modify_same (same : ∀ row, change row = row) : t.modify (fun _ => true) change = t := by
  simp [modify, same]

/-- Only what becomes of the rows of the table counts. -/
theorem modify_congr {select' : Remittance α → Bool}
    (same : ∀ row ∈ t.rows,
      (if select row then change row else row) = if select' row then change' row else row) :
    t.modify select change = t.modify select' change' := by
  simp only [modify, RowTable.mk.injEq]
  refine List.map_congr_left fun entry member => ?_
  rw [same entry.2 (List.mem_map_of_mem member)]

theorem modify_of_none (unselected : ∀ row ∈ t.rows, select row = false) :
    t.modify select change = t := by
  have nothing : t.modify select change = t.modify (fun _ => true) id :=
    modify_congr fun row member => by simp [unselected row member]
  exact nothing.trans (modify_same fun _ => rfl)

theorem modify_comm (commute : ∀ row, change' (change row) = change (change' row)) :
    (t.modify (fun _ => true) change).modify (fun _ => true) change' =
      (t.modify (fun _ => true) change').modify (fun _ => true) change := by
  simp [modify, commute]

theorem count_modify (same : ∀ row, select (change row) = select row) :
    (t.modify (fun _ => true) change).count select = t.count select := by
  simp [count, rows, modify, List.filter_map, Function.comp_def, same]

/-- The keys of the selected rows, as many as there are rows, are those whose row changes. -/
theorem changed_keys (single : ∀ key, t.Single key)
    (changes : ∀ row, select row = true → change row ≠ row) :
    ∃ keys : List RemittanceKey, keys.Nodup ∧ keys.length = t.count select ∧
      ∀ key, key ∈ keys ↔ (t.modify select change).get? key ≠ t.get? key := by
  have distinct : (t.entries.map (·.1)).Nodup := List.nodup_iff_count_le_one.mpr single
  refine ⟨(t.entries.filter fun entry => select entry.2).map (·.1),
    distinct.sublist (List.filter_sublist.map _), ?_, fun key => ?_⟩
  · simp [count, rows, List.filter_map, Function.comp_def]
  · rw [get?_modify]
    constructor
    · intro member
      obtain ⟨⟨key, row⟩, listed, rfl⟩ := List.mem_map.mp member
      obtain ⟨stored, selected⟩ := List.mem_filter.mp listed
      have present := get?_of_mem (single key) stored
      have new := changes row selected
      simpa [present, selected] using new
    · intro changed
      cases present : t.get? key with
      | none => simp [present] at changed
      | some row =>
        obtain ⟨front, rest, parts, _⟩ := List.lookup_eq_some_iff.mp present
        have stored : (key, row) ∈ t.entries := by simp [parts]
        have selected : select row = true := by
          by_contra unselected
          simp [present, unselected] at changed
        exact List.mem_map.mpr ⟨(key, row), List.mem_filter.mpr ⟨stored, selected⟩, rfl⟩

end Whole

end MeteredBilling.RowTable
