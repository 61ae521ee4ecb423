import MeteredBilling.Proofs.Events

/-!
# The accounting identity

Beside a run of operations an account of one key is kept: what each accepted observation asked for,
what the events billed, and what was given free. The row of the key agrees with the account at the
end of every run, however factors, coverage and gratis contracts change on the way.
-/

namespace MeteredBilling

open Exact Engine

/-- What happened to a key since its row was created or last reset, the latest first, in units of
the metric. -/
structure Account where
  /-- What each accepted observation asked to be accounted for. -/
  needs : List ℚ
  /-- What each event billed. -/
  billed : List ℚ
  /-- What each accepted observation consumed under a gratis contract. -/
  free : List ℚ

namespace Account

def opened : Account := ⟨[], [], []⟩

/-- What the ledger answers to an observation, unless it refuses it. -/
def answer? (usage : Usage ℚ) (unit : MeasureUnit ℚ) (coverage : Option (Coverage ℚ))
    (w : World (Memory ℚ) ℚ) : Option (Outcome ℚ) :=
  match (apply usage unit coverage).exec w with
  | some (.ok outcome, _) => some outcome
  | _ => none

def observe (account : Account) (usage : Usage ℚ) (unit : MeasureUnit ℚ)
    (coverage : Option (Coverage ℚ)) (w : World (Memory ℚ) ℚ) : Account :=
  let events := (emitted w (w.after (.observe usage unit coverage))).map billedShare
  match answer? usage unit coverage w with
  | some outcome =>
    { needs := required usage.currentTotal unit.factor coverage :: account.needs
      billed := events ++ account.billed
      free :=
        if coverage.any (·.gratis) then outcome.calculation.consumed :: account.free
        else account.free }
  | none => { account with billed := events ++ account.billed }

/-- Only observations of the key count, and the account starts anew where its row is reset or
removed. -/
def next (account : Account) (key : RemittanceKey) (w : World (Memory ℚ) ℚ) :
    Operation ℚ → Account
  | .observe usage unit coverage =>
    if usage.key = key then account.observe usage unit coverage w else account
  | .upkeep u => if (w.storage.rows.get? key).any u.disturbs then opened else account
  | .clock _ => account

def run (account : Account) (key : RemittanceKey) (w : World (Memory ℚ) ℚ) :
    List (Operation ℚ) → Account
  | [] => account
  | operation :: rest => (account.next key w operation).run key (w.after operation) rest

end Account

/-- The row of a key agrees with the account of the key. -/
structure Balanced (key : RemittanceKey) (w : World (Memory ℚ) ℚ) (account : Account) : Prop where
  single : w.storage.rows.Single key
  usable : ∀ row ∈ w.storage.rows.get? key, 0 < row.factor
  whole : ∀ need ∈ account.needs, ∃ n : ℤ, need = n
  accounted : accountedFor (w.storage.rows.get? key) = account.needs.foldr max 0
  billed : billedPart (w.storage.rows.get? key) = account.billed.sum
  free : freePart (w.storage.rows.get? key) = account.free.sum

namespace Balanced

variable {key : RemittanceKey} {w w' : World (Memory ℚ) ℚ} {account : Account}

theorem opened_of_absent (absent : w.storage.rows.get? key = none) :
    Balanced key w .opened where
  single := RowTable.single_of_absent absent
  usable row present := by simp [absent] at present
  whole need member := by cases member
  accounted := by rw [absent]; rfl
  billed := by rw [absent]; rfl
  free := by rw [absent]; rfl

theorem of_same_amounts (balanced : Balanced key w account) (single : w'.storage.rows.Single key)
    (same : (w'.storage.rows.get? key).map (·.amounts) =
      (w.storage.rows.get? key).map (·.amounts)) : Balanced key w' account where
  single := single
  usable := usable_of_amounts same balanced.usable
  whole := balanced.whole
  accounted := (accountedFor_of_amounts same).trans balanced.accounted
  billed := (billedPart_of_amounts same).trans balanced.billed
  free := (freePart_of_amounts same).trans balanced.free

theorem of_disturbed {row : Remittance ℚ} (balanced : Balanced key w account)
    (single : w'.storage.rows.Single key) (present : w.storage.rows.get? key = some row)
    (left : w'.storage.rows.get? key = none ∨
      w'.storage.rows.get? key = some (RowTable.resetAmounts w.now row)) :
    Balanced key w' .opened := by
  rcases left with gone | reset
  · exact opened_of_absent gone
  · refine ⟨single, ?_, (fun need member => nomatch member), ?_, ?_, ?_⟩
    · intro after stored
      rw [reset] at stored
      cases stored
      exact balanced.usable row present
    · simp [reset, accountedFor, RowTable.resetAmounts, Account.opened]
    · simp [reset, billedPart, RowTable.resetAmounts, Account.opened]
    · simp [reset, freePart, RowTable.resetAmounts, Account.opened]

theorem upkeep (balanced : Balanced key w account) (u : Upkeep ℚ) :
    Balanced key (w.after (.upkeep u)) (account.next key w (.upkeep u)) := by
  have single := World.single_after (.upkeep u) balanced.single
  cases disturbed : (w.storage.rows.get? key).any u.disturbs with
  | true =>
    obtain ⟨row, present, chosen⟩ := (Option.any_eq_true ..).mp disturbed
    have left := Upkeep.row_of_disturbed w.now balanced.single present chosen
    rw [Account.next, disturbed, if_pos rfl]
    exact balanced.of_disturbed single present (by rwa [World.after_upkeep])
  | false =>
    have calm : ∀ row ∈ w.storage.rows.get? key, u.disturbs row = false := fun row present =>
      (Option.any_eq_false ..).mp disturbed row present
    rw [Account.next, disturbed, if_neg Bool.false_ne_true]
    refine balanced.of_same_amounts single ?_
    rw [World.after_upkeep]
    exact u.amounts_effect w.now balanced.single calm

theorem observe {usage : Usage ℚ} {unit : MeasureUnit ℚ} (coverage : Option (Coverage ℚ))
    (balanced : Balanced usage.key w account) (positive : 0 < unit.factor) :
    Balanced usage.key (w.after (.observe usage unit coverage))
      (account.observe usage unit coverage w) := by
  by_cases follows : Follows usage.currentTotal (w.storage.rows.get? usage.key)
  · obtain ⟨n, whole⟩ := whole_foldr balanced.whole
    have integer := balanced.accounted.trans whole
    obtain ⟨billed, free, usable⟩ := World.parts_after coverage positive balanced.usable follows
    obtain ⟨_, shares⟩ := World.emitted_after coverage positive balanced.usable follows
    obtain ⟨row, left, accepted⟩ := apply_accepted coverage positive balanced.usable follows
    have answer : Account.answer? usage unit coverage w =
        some ⟨calculationOn usage unit coverage w, row⟩ := by
      rw [Account.answer?, accepted]
    simp only [Account.observe, answer]
    refine ⟨World.single_after _ balanced.single, usable, ?_, ?_, ?_, ?_⟩
    · intro need member
      rcases List.mem_cons.mp member with rfl | member
      · exact whole_required ..
      · exact balanced.whole need member
    · rw [World.accountedFor_after coverage positive balanced.usable follows integer,
        balanced.accounted, List.foldr_cons, max_comm]
    · rw [billed, balanced.billed, List.sum_append, shares, add_comm]
    · rw [free, balanced.free, World.given]
      split
      · rw [List.sum_cons, add_comm]
      · rw [add_zero]
  · have same : w.after (.observe usage unit coverage) = w := World.after_refused follows
    obtain ⟨e, refused⟩ := decisionOn_refused unit coverage follows
    have answer : Account.answer? usage unit coverage w = none := by
      rw [Account.answer?, exec_apply, refused]
    simp only [Account.observe, answer, same, emitted_of_same, List.map_nil, List.nil_append]
    exact balanced

theorem next (balanced : Balanced key w account) (operation : Operation ℚ)
    (positive : ∀ usage unit coverage, operation = .observe usage unit coverage →
      usage.key = key → 0 < unit.factor) :
    Balanced key (w.after operation) (account.next key w operation) := by
  cases operation with
  | observe usage unit coverage =>
    by_cases same : usage.key = key
    · subst same
      rw [Account.next, if_pos rfl]
      exact balanced.observe coverage (positive _ _ _ rfl rfl)
    · rw [Account.next, if_neg same]
      refine balanced.of_same_amounts (World.single_after _ balanced.single) ?_
      rw [World.row_after_other unit coverage (Ne.symm same)]
  | upkeep u => exact balanced.upkeep u
  | clock moment => exact balanced.of_same_amounts balanced.single rfl

theorem run (operations : List (Operation ℚ)) (balanced : Balanced key w account)
    (positive : ∀ usage unit coverage, .observe usage unit coverage ∈ operations →
      usage.key = key → 0 < unit.factor) :
    Balanced key (w.run operations) (account.run key w operations) := by
  induction operations generalizing w account with
  | nil => exact balanced
  | cons operation rest ih =>
    refine ih (balanced.next operation fun usage unit coverage same => ?_)
      fun usage unit coverage member => positive usage unit coverage (List.mem_cons_of_mem _ member)
    exact positive usage unit coverage (same ▸ List.mem_cons_self)

end Balanced

/-- From a storage without a row for the key, whatever is observed under whatever factor, coverage
and gratis contract, and whatever feedback, dead letters and operators do in between: since its
creation or last reset the row has accounted for the most that an accepted observation asked for,
has billed the sum of the events, and has given free what gratis observations consumed. -/
theorem accounting_identity {key : RemittanceKey} {w : World (Memory ℚ) ℚ}
    (operations : List (Operation ℚ)) (absent : w.storage.rows.get? key = none)
    (positive : ∀ usage unit coverage, .observe usage unit coverage ∈ operations →
      usage.key = key → 0 < unit.factor) :
    let row := (w.run operations).storage.rows.get? key
    let account := Account.opened.run key w operations
    (∀ stored ∈ row, 0 < stored.factor) ∧
      accountedFor row = account.needs.foldr max 0 ∧
      billedPart row = account.billed.sum ∧
      freePart row = account.free.sum :=
  have balanced := (Balanced.opened_of_absent absent).run operations positive
  ⟨balanced.usable, balanced.accounted, balanced.billed, balanced.free⟩

/-- Hours observed under one factor, then under another with a gratis contract, around a reset. -/
def changingHours : List (Operation ℚ) :=
  [.observe (hoursRun 4) ⟨some "hours", 2⟩ none,
    .observe (hoursRun (13 / 2)) ⟨some "hours", 1 / 4⟩ (some ⟨some "hours", 1 / 2, true⟩),
    .upkeep (.giveUp ⟨10, 0⟩),
    .observe (hoursRun 3) ⟨some "hours", 2⟩ none,
    .upkeep (.reset ⟨"machine", ⟨0, 0⟩, ⟨1, 0⟩, ["org"], []⟩),
    .observe (hoursRun 9) ⟨some "hours", 3⟩ none]

/-- The factor and the amounts of the row, the values of the events, and the account. -/
def hoursSeen (operations : List (Operation ℚ)) :
    Option (ℚ × ℚ × ℚ) × List ℚ × List ℚ × List ℚ × List ℚ :=
  let w := opening.run operations
  let account := Account.opened.run (hoursRun 0).key opening operations
  ((w.storage.rows.get? (hoursRun 0).key).map fun row => (row.factor, row.remitted, row.gratis),
    (emitted opening w).map billedValue, account.needs, account.billed, account.free)

/-- Before the reset four hours are billed and one is given free; behind it nine hours are billed in
units of a third. -/
theorem accounting_identity_hours :
    let row := (opening.run changingHours).storage.rows.get? (hoursRun 0).key
    let account := Account.opened.run (hoursRun 0).key opening changingHours
    opening.storage.rows.get? (hoursRun 0).key = none ∧
      (∀ usage unit coverage, .observe usage unit coverage ∈ changingHours →
        usage.key = (hoursRun 0).key → 0 < unit.factor) ∧
      (∀ stored ∈ row, 0 < stored.factor) ∧
      accountedFor row = account.needs.foldr max 0 ∧
      billedPart row = account.billed.sum ∧
      freePart row = account.free.sum ∧
      hoursSeen (changingHours.take 4) = (some (1 / 4, 1, 1 / 4), [8], [5, 4], [4], [1]) ∧
      hoursSeen changingHours = (some (3, 27, 0), [8, 27], [9], [9], []) := by
  have positive : ∀ usage unit coverage, .observe usage unit coverage ∈ changingHours →
      usage.key = (hoursRun 0).key → 0 < unit.factor := by
    intro usage unit coverage member _
    simp only [changingHours, List.mem_cons, Operation.observe.injEq, reduceCtorEq, false_or,
      List.not_mem_nil, or_false] at member
    rcases member with ⟨_, rfl, _⟩ | ⟨_, rfl, _⟩ | ⟨_, rfl, _⟩ | ⟨_, rfl, _⟩ <;> norm_num
  have absent : opening.storage.rows.get? (hoursRun 0).key = none := rfl
  obtain ⟨usable, accounted, billed, free⟩ := accounting_identity changingHours absent positive
  exact ⟨absent, positive, usable, accounted, billed, free, by decide +kernel, by decide +kernel⟩

end MeteredBilling
