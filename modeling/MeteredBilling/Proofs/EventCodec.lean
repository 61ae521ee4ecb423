import MeteredBilling.Emission.Event
import MeteredBilling.Proofs.Timestamps
import MeteredBilling.Proofs.Uuids

/-!
# Events read back

The payload of an event is read as that event if both of its amounts are finite, and not at all if
one of them is not. What is read is independent of the order of the members.
-/

namespace MeteredBilling

open Calendar

/-! ### Objects in their canonical form -/

namespace Json

variable {α : Type}

theorem insertMember_perm {member : String × Json α} {done : List (String × Json α)}
    (fresh : member.1 ∉ done.map (·.1)) : (insertMember member done).Perm (member :: done) := by
  induction done with
  | nil => exact .refl _
  | cons head rest ih =>
    rw [List.map_cons, List.mem_cons, not_or] at fresh
    unfold insertMember
    split
    · exact .refl _
    · rw [if_neg fresh.1]
      exact ((ih fresh.2).cons head).trans (.swap member head rest)

/-- Members of different names are all kept, in whatever order. -/
theorem canonicalMembers_perm {members done : List (String × Json α)}
    (different : (members.map (·.1) ++ done.map (·.1)).Nodup) :
    (canonicalMembers members done).Perm
      (members.map (fun m => (m.1, m.2.canonical)) ++ done) := by
  induction members generalizing done with
  | nil => exact .refl _
  | cons head rest ih =>
    obtain ⟨name, value⟩ := head
    rw [List.map_cons, List.cons_append, List.nodup_cons, List.mem_append, not_or] at different
    obtain ⟨⟨unlisted, fresh⟩, others⟩ := different
    have inserted : (insertMember (name, value.canonical) done).Perm
        ((name, value.canonical) :: done) := insertMember_perm fresh
    have names := inserted.map (·.1)
    have apart :
        (rest.map (·.1) ++ (insertMember (name, value.canonical) done).map (·.1)).Nodup := by
      rw [(names.append_left _).nodup_iff, List.map_cons, List.perm_middle.nodup_iff,
        List.nodup_cons, List.mem_append, not_or]
      exact ⟨⟨unlisted, fresh⟩, others⟩
    rw [canonicalMembers]
    exact (ih apart).trans ((inserted.append_left _).trans List.perm_middle)

end Json

/-! ### Records -/

namespace Record

variable {ν β γ : Type} {members : List (String × ν)} {name : String} {value : ν}
  {read : Decoder ν β} {absent : Except DecodeError β} {b : β}

/-- The one member of that name, with its value. -/
def Finds (members : List (String × ν)) (name : String) (value : ν) : Prop :=
  ∃ place, members.zipIdx.filter (·.1.1 == name) = [((name, value), place)]

theorem filter_zipIdx (different : (members.map (·.1)).Nodup) (listed : (name, value) ∈ members)
    (start : Nat) : ∃ place,
      (members.zipIdx start).filter (·.1.1 == name) = [((name, value), place)] := by
  -- For any start, because the members behind the first one count from the next place.
  induction members generalizing start with
  | nil => cases listed
  | cons head rest ih =>
    rw [List.map_cons, List.nodup_cons] at different
    obtain ⟨unlisted, others⟩ := different
    rw [List.zipIdx_cons]
    rcases List.mem_cons.mp listed with rfl | later
    · have none : (rest.zipIdx (start + 1)).filter (·.1.1 == name) = [] := by
        refine List.filter_eq_nil_iff.mpr fun entry member same => unlisted ?_
        have stored : entry.1.1 ∈ rest.map (·.1) :=
          List.mem_map_of_mem (List.fst_mem_of_mem_zipIdx member)
        rwa [beq_iff_eq.mp same] at stored
      exact ⟨start, by rw [List.filter_cons, if_pos (beq_self_eq_true name), none]⟩
    · have other : ¬(head.1 == name) = true := by
        intro same
        rw [beq_iff_eq.mp same] at unlisted
        exact unlisted (List.mem_map_of_mem (f := Prod.fst) later)
      obtain ⟨place, found⟩ := ih others later (start + 1)
      exact ⟨place, by rw [List.filter_cons, if_neg other, found]⟩

theorem Finds.of_mem (different : (members.map (·.1)).Nodup) (listed : (name, value) ∈ members) :
    Finds members name value :=
  filter_zipIdx different listed 0

def Gives (record : Record ν β) (members : List (String × ν)) (b : β) : Prop :=
  record.read members = .ok b

def Fails (record : Record ν β) (members : List (String × ν)) : Prop :=
  ∃ fault, record.read members = .error fault

theorem Finds.gives (finds : Finds members name value) (fits : read value = .ok b) :
    Gives (member name read absent) members b := by
  obtain ⟨place, found⟩ := finds
  unfold Gives member
  simp only [found, fits]

theorem Finds.fails (finds : Finds members name value) {e : DecodeError}
    (unfit : read value = .error e) : Fails (member name read absent) members := by
  obtain ⟨place, found⟩ := finds
  refine ⟨⟨place, e⟩, ?_⟩
  unfold member
  simp only [found, unfit]

namespace Gives

theorem map {record : Record ν β} (f : β → γ) (gives : Gives record members b) :
    Gives (f <$> record) members (f b) := by
  change combine (.ok f) (record.read members) = _
  rw [gives]
  rfl

theorem seq {functions : Record ν (β → γ)} {record : Record ν β} {f : β → γ}
    (first : Gives functions members f) (gives : Gives record members b) :
    Gives (functions <*> record) members (f b) := by
  change combine (functions.read members) (record.read members) = _
  rw [first, gives]
  rfl

end Gives

namespace Fails

theorem left {functions : Record ν (β → γ)} (fails : Fails functions members)
    (record : Record ν β) : Fails (functions <*> record) members := by
  obtain ⟨fault, failed⟩ := fails
  change ∃ fault, combine (functions.read members) (record.read members) = .error fault
  rw [failed]
  cases record.read members with
  | ok b => exact ⟨_, rfl⟩
  | error e => exact ⟨_, rfl⟩

theorem right {record : Record ν β} (functions : Record ν (β → γ))
    (fails : Fails record members) : Fails (functions <*> record) members := by
  obtain ⟨fault, failed⟩ := fails
  change ∃ fault, combine (functions.read members) (record.read members) = .error fault
  rw [failed]
  cases functions.read members with
  | ok f => exact ⟨_, rfl⟩
  | error e => exact ⟨_, rfl⟩

end Fails

end Record

namespace BillingEvent

variable {α : Type} [Amount α]

/-- The members of the payload. -/
def members (event : BillingEvent α) : List (String × Json α) :=
  ("remittance_id", .str event.remittanceId.text) :: event.key.members ++
    [("vendor_product_code", .ofText? event.vendorProductCode),
      ("billed_value", .ofAmount event.billedValue), ("billing_factor", .ofAmount event.factor),
      ("tally_id", .str event.tallyId.text),
      ("snapshot_date", .str event.snapshotDate.timestamp)]

def names : List String :=
  ["remittance_id", "org_id", "product_id", "metric_id", "sla", "usage", "billing_provider",
    "billing_account_id", "accumulation_period", "vendor_product_code", "billed_value",
    "billing_factor", "tally_id", "snapshot_date"]

theorem members_nodup (event : BillingEvent α) : (event.members.map (·.1)).Nodup := by
  change List.Nodup names
  decide

theorem canonical_toJson (event : BillingEvent α) : ∃ members,
    event.toJson.canonical = .obj members ∧ members.Perm event.members := by
  have amount (x : α) : (Json.ofAmount x).canonical = Json.ofAmount x := by
    unfold Json.ofAmount
    split <;> rfl
  have text (code : Option String) :
      (Json.ofText? code : Json α).canonical = Json.ofText? code := by
    cases code <;> rfl
  have different :
      (event.members.map (·.1) ++ ([] : List (String × Json α)).map (·.1)).Nodup := by
    rw [List.map_nil, List.append_nil]
    exact event.members_nodup
  have plain : event.members.map (fun m => (m.1, m.2.canonical)) = event.members := by
    simp only [members, RemittanceKey.members, List.map_cons, List.map_nil, text,
      amount, Json.canonical, List.cons_append, List.nil_append]
  have sorted := Json.canonicalMembers_perm different
  rw [plain, List.append_nil] at sorted
  exact ⟨_, rfl, sorted⟩

/-- The members of a payload are found by their names, in whatever order they stand. -/
theorem finds {event : BillingEvent α} {sorted : List (String × Json α)}
    (perm : sorted.Perm event.members) {name : String} {value : Json α}
    (listed : (name, value) ∈ event.members) : Record.Finds sorted name value := by
  refine .of_mem ?_ (perm.mem_iff.mpr listed)
  rw [(perm.map (·.1)).nodup_iff]
  exact event.members_nodup

theorem parsed_str {β : Type} {expected text : String} {parse : String → Except String β} {b : β}
    (read : parse text = .ok b) :
    (Decoder.parsed expected parse : Decoder (Json α) β) (.str text) = .ok b := by
  unfold Decoder.parsed
  change (parse text).mapError _ = _
  rw [read]
  rfl

theorem instant_timestamp {t : Instant} (shown : t.Shown) :
    (Decoder.instant : Decoder (Json α) Instant) (.str t.timestamp) = .ok t := by
  apply parsed_str
  rw [Instant.ofLooseTimestamp_timestamp shown]
  rfl

theorem provider_text (provider : Provider) :
    (Provider.decoder : Decoder (Json α) Provider) (.str provider.text) = .ok provider := by
  have found : Provider.names.lookup provider.text = some provider := by
    cases provider <;> decide +kernel
  have chosen : Source.choice (Json.str provider.text : Json α) = .ok (provider.text, none) := rfl
  unfold Provider.decoder Decoder.variant
  simp only [chosen, found]

theorem amount_ofAmount {x : α} (finite : Amount.isFinite x = true) :
    (Decoder.amount : Decoder (Json α) α) (.ofAmount x) = .ok x := by
  unfold Json.ofAmount
  rw [if_pos finite]
  rfl

theorem amount_null {x : α} (infinite : ¬Amount.isFinite x = true) :
    ∃ e, (Decoder.amount : Decoder (Json α) α) (.ofAmount x) = .error e := by
  unfold Json.ofAmount
  rw [if_neg infinite]
  exact ⟨_, rfl⟩

theorem optional_ofText? (code : Option String) :
    Decoder.optional (.text : Decoder (Json α) String) (.ofText? code) = .ok code := by
  cases code <;> rfl

section Reading

open Record

variable {event : BillingEvent α} {sorted : List (String × Json α)}
  (perm : sorted.Perm event.members)

include perm

theorem text_given {name text : String} (listed : (name, .str text) ∈ event.members) :
    Gives (.required name .text) sorted text :=
  (finds perm listed).gives rfl

theorem uuid_given {name : String} {id : Uuid} (listed : (name, .str id.text) ∈ event.members) :
    Gives (.required name .uuid) sorted id := by
  refine (finds perm listed).gives (parsed_str ?_)
  rw [Uuid.parse_text]
  rfl

theorem key_given : Gives RemittanceKey.record sorted event.key := by
  have orgId : Gives (.required "org_id" .text) sorted event.key.orgId :=
    text_given perm (by simp [members, RemittanceKey.members])
  have productId : Gives (.required "product_id" .text) sorted event.key.productId :=
    text_given perm (by simp [members, RemittanceKey.members])
  have metricId : Gives (.required "metric_id" .text) sorted event.key.metricId :=
    text_given perm (by simp [members, RemittanceKey.members])
  have sla : Gives (.required "sla" .text) sorted event.key.sla :=
    text_given perm (by simp [members, RemittanceKey.members])
  have purpose : Gives (.required "usage" .text) sorted event.key.purpose :=
    text_given perm (by simp [members, RemittanceKey.members])
  have provider : Gives (.required "billing_provider" Provider.decoder) sorted
      event.key.provider :=
    (finds perm (by simp [members, RemittanceKey.members])).gives (provider_text _)
  have accountId : Gives (.required "billing_account_id" .text) sorted event.key.accountId :=
    text_given perm (by simp [members, RemittanceKey.members])
  have period : Gives (.required "accumulation_period" fun json =>
      (Decoder.text json).map Period.mk) sorted event.key.period := by
    have named : Finds sorted "accumulation_period" (.str event.key.period.text) :=
      finds perm (by simp [members, RemittanceKey.members])
    exact named.gives rfl
  exact (((((((orgId.map _).seq productId).seq metricId).seq sla).seq purpose).seq provider).seq
    accountId).seq period

/-- The whole event is given if its amounts are. -/
theorem given (shown : event.snapshotDate.Shown) (billed : Amount.isFinite event.billedValue)
    (factor : Amount.isFinite event.factor) : Gives record sorted event := by
  have remittanceId : Gives (.required "remittance_id" .uuid) sorted event.remittanceId :=
    uuid_given perm (by simp [members])
  have code : Gives (.optional "vendor_product_code" .text) sorted event.vendorProductCode :=
    (finds perm (by simp [members])).gives (optional_ofText? _)
  have billedValue : Gives (.required "billed_value" .amount) sorted event.billedValue :=
    (finds perm (by simp [members])).gives (amount_ofAmount billed)
  have billingFactor : Gives (.required "billing_factor" .amount) sorted event.factor :=
    (finds perm (by simp [members])).gives (amount_ofAmount factor)
  have tallyId : Gives (.required "tally_id" .uuid) sorted event.tallyId :=
    uuid_given perm (by simp [members])
  have date : Gives (.required "snapshot_date" .instant) sorted event.snapshotDate :=
    (finds perm (by simp [members])).gives (instant_timestamp shown)
  exact ((((((remittanceId.map _).seq (key_given perm)).seq code).seq billedValue).seq
    billingFactor).seq tallyId).seq date

/-- An amount that is not finite is written as null, which is not read as an amount. -/
theorem refused (unfit : ¬(Amount.isFinite event.billedValue ∧ Amount.isFinite event.factor)) :
    Fails (record (α := α)) sorted := by
  have unread {name : String} {x : α} (listed : (name, .ofAmount x) ∈ event.members)
      (infinite : ¬Amount.isFinite x) :
      Fails (.required name (.amount : Decoder (Json α) α)) sorted := by
    obtain ⟨e, unread⟩ := amount_null infinite
    exact (finds perm listed).fails unread
  rcases not_and_or.mp unfit with billed | factor
  · have billedValue : Fails (.required "billed_value" (.amount : Decoder (Json α) α)) sorted :=
      unread (by simp [members]) billed
    exact (((billedValue.right _).left _).left _).left _
  · have billingFactor : Fails (.required "billing_factor" (.amount : Decoder (Json α) α))
        sorted := unread (by simp [members]) factor
    exact ((billingFactor.right _).left _).left _

end Reading

/-- A payload is read as its event if the amounts are finite. -/
theorem decode_toJson {event : BillingEvent α} (shown : event.snapshotDate.Shown)
    (billed : Amount.isFinite event.billedValue) (factor : Amount.isFinite event.factor) :
    record.decoder event.toJson.canonical = .ok event := by
  obtain ⟨sorted, canonical, perm⟩ := event.canonical_toJson
  have given : record.read sorted = .ok event := given perm shown billed factor
  rw [canonical]
  change record.ofMembers (Json.obj sorted) sorted = _
  unfold Record.ofMembers
  rw [given]
  rfl

theorem decode_unfit {event : BillingEvent α}
    (unfit : ¬(Amount.isFinite event.billedValue ∧ Amount.isFinite event.factor)) :
    ∃ e, record.decoder event.toJson.canonical = .error e := by
  obtain ⟨sorted, canonical, perm⟩ := event.canonical_toJson
  obtain ⟨fault, refused⟩ := refused perm unfit
  rw [canonical]
  change ∃ e, record.ofMembers (Json.obj sorted) sorted = .error e
  unfold Record.ofMembers
  rw [refused]
  exact ⟨fault.cause, rfl⟩

end BillingEvent
end MeteredBilling
