import MeteredBilling.Proofs.Endpoint
import MeteredBilling.Proofs.Exact

/-!
# Attempts of a lookup

A lookup repeats one request until a reply settles it or the attempts are used up. What it reports
is told by the last reply alone, and only a refusal by the service is not worth another delivery.
This holds whatever connections can be made, and however the body of a reply is read.
-/

namespace MeteredBilling

/-- No reply sends the client elsewhere. -/
def LookupPeer.Plain (peer : LookupPeer) : Prop :=
  ∀ n, ∀ reply ∈ peer n, reply.header? "location" = none

namespace ContractClient

variable {α : Type} {client : ContractClient} {means : LookupMeans α} {peer : LookupPeer}
  {query : ContractQuery}

/-- The place that requests are sent to, if a connection leads there. -/
def reached? (client : ContractClient) (means : LookupMeans α) : Option Web.Url :=
  match client.endpoint with
  | .web url => if url.isRequestable && means.connects url.origin then some url else none
  | .foreign => none

/-- What the attempt after `n` others hears. Without a connection there is no reply. -/
def heard (client : ContractClient) (means : LookupMeans α) (peer : LookupPeer) (n : Nat) :
    Option Web.Reply :=
  if (client.reached? means).isSome then peer n else none

/-- The requests of `n` attempts, all of them the same. -/
def requested (client : ContractClient) (means : LookupMeans α) (query : ContractQuery) (n : Nat) :
    List String :=
  match client.reached? means with
  | some url => List.replicate n (requestLine (url.withPairs query.parameters))
  | none => []

/-- No reply, or one that asks for patience. -/
def Fleeting : Option Web.Reply → Prop
  | none => True
  | some reply => 500 ≤ reply.status ∧ reply.status < 600 ∨ reply.status = 429

def Refusal : Option Web.Reply → Prop
  | none => False
  | some reply => 400 ≤ reply.status ∧ reply.status < 500 ∧ reply.status ≠ 429

theorem Refusal.settles {reply : Option Web.Reply} (refusal : Refusal reply) :
    ¬Fleeting reply := by
  intro fleeting
  cases reply with
  | none => exact refusal
  | some reply =>
    obtain ⟨low, high, other⟩ := refusal
    rcases fleeting with ⟨late, _⟩ | patience
    · omega
    · exact other patience

/-- Why an attempt did not settle the lookup. -/
def reason : Option Web.Reply → String
  | none => "contract lookup failed: " ++ Audience.withheld
  | some reply => "contract service responded with " ++ Web.Status.text reply.status

/-- What a lookup of at most `attempts` attempts reports after as many as `made`, by the last
reply. -/
inductive Reported (means : LookupMeans α) (query : ContractQuery) (attempts made : Nat) :
    Option Web.Reply → Except BillingError (List (Contract α)) → Prop
  | refused {reply : Web.Reply} (refusal : Refusal (some reply)) :
      Reported means query attempts made (some reply)
        (.error (.invalidMessage ("contract service rejected lookup for org " ++ query.orgId
          ++ " with " ++ Web.Status.text reply.status ++ ": " ++ reply.text)))
  | found {reply : Web.Reply} {contracts : List (Contract α)} (settles : ¬Fleeting (some reply))
      (accepted : ¬Refusal (some reply))
      (decoded : reply.body.bind means.contracts? = some contracts) :
      Reported means query attempts made (some reply) (.ok contracts)
  | undecodable {reply : Web.Reply} (settles : ¬Fleeting (some reply))
      (accepted : ¬Refusal (some reply)) (foreign : reply.body.bind means.contracts? = none) :
      Reported means query attempts made (some reply)
        (.error (.externalService ("undecodable contract response: " ++ Audience.withheld)))
  | exhausted {last : Option Web.Reply} (fleeting : Fleeting last) (used : made = attempts) :
      Reported means query attempts made last
        (.error (.externalService (reason last ++ " (after " ++ toString attempts ++ " attempts)")))

/-- Within the attempts the service refuses, after fleeting replies only. -/
def Refuses (client : ContractClient) (means : LookupMeans α) (peer : LookupPeer)
    (attempts : Nat) : Prop :=
  ∃ n < attempts, (∀ earlier < n, Fleeting (client.heard means peer earlier)) ∧
    Refusal (client.heard means peer n)

/-! ### One attempt -/

theorem fetch_plain (plain : peer.Plain) (url : Web.Url) (sent : List String) :
    fetch means.connects peer chainLimit url sent =
      if url.isRequestable && means.connects url.origin then
        (peer sent.length, sent ++ [requestLine url])
      else (none, sent) := by
  rw [chainLimit, fetch]
  cases reached : url.isRequestable && means.connects url.origin with
  | false => rfl
  | true =>
    cases answer : peer sent.length with
    | none => rfl
    | some reply =>
      have stays : Web.Redirect.ofReply url reply = .stay := by
        have nowhere := plain sent.length reply answer
        unfold Web.Redirect.ofReply
        rw [nowhere]
        split <;> rfl
      simp [stays]

theorem ask_requested (plain : peer.Plain) (n : Nat) :
    client.ask means.connects peer query (client.requested means query n) =
      (client.heard means peer n, client.requested means query (n + 1)) := by
  unfold ask heard requested reached?
  cases client.endpoint with
  | foreign => rfl
  | web url =>
    have same : ((url.withPairs query.parameters).isRequestable &&
        means.connects (url.withPairs query.parameters).origin) =
          (url.isRequestable && means.connects url.origin) := rfl
    by_cases connected : (url.isRequestable && means.connects url.origin) = true
    · simp only [fetch_plain plain, same, connected, if_true]
      simp [List.replicate_succ']
    · simp only [fetch_plain plain, same, connected]
      rfl

theorem isFleeting_iff {reply : Web.Reply} :
    (Web.Status.isServerError reply.status || reply.status == 429) = true ↔
      Fleeting (some reply) := by
  simp [Web.Status.isServerError, Fleeting]

theorem interpret_fleeting {reply : Option Web.Reply} (fleeting : Fleeting reply) :
    interpret means.contracts? query reply = .error (.passing (reason reply)) := by
  cases reply with
  | none => rfl
  | some reply =>
    rw [interpret, if_pos (isFleeting_iff.mpr fleeting)]
    rfl

/-- A reply that settles a lookup settles it in the same way after any number of attempts. -/
theorem interpret_settles (means : LookupMeans α) (query : ContractQuery)
    {reply : Option Web.Reply} (settles : ¬Fleeting reply) (attempts made : Nat) :
    (∃ contracts, interpret means.contracts? query reply = .ok contracts ∧
        Reported means query attempts made reply (.ok contracts)) ∨
      ∃ e, interpret means.contracts? query reply = .error (.final e) ∧
        Reported means query attempts made reply (.error e) := by
  cases reply with
  | none => exact absurd trivial settles
  | some reply =>
    have lasts : (Web.Status.isServerError reply.status || reply.status == 429) = false := by
      rw [← Bool.not_eq_true, isFleeting_iff]
      exact settles
    cases client : Web.Status.isClientError reply.status with
    | true =>
      have range : 400 ≤ reply.status ∧ reply.status < 500 := by
        simpa [Web.Status.isClientError] using client
      have refusal : Refusal (some reply) :=
        ⟨range.1, range.2, fun patience => settles (.inr patience)⟩
      exact .inr ⟨_, by simp [interpret, lasts, client], .refused refusal⟩
    | false =>
      have accepted : ¬Refusal (some reply) := by
        rintro ⟨low, high, _⟩
        simp [Web.Status.isClientError, low, high] at client
      cases decoded : reply.body.bind means.contracts? with
      | some contracts =>
        exact .inl ⟨contracts, by simp [interpret, lasts, client, decoded],
          .found settles accepted decoded⟩
      | none =>
        exact .inr ⟨_, by simp [interpret, lasts, client, decoded],
          .undecodable settles accepted decoded⟩

/-! ### All attempts -/

section Attempts

variable {log : LookupLog} {n : Nat}

/-- A reply that settles the lookup ends it. -/
theorem lookUpFrom_settled (plain : peer.Plain)
    (sent : log.requests = client.requested means query n)
    (settles : ¬Fleeting (client.heard means peer n)) (left attempts made : Nat) :
    (client.lookUpFrom means peer query left (n + 1) log).2.requests =
        client.requested means query (n + 1) ∧
      Reported means query attempts made (client.heard means peer n)
        (client.lookUpFrom means peer query left (n + 1) log).1 := by
  rcases interpret_settles means query settles attempts made with
    ⟨contracts, meaning, reported⟩ | ⟨e, meaning, reported⟩
  · rw [lookUpFrom]
    simp only [sent, ask_requested plain, meaning]
    exact ⟨trivial, reported⟩
  · rw [lookUpFrom]
    simp only [sent, ask_requested plain, meaning]
    exact ⟨trivial, reported⟩

theorem lookUpFrom_exhausted (plain : peer.Plain)
    (sent : log.requests = client.requested means query n)
    (fleeting : Fleeting (client.heard means peer n)) :
    (client.lookUpFrom means peer query 0 (n + 1) log).2.requests =
        client.requested means query (n + 1) ∧
      Reported means query (n + 1) (n + 1) (client.heard means peer n)
        (client.lookUpFrom means peer query 0 (n + 1) log).1 := by
  rw [lookUpFrom]
  simp only [sent, ask_requested plain, interpret_fleeting fleeting]
  exact ⟨trivial, .exhausted fleeting rfl⟩

theorem lookUpFrom_again (plain : peer.Plain)
    (sent : log.requests = client.requested means query n)
    (fleeting : Fleeting (client.heard means peer n)) (left : Nat) :
    ∃ log' : LookupLog, log'.requests = client.requested means query (n + 1) ∧
      client.lookUpFrom means peer query (left + 1) (n + 1) log =
        client.lookUpFrom means peer query left (n + 2) log' := by
  rw [lookUpFrom]
  simp only [sent, ask_requested plain, interpret_fleeting fleeting]
  exact ⟨_, rfl, rfl⟩

/-- With `left` attempts to spare the lookup makes one more than it hears fleeting replies. -/
theorem lookUpFrom_reported (plain : peer.Plain) (left : Nat)
    (sent : log.requests = client.requested means query n) :
    ∃ last, n ≤ last ∧ last ≤ n + left ∧
      (client.lookUpFrom means peer query left (n + 1) log).2.requests =
        client.requested means query (last + 1) ∧
      (∀ earlier, n ≤ earlier → earlier < last →
        Fleeting (client.heard means peer earlier)) ∧
      Reported means query (n + left + 1) (last + 1) (client.heard means peer last)
        (client.lookUpFrom means peer query left (n + 1) log).1 := by
  induction left generalizing n log with
  | zero =>
    refine ⟨n, Nat.le_refl n, Nat.le_refl n, ?_⟩
    have none : ∀ earlier, n ≤ earlier → earlier < n →
        Fleeting (client.heard means peer earlier) := by
      omega
    by_cases fleeting : Fleeting (client.heard means peer n)
    · obtain ⟨requests, reported⟩ := lookUpFrom_exhausted plain sent fleeting
      exact ⟨requests, none, reported⟩
    · obtain ⟨requests, reported⟩ :=
        lookUpFrom_settled plain sent fleeting 0 (n + 1) (n + 1)
      exact ⟨requests, none, reported⟩
  | succ left ih =>
    by_cases fleeting : Fleeting (client.heard means peer n)
    · obtain ⟨log', sent', again⟩ := lookUpFrom_again plain sent fleeting left
      obtain ⟨last, after, within, requests, before, reported⟩ := ih sent'
      rw [again]
      refine ⟨last, by omega, by omega, requests, fun earlier from_ below => ?_, ?_⟩
      · rcases Nat.eq_or_lt_of_le from_ with rfl | later
        · exact fleeting
        · exact before earlier later below
      · have total : n + 1 + left + 1 = n + (left + 1) + 1 := by omega
        rwa [total] at reported
    · obtain ⟨requests, reported⟩ :=
        lookUpFrom_settled plain sent fleeting (left + 1) (n + (left + 1) + 1) (n + 1)
      exact ⟨n, Nat.le_refl n, by omega, requests, by omega, reported⟩

end Attempts

/-! ### The disposition of errors -/

theorem Reported.reject_iff {attempts made : Nat} {reply : Option Web.Reply} {e : BillingError}
    (reported : Reported means query attempts made reply (.error e)) :
    e.disposition = .reject ↔ Refusal reply := by
  cases reported with
  | refused refusal => exact iff_of_true rfl refusal
  | undecodable _ accepted => exact iff_of_false (fun rejected => nomatch rejected) accepted
  | exhausted fleeting =>
    refine iff_of_false (fun rejected => nomatch rejected) fun refusal => ?_
    exact refusal.settles fleeting

theorem Reported.used_up {attempts made : Nat} {reply : Option Web.Reply}
    {result : Except BillingError (List (Contract α))}
    (reported : Reported means query attempts made reply result) (fleeting : Fleeting reply) :
    made = attempts := by
  cases reported with
  | refused refusal => exact absurd fleeting refusal.settles
  | found settles => exact absurd fleeting settles
  | undecodable settles => exact absurd fleeting settles
  | exhausted _ used => exact used

theorem Reported.of_refusal {attempts made : Nat} {reply : Option Web.Reply}
    {result : Except BillingError (List (Contract α))}
    (reported : Reported means query attempts made reply result) (refusal : Refusal reply) :
    ∃ text, result = .error (.invalidMessage text) := by
  cases reported with
  | refused => exact ⟨_, rfl⟩
  | found _ accepted => exact absurd refusal accepted
  | undecodable _ accepted => exact absurd refusal accepted
  | exhausted fleeting => exact absurd fleeting refusal.settles

theorem Reported.of_found {attempts made : Nat} {reply : Web.Reply}
    {result : Except BillingError (List (Contract α))} {contracts : List (Contract α)}
    (reported : Reported means query attempts made (some reply) result)
    (settles : ¬Fleeting (some reply)) (accepted : ¬Refusal (some reply))
    (decoded : reply.body.bind means.contracts? = some contracts) : result = .ok contracts := by
  cases reported with
  | refused refusal => exact absurd refusal accepted
  | found _ _ same => rw [Option.some.inj (same.symm.trans decoded)]
  | undecodable _ _ foreign => exact nomatch foreign.symm.trans decoded
  | exhausted fleeting => exact absurd fleeting settles

/-- The service refuses within the attempts exactly if the last reply that was heard refuses. -/
theorem refuses_iff {attempts last : Nat} {result : Except BillingError (List (Contract α))}
    (below : last < attempts)
    (before : ∀ earlier < last, Fleeting (client.heard means peer earlier))
    (reported : Reported means query attempts (last + 1) (client.heard means peer last) result) :
    client.Refuses means peer attempts ↔ Refusal (client.heard means peer last) := by
  constructor
  · rintro ⟨n, within, fleeting, refusal⟩
    rcases Nat.lt_trichotomy n last with sooner | rfl | later
    · exact absurd (before n sooner) refusal.settles
    · exact refusal
    · -- The lookup would have gone on after `last`, with attempts to spare.
      have used := reported.used_up (fleeting last later)
      omega
  · intro refusal
    exact ⟨last, below, before, refusal⟩

theorem retry_iff {e : BillingError} : e.disposition = .retry ↔ e.disposition ≠ .reject := by
  cases e.disposition <;> simp

/-- A lookup makes the same request until a reply is neither missing, nor a failure of the service,
nor a call for patience, but no more often than allowed and at least once. The last reply tells what
is reported. An error is final exactly if the service refused within the attempts. -/
theorem lookup_protocol [Amount α] (client : ContractClient) (means : LookupMeans α)
    (query : ContractQuery) (plain : peer.Plain) :
    let attempts := max 1 client.settings.maxAttempts
    let (result, log) := client.lookUp peer query means
    (∃ last < attempts, log.requests = client.requested means query (last + 1) ∧
      (∀ earlier < last, Fleeting (client.heard means peer earlier)) ∧
      Reported means query attempts (last + 1) (client.heard means peer last) result) ∧
    ∀ e, result = .error e →
      (e.disposition = .reject ↔ client.Refuses means peer attempts) ∧
      (e.disposition = .retry ↔ ¬client.Refuses means peer attempts) := by
  intro attempts
  have start : (⟨[], []⟩ : LookupLog).requests = client.requested means query 0 := by
    unfold requested
    split <;> rfl
  obtain ⟨last, _, within, requests, before, reported⟩ :=
    lookUpFrom_reported plain (client.settings.maxAttempts - 1) start
  have total : 0 + (client.settings.maxAttempts - 1) + 1 = attempts := by omega
  have below : last < attempts := by omega
  rw [total] at reported
  have earlier : ∀ earlier < last, Fleeting (client.heard means peer earlier) :=
    fun n sooner => before n (Nat.zero_le n) sooner
  refine ⟨⟨last, below, requests, earlier, reported⟩, ?_⟩
  intro e failed
  have refuses := refuses_iff below earlier reported
  change (client.lookUp peer query means).1 = .error e at failed
  rw [lookUp] at failed
  rw [failed] at reported
  have final := reported.reject_iff.trans refuses.symm
  exact ⟨final, retry_iff.trans (not_congr final)⟩

end ContractClient

/-! ### Peers that settle a lookup late -/

/-- Does not answer, then cannot, then refuses. -/
def reluctantPeer : LookupPeer
  | 0 => none
  | 1 => some ⟨503, [], some []⟩
  | _ => some ⟨404, [], some []⟩

/-- Asks for patience, then knows of no contracts. -/
def crowdedPeer : LookupPeer
  | 0 => some ⟨429, [], some []⟩
  | _ => some ⟨200, [], some [0x5B, 0x5D]⟩

/-- Asks over secured connections. -/
def securedClient : ContractClient where
  settings := { baseUrl := "https://localhost", maxAttempts := 5 }
  endpoint := .web ⟨true, "localhost".toList, none, ContractClient.contractsParts, none⟩

/-- Every connection can be made, and bodies are in JSON. -/
def openMeans : LookupMeans ℚ := { LookupMeans.unsecured with connects := fun _ => true }

def hoursQuery : ContractQuery := ⟨"org", "machine", none, .aws, "account", ⟨0, 0⟩⟩

theorem create_secured : ContractClient.create securedClient.settings = .ok securedClient := by
  have isAuthority : Web.Url.IsAuthority "localhost".toList :=
    ⟨by simp, by simp, by simp [Web.Url.isSlash]⟩
  refine (ContractClient.create_iff (.inr rfl) isAuthority .nil rfl).mpr ⟨_, ?_, rfl⟩
  decide +kernel

theorem contracts?_empty : openMeans.contracts? [0x5B, 0x5D] = some [] := by
  have brackets : Text.Utf8.characters [0x5B, 0x5D] = [some '[', some ']'] := by
    simp [Text.Utf8.characters, Text.Utf8.front, Text.Utf8.lead?, Text.Utf8.takeTail]
  simp only [openMeans, LookupMeans.unsecured, brackets]
  rfl

namespace ContractClient

theorem requested_secured (n : Nat) :
    securedClient.requested openMeans hoursQuery n = List.replicate n
      ("GET " ++ contractsPath ++ "?" ++ Web.Form.encode hoursQuery.parameters) :=
  congrArg (List.replicate n) (requestLine_contracts rfl rfl hoursQuery.parameters)

/-- Of five attempts three are made with the one peer, and two with the other. -/
theorem lookup_protocol_late :
    create securedClient.settings = .ok securedClient ∧
      let line := "GET " ++ contractsPath ++ "?" ++ Web.Form.encode hoursQuery.parameters
      let refused := securedClient.lookUp reluctantPeer hoursQuery openMeans
      let found := securedClient.lookUp crowdedPeer hoursQuery openMeans
      (reluctantPeer.Plain ∧ refused.2.requests = [line, line, line] ∧
        ∃ text, refused.1 = .error (.invalidMessage text)) ∧
      crowdedPeer.Plain ∧ found.2.requests = [line, line] ∧ found.1 = .ok [] := by
  refine ⟨create_secured, ?_, ?_⟩
  · have plain : reluctantPeer.Plain := by
      intro n reply heard
      match n with
      | 0 => cases heard
      | 1 => cases heard; rfl
      | _ + 2 => cases heard; rfl
    obtain ⟨⟨last, below, requests, before, reported⟩, _⟩ :=
      lookup_protocol securedClient openMeans hoursQuery plain
    have third : last = 2 := by
      match last with
      | 0 => exact nomatch reported.used_up trivial
      | 1 => exact nomatch reported.used_up (.inl ⟨by decide, by decide⟩)
      | 2 => rfl
      | n + 3 => rcases before 2 (by omega) with ⟨late, _⟩ | patience <;> contradiction
    subst third
    exact ⟨plain, requests.trans (requested_secured 3),
      reported.of_refusal ⟨by decide, by decide, by decide⟩⟩
  · have plain : crowdedPeer.Plain := by
      intro n reply heard
      match n with
      | 0 => cases heard; rfl
      | _ + 1 => cases heard; rfl
    obtain ⟨⟨last, below, requests, before, reported⟩, _⟩ :=
      lookup_protocol securedClient openMeans hoursQuery plain
    have second : last = 1 := by
      match last with
      | 0 => exact nomatch reported.used_up (.inr rfl)
      | 1 => rfl
      | n + 2 => rcases before 1 (by omega) with ⟨late, _⟩ | patience <;> contradiction
    subst second
    have settles : ¬Fleeting (some ⟨200, [], some [0x5B, 0x5D]⟩) := by simp [Fleeting]
    have accepted : ¬Refusal (some ⟨200, [], some [0x5B, 0x5D]⟩) := by simp [Refusal]
    exact ⟨plain, requests.trans (requested_secured 2),
      reported.of_found settles accepted contracts?_empty⟩

end ContractClient
end MeteredBilling
