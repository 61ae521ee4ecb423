import Mathlib.Data.List.TakeWhile
import MeteredBilling.Contract.Client

/-!
# The place of contract lookups

A path that starts at the root replaces the whole path of the locator that it is resolved against.
So the lookups ask at the root of the service, whatever path the configured base has.
-/

namespace MeteredBilling

namespace Text

variable {drop : Char → Bool} {front rest : List Char}

theorem dropTrailing_eq_self (last : ∀ c ∈ front.getLast?, drop c = false) :
    dropTrailing drop front = front := by
  have kept : front.reverse.dropWhile drop = front.reverse := by
    cases backward : front.reverse with
    | nil => rfl
    | cons c others =>
      have ends : front.getLast? = some c := by
        rw [← List.head?_reverse, backward]
        rfl
      exact List.dropWhile_cons_of_neg (by simp [last c ends])
  rw [dropTrailing, kept, List.reverse_reverse]

theorem dropTrailing_append (kept : dropTrailing drop front = front) :
    dropTrailing drop (front ++ rest) = front ++ dropTrailing drop rest := by
  unfold dropTrailing at kept ⊢
  rw [List.reverse_append, List.dropWhile_append]
  split
  · rename_i gone
    rw [kept, List.isEmpty_iff.mp gone]
    simp
  · rw [List.reverse_append, List.reverse_reverse]

theorem dropTrailing_prefix : dropTrailing drop rest <+: rest := by
  unfold dropTrailing
  rw [← List.reverse_suffix, List.reverse_reverse]
  exact List.dropWhile_suffix drop

end Text

namespace Web.Url

/-- A path without query: nothing, or a text behind a slash. -/
structure IsPath (path : List Char) : Prop where
  slash : ∀ c ∈ path.head?, c = '/'
  plain : ∀ c ∈ path, c ≠ '?' ∧ c ≠ '#'

/-- The characters between the slashes in front of a host and its path. -/
structure IsAuthority (authority : List Char) : Prop where
  named : authority ≠ []
  visible : ∀ c ∈ authority, 0x20 < c.toNat
  unbroken : ∀ c ∈ authority, isSlash c = false ∧ c ≠ '?' ∧ c ≠ '#'

def IsWebScheme (scheme : List Char) : Prop := scheme = "http".toList ∨ scheme = "https".toList

/-- The locator of a scheme and an authority, with a path. -/
def spell (scheme authority path : List Char) : List Char :=
  scheme ++ "://".toList ++ authority ++ path

variable {scheme authority path : List Char}

namespace IsPath

theorem nil : IsPath [] := ⟨by simp, by simp⟩

theorem of_prefix (isPath : IsPath path) {shorter : List Char} (part : shorter <+: path) :
    IsPath shorter where
  slash := by
    intro c first
    obtain ⟨rest, rfl⟩ := part
    cases shorter with
    | nil => cases first
    | cons d others => exact isPath.slash c first
  plain c member := isPath.plain c (part.subset member)

theorem filter (isPath : IsPath path) {keep : Char → Bool} (kept : keep '/' = true) :
    IsPath (path.filter keep) where
  slash := by
    intro c first
    cases path with
    | nil => cases first
    | cons d others =>
      obtain rfl := isPath.slash d rfl
      rw [List.filter_cons_of_pos kept] at first
      exact (Option.some.inj first).symm
  plain c member := isPath.plain c (List.mem_filter.mp member).1

theorem splitQuery_eq (isPath : IsPath path) : splitQuery path = (path, none) := by
  have whole : path.takeWhile (· != '#') = path :=
    List.takeWhile_eq_self_iff.mpr fun c member => by simpa using (isPath.plain c member).2
  have unmarked : ∀ c ∈ path, (c != '?') = true :=
    fun c member => by simpa using (isPath.plain c member).1
  rw [splitQuery, whole, List.takeWhile_eq_self_iff.mpr unmarked,
    List.dropWhile_eq_nil_iff.mpr unmarked]

end IsPath

/-! ### Reading a base -/

theorem last_visible (isAuthority : IsAuthority authority) {c : Char}
    (last : c ∈ (spell scheme authority []).getLast?) :
    0x20 < c.toNat ∧ isSlash c = false := by
  have ends : (spell scheme authority []).getLast? = authority.getLast? := by
    rw [spell, List.append_nil, List.getLast?_append, List.getLast?_eq_some_getLast
      isAuthority.named]
    rfl
  rw [ends] at last
  have member : c ∈ authority := List.mem_of_getLast? last
  exact ⟨isAuthority.visible c member, (isAuthority.unbroken c member).1⟩

theorem dropTrailing_spell (isAuthority : IsAuthority authority) {drop : Char → Bool}
    (kept : ∀ c, 0x20 < c.toNat → isSlash c = false → drop c = false) :
    Text.dropTrailing drop (spell scheme authority path) =
      spell scheme authority (Text.dropTrailing drop path) := by
  have front : Text.dropTrailing drop (spell scheme authority []) = spell scheme authority [] := by
    refine Text.dropTrailing_eq_self fun c last => ?_
    obtain ⟨visible, unbroken⟩ := last_visible isAuthority last
    exact kept c visible unbroken
  rw [spell, List.append_nil] at front
  exact Text.dropTrailing_append front

/-- Only the path loses blanks and controls. -/
theorem clean_spell (isScheme : IsWebScheme scheme) (isAuthority : IsAuthority authority)
    (isPath : IsPath path) :
    ∃ path', IsPath path' ∧
      clean (String.ofList (spell scheme authority path)) = spell scheme authority path' := by
  let isEdge (c : Char) : Bool := c.toNat ≤ 0x20
  let isKept (c : Char) : Bool := c != '\t' && c != '\n' && c != '\r'
  have visible {c : Char} (above : 0x20 < c.toNat) : isEdge c = false := by
    simpa [isEdge] using above
  have kept {c : Char} (above : 0x20 < c.toNat) : isKept c = true := by
    have different {d : Char} (low : d.toNat ≤ 0x20) : c ≠ d := by
      rintro rfl
      omega
    simp [isKept, different (d := '\t') (by decide), different (d := '\n') (by decide),
      different (d := '\r') (by decide)]
  have start : (spell scheme authority path).dropWhile isEdge = spell scheme authority path := by
    rcases isScheme with rfl | rfl <;> rfl
  have trailing : Text.dropTrailing isEdge (spell scheme authority path) =
      spell scheme authority (Text.dropTrailing isEdge path) :=
    dropTrailing_spell isAuthority fun c above _ => visible above
  have schemeKept : (scheme ++ "://".toList).filter isKept = scheme ++ "://".toList := by
    rcases isScheme with rfl | rfl <;> rfl
  have authorityKept : authority.filter isKept = authority :=
    List.filter_eq_self.mpr fun c member => kept (isAuthority.visible c member)
  refine ⟨(Text.dropTrailing isEdge path).filter isKept,
    (isPath.of_prefix Text.dropTrailing_prefix).filter rfl, ?_⟩
  change (Text.dropTrailing isEdge ((String.ofList _).toList.dropWhile isEdge)).filter isKept = _
  rw [String.toList_ofList, start, trailing, spell, List.filter_append, List.filter_append,
    schemeKept, authorityKept, spell]

theorem scheme?_spell (isScheme : IsWebScheme scheme) (authority path : List Char) :
    scheme? (spell scheme authority path) = some (scheme, "//".toList ++ authority ++ path) := by
  rcases isScheme with rfl | rfl
  · rfl
  · rfl

theorem isBase_spell (isScheme : IsWebScheme scheme) (authority path : List Char) :
    Foreign.isBase (spell scheme authority path) = false := by
  have spoken : Foreign.isSpoken scheme = true := by
    rcases isScheme with rfl | rfl <;> rfl
  simp only [Foreign.isBase, scheme?_spell isScheme, spoken, if_true]

theorem ofAuthority?_spell (secure : Bool) (isAuthority : IsAuthority authority)
    (isPath : IsPath path) :
    ofAuthority? secure (authority ++ path) =
      (authority? secure authority).map fun found =>
        ⟨secure, found.1, found.2, walk [] (segments (path.drop 1)), none⟩ := by
  let isEnd (c : Char) : Bool := isSlash c || c == '?' || c == '#'
  have inside : ∀ c ∈ authority, (!isEnd c) = true := by
    intro c member
    obtain ⟨slash, mark, hash⟩ := isAuthority.unbroken c member
    simp [isEnd, slash, mark, hash]
  have first : path.takeWhile (!isEnd ·) = [] ∧ path.dropWhile (!isEnd ·) = path := by
    cases path with
    | nil => exact ⟨rfl, rfl⟩
    | cons c rest =>
      obtain rfl := isPath.slash c rfl
      exact ⟨rfl, rfl⟩
  have host : (authority ++ path).takeWhile (!isEnd ·) = authority := by
    rw [List.takeWhile_append_of_pos inside, first.1, List.append_nil]
  have behind : (authority ++ path).dropWhile (!isEnd ·) = path := by
    rw [List.dropWhile_append_of_pos inside, first.2]
  let behindHost := splitQuery ((authority ++ path).dropWhile (!isEnd ·))
  change (authority? secure ((authority ++ path).takeWhile (!isEnd ·))).bind (fun found =>
    some (Url.mk secure found.1 found.2 (walk [] (segments (behindHost.1.drop 1)))
      (behindHost.2.map encodeQuery))) = _
  simp only [behindHost]
  rw [host, behind, isPath.splitQuery_eq]
  cases authority? secure authority <;> rfl

/-- Scheme, host and number of a base do not depend on its path. -/
theorem parse?_spell (isScheme : IsWebScheme scheme) (isAuthority : IsAuthority authority)
    (isPath : IsPath path) :
    ∃ path', parse? (String.ofList (spell scheme authority path)) =
      (authority? (scheme == "https".toList) authority).map fun found =>
        ⟨scheme == "https".toList, found.1, found.2, path', none⟩ := by
  obtain ⟨path', isPath', cleaned⟩ := clean_spell isScheme isAuthority isPath
  refine ⟨walk [] (segments (path'.drop 1)), ?_⟩
  have spoken : (scheme == "http".toList || scheme == "https".toList) = true := by
    rcases isScheme with rfl | rfl <;> rfl
  have slashes : ("//".toList ++ authority ++ path').dropWhile isSlash = authority ++ path' := by
    cases authority with
    | nil => exact absurd rfl isAuthority.named
    | cons c rest =>
      have name : isSlash c = false := (isAuthority.unbroken c List.mem_cons_self).1
      change (c :: (rest ++ path')).dropWhile isSlash = _
      rw [List.dropWhile_cons_of_neg (by simp [name])]
      rfl
  rw [← ofAuthority?_spell _ isAuthority isPath', ← slashes]
  simp only [parse?, resolve?, cleaned, scheme?_spell isScheme, spoken, if_true]
  rfl

end Web.Url

namespace ContractClient

open Web.Url

/-- The parts of the path of the contracts. -/
def contractsParts : List (List Char) :=
  ["api".toList, "swatch-contracts".toList, "internal".toList, "contracts".toList]

theorem resolve?_contractsPath (base : Web.Url) :
    resolve? (some base) contractsPath = some { base with path := contractsParts, query := none } :=
  rfl

theorem requestLine_contracts {endpoint : Web.Url} (path : endpoint.path = contractsParts)
    (query : endpoint.query = none) (pairs : Web.Form.Pairs) :
    requestLine (endpoint.withPairs pairs) =
      "GET " ++ contractsPath ++ "?" ++ Web.Form.encode pairs := by
  have target : (endpoint.withPairs pairs).target =
      String.ofList (contractsPath.toList ++ '?' :: (Web.Form.encode pairs).toList) := by
    simp only [Web.Url.target, withPairs, path, query]
    rfl
  apply String.toList_inj.mp
  simp [requestLine, target]

def endpointAt? (scheme authority : List Char) : Option Web.Url :=
  let secure := scheme == "https".toList
  (authority? secure authority).map fun (host, number) => ⟨secure, host, number, contractsParts, none⟩

section Bases

variable {settings : ContractClientSettings} {client : ContractClient}
  {scheme authority path : List Char}

theorem endpoint?_spell (isScheme : IsWebScheme scheme) (isAuthority : IsAuthority authority)
    (isPath : IsPath path) :
    endpoint? (String.ofList (spell scheme authority path)) =
      (endpointAt? scheme authority).map .web := by
  have spoken : Web.Foreign.isBase (clean (String.ofList (spell scheme authority path))) =
      false := by
    obtain ⟨path', _, cleaned⟩ := clean_spell isScheme isAuthority isPath
    rw [cleaned]
    exact isBase_spell isScheme authority path'
  obtain ⟨path', parsed⟩ := parse?_spell isScheme isAuthority isPath
  rw [endpoint?, spoken, if_neg Bool.false_ne_true, endpointAt?]
  simp only [parsed]
  cases authority? (scheme == "https".toList) authority with
  | none => rfl
  | some found => simp only [Option.map_some, Option.bind_some, resolve?_contractsPath]

/-- Whether a base makes a client, and which one, is told by its scheme and its authority. -/
theorem create_iff (isScheme : IsWebScheme scheme) (isAuthority : IsAuthority authority)
    (isPath : IsPath path)
    (spelled : settings.baseUrl = String.ofList (spell scheme authority path)) :
    create settings = .ok client ↔
      ∃ endpoint, endpointAt? scheme authority = some endpoint ∧
        client = ⟨settings, .web endpoint⟩ := by
  have trimmed : Text.dropTrailing (· == '/') settings.baseUrl.toList =
      spell scheme authority (Text.dropTrailing (· == '/') path) := by
    rw [spelled, String.toList_ofList]
    refine dropTrailing_spell isAuthority fun c _ unbroken => ?_
    simp only [isSlash, Bool.or_eq_false_iff] at unbroken
    exact unbroken.1
  have shorter : IsPath (Text.dropTrailing (· == '/') path) :=
    isPath.of_prefix Text.dropTrailing_prefix
  rw [create, trimmed, endpoint?_spell isScheme isAuthority shorter]
  cases endpointAt? scheme authority with
  | none => simp
  | some endpoint =>
    simp only [Option.map_some, Except.ok.injEq, Option.some.injEq, exists_eq_left']
    exact eq_comm

/-- Lookups ask for the contracts at the root of the service that scheme and authority name. A path
in the configured base is not kept: without it the client would be the same. -/
theorem base_path_dropped (isScheme : IsWebScheme scheme) (isAuthority : IsAuthority authority)
    (isPath : IsPath path)
    (spelled : settings.baseUrl = String.ofList (spell scheme authority path))
    (created : create settings = .ok client) :
    let bare := { settings with baseUrl := String.ofList (spell scheme authority []) }
    create bare = .ok { client with settings := bare } ∧
      ∃ endpoint, client.endpoint = .web endpoint ∧
        endpoint.secure = (scheme == "https".toList) ∧
        authority? endpoint.secure authority = some (endpoint.host, endpoint.portNumber) ∧
        ∀ query : ContractQuery, requestLine (endpoint.withPairs query.parameters) =
          "GET " ++ contractsPath ++ "?" ++ Web.Form.encode query.parameters := by
  intro bare
  obtain ⟨endpoint, found, rfl⟩ := (create_iff isScheme isAuthority isPath spelled).mp created
  have bareCreated : create bare = .ok ⟨bare, .web endpoint⟩ :=
    (create_iff isScheme isAuthority .nil rfl).mpr ⟨endpoint, found, rfl⟩
  obtain ⟨⟨host, number⟩, read, rfl⟩ := Option.map_eq_some_iff.mp found
  exact ⟨bareCreated, _, rfl, rfl, read,
    fun query => requestLine_contracts rfl rfl query.parameters⟩

end Bases

def localEndpoint : Web.Url := ⟨false, "localhost".toList, some 8000, contractsParts, none⟩

theorem isAuthority_local : IsAuthority "localhost:8000".toList where
  named := by simp
  visible := by simp
  unbroken := by simp [isSlash]

theorem create_local {settings : ContractClientSettings} {path : List Char} (isPath : IsPath path)
    (spelled : settings.baseUrl =
      String.ofList (spell "http".toList "localhost:8000".toList path)) :
    create settings = .ok ⟨settings, .web localEndpoint⟩ := by
  have found : endpointAt? "http".toList "localhost:8000".toList = some localEndpoint := by
    decide +kernel
  exact (create_iff (.inl rfl) isAuthority_local isPath spelled).mpr ⟨localEndpoint, found, rfl⟩

theorem base_path_dropped_local :
    let settings : ContractClientSettings := { baseUrl := "http://localhost:8000/prefix/" }
    let bare : ContractClientSettings := { settings with baseUrl := "http://localhost:8000" }
    create settings = .ok ⟨settings, .web localEndpoint⟩ ∧
      create bare = .ok ⟨bare, .web localEndpoint⟩ := by
  intro settings bare
  have isPath : IsPath "/prefix/".toList := ⟨by simp, by simp⟩
  have created : create settings = .ok ⟨settings, .web localEndpoint⟩ := create_local isPath rfl
  exact ⟨created, (base_path_dropped (.inl rfl) isAuthority_local isPath rfl created).1⟩

/-- The lookups of a base with a path do not ask behind that path. -/
theorem prefix_not_requested :
    ∃ client endpoint, create { baseUrl := "http://localhost:8000/prefix" } = .ok client ∧
      client.endpoint = .web endpoint ∧
      ∀ query : ContractQuery, requestLine (endpoint.withPairs query.parameters) ≠
        "GET /prefix" ++ contractsPath ++ "?" ++ Web.Form.encode query.parameters := by
  have isPath : IsPath "/prefix".toList := ⟨by simp, by simp⟩
  refine ⟨_, _, create_local isPath rfl, rfl, fun query same => ?_⟩
  rw [requestLine_contracts rfl rfl] at same
  have lengths := congrArg String.length same
  simp only [String.length_append, Nat.add_right_cancel_iff] at lengths
  exact absurd lengths (by decide)

end ContractClient
end MeteredBilling
