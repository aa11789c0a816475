import Mathlib.Algebra.Ring.Nat
import ObjectGrants.Proofs.DownloadRelease
import ObjectGrants.Proofs.InMemoryAuthority
import ObjectGrants.Proofs.TokenMinting

/-! From uploads to downloads. What a service has been granted by the authority in memory for a
batch of uploads is what it downloads again: the bound tokens lead back to the objects, and
the statuses of these decide.
-/

namespace ObjectGrants

open Json
open RehearsalKey (signing)

-----------------------------------------------------------------------------------------
-- Bound tokens
-----------------------------------------------------------------------------------------

namespace RehearsalKey

/-- The claims that bind an object from a second of the calendar on. -/
def boundClaims (second : Int) (object : String) : List (String × Value) :=
  [("exp", Value.ofInt (second + tokenLifetime)), ("token", encode object)]

theorem bind_eq_mint (key : RehearsalKey) (keyId : Option String) (second : Int)
    (object : String)
    : key.bind keyId second object = key.mint keyId (.object (boundClaims second object)) := by
  rw [bind, boundClaims]

end RehearsalKey

/-- A check accepts the signature of the token that binds an object, under the published key. -/
def SignatureCheck.AcceptsBound (check : SignatureCheck) (second : Int) (object : String)
    : Prop :=
  let message := Text.Utf8.encode
    (Token.mintedMessage (some signing.keyId) (.object (RehearsalKey.boundClaims second object)))
  check signing.material .rs256 message
      (Signature.Rsa.sign .sha256 signing.privateKey message)
    = true

/-- A bound token leads back to its object as long as it has not expired. -/
theorem Token.verify_bind {library : TokenLibrary} {second now : Nat} {object : String}
    (accepts : library.check.AcceptsBound second object) (calendar : second ≤ Moment.lastSecond)
    (fresh : now ≤ second + RehearsalKey.tokenLifetime) (named : object ≠ "")
    : (Trust.keys signing.keySet).verify library now
        (signing.bind (some signing.keyId) second object)
      = .ok ⟨object⟩ := by
  have expiry
      : RehearsalKey.boundClaims second object
        = [("exp", Value.ofInt (second + 900 : Nat)), ("token", encode object)] :=
    rfl
  have regular : Claims.Regular (RehearsalKey.boundClaims second object) := by
    rw [expiry]
    refine Claims.regular_bound ?_ object
    simp only [Moment.lastSecond] at calendar
    simp only [InRange]
    omega
  have current : Claims.Current (RehearsalKey.boundClaims second object) now := by
    rw [expiry, Claims.current_bound_iff]
    simp only [RehearsalKey.tokenLifetime] at fresh
    omega
  have binding : Claims.binding (RehearsalKey.boundClaims second object) = .ok ⟨object⟩ := by
    change (if object = "" then _ else _) = _
    rw [if_neg named]
  have vouched := (vouched_signing_iff regular library now signing (some signing.keyId)).mpr
    ⟨by simp, accepts, current⟩
  rw [RehearsalKey.bind_eq_mint, Trust.verify_of_vouched vouched]
  exact (passThrough_verify_mint regular signing.privateKey (some signing.keyId)).trans binding

-----------------------------------------------------------------------------------------
-- Downloads from the authority in memory
-----------------------------------------------------------------------------------------

namespace Broker

open InMemory (State)

/-- The same service on the authority in memory, at a second of the calendar. -/
def onMemory (broker : Broker State) (second : Int) : Broker State :=
  { broker with authority := InMemory.authority second }

variable {broker : Broker State} {second : Int} {correlation : CorrelationId} {state : State}
  {objects : List String}

/-- The decision of the gate about some objects by the statuses that come next for them. -/
def decision (state : State) (objects : List String) : Except Fault Unit :=
  Gate.judge objects (Gate.reportsOf (InMemory.upcoming state.statuses) objects)

/-- Asked once about some objects, the gate decides on the statuses that come next for them. -/
theorem ensureReady_onMemory (broker : Broker State) (second : Int)
    (correlation : CorrelationId) (faultless : state.Faultless) (nonempty : objects ≠ [])
    (distinct : objects.Nodup)
    : ∃ after : State,
        ((broker.onMemory second).gate.ensureReady correlation objects).runAt 0 state
          = { outcome := .ok (decision state objects)
              elapsed := state.statusDelay
              calls := [⟨0, correlation, .uploadCheck objects⟩]
              state := after }
        ∧ after.Faultless
        ∧ after.publicTokens = state.publicTokens := by
  obtain ⟨after, answer, kept, isPublic⟩ :=
    InMemory.answerStatusCheck_faultless
      (faultless.recorded (.statusCheck correlation objects)) ⟨.uploadCheck, correlation⟩ distinct
  refine ⟨after, ?_, kept, isPublic⟩
  rw [Gate.ensureReady_eq _ _ nonempty]
  exact broker.policy.runAt_of_ok (.uploadCheck objects) answer (Gate.judge objects) 0

/-- The last grant for an object is the one that was given for it, and it has a URL. -/
theorem resolveDownload_onMemory (faultless : state.Faultless) (expiry : Int64)
    {object : String} (member : object ∈ objects)
    : resolveDownload correlation (objects.map (InMemory.downloadFor state expiry)) object
      = .ok (state.resolved expiry object) := by
  have granted : InMemory.downloadFor state expiry object
      ∈ (objects.map (InMemory.downloadFor state expiry)).reverse :=
    List.mem_reverse.mpr (List.mem_map_of_mem member)
  unfold resolveDownload
  split
  · next grant found =>
      have own := List.find?_some found
      have among := List.mem_reverse.mp (List.mem_of_find?_eq_some found)
      obtain ⟨other, _, rfl⟩ := List.mem_map.mp among
      rw [InMemory.downloadFor_token] at own
      rw [eq_of_beq own]
      exact InMemory.resolve_downloadFor faultless expiry object correlation
  · next missing =>
      have unlike := List.find?_eq_none.mp missing _ granted
      exact absurd (beq_iff_eq.mpr (InMemory.downloadFor_token state expiry object)) unlike

/-- The downloads of some objects are granted, each resolved to its own URL. -/
theorem requestDownloads_onMemory (faultless : state.Faultless) (now : Nat)
    : (((broker.onMemory second).requestDownloads correlation objects).runAt now state).value
      = .ok (objects.map (state.resolved
          (Int64.ofInt second + Int64.ofInt broker.downloadExpirySecs.toNat))) := by
  let request : DownloadRequest := ⟨objects, broker.downloadExpirySecs⟩
  let pending := (InMemory.authority second).accept correlation (.download request) state
  have granted :=
    InMemory.answerDownloads_faultless faultless second ⟨.download, correlation⟩ request
  have answered : pending.finish pending.state = (.ok _, pending.state) := Prod.ext granted rfl
  have run := broker.policy.runAt_of_ok (.download request) answered
    (fun grants => objects.mapM (resolveDownload correlation grants)) now
  refine (congrArg Ended.value run).trans ?_
  refine Traversal.mapM_eq_ok_iff.mpr ?_
  rw [List.forall₂_map_right_iff, List.forall₂_same]
  exact fun object member => resolveDownload_onMemory faultless _ member

/-- How a request for the downloads of some objects ends by the statuses that come next for them.
Each download names its object, has a URL, is public as the object is and lasts until `expiry`.
-/
structure Delivers (state : State) (expiry : Int) (objects : List ObjectId)
    (ended : Ended State Empty (Except Fault (List ResolvedDownload)))
    : Prop where
  delivered_iff
    : (∃ downloads, ended.value = .ok downloads)
      ↔ ∀ object ∈ objects,
          InMemory.upcoming state.statuses object.text = some .succeeded
  entries
    : ∀ downloads,
        ended.value = .ok downloads
        → List.Forall₂
            (fun (object : ObjectId) (download : ResolvedDownload) =>
              download.token = object.text
              ∧ download.url ≠ ""
              ∧ (download.isPublic = true ↔ object.text ∈ state.publicTokens)
              ∧ download.expiry.toInt = expiry)
            objects downloads
  denied
    : Gate.Denies (InMemory.upcoming state.statuses) (objects.map (·.text))
      → ∃ reports, ended.value = .error (.denied reports)
  notReady
    : ¬Gate.Denies (InMemory.upcoming state.statuses) (objects.map (·.text))
      → (∃ object ∈ objects,
          InMemory.upcoming state.statuses object.text ≠ some .succeeded)
      → ∃ reports, ended.value = .error (.notReady reports)
  unasked
    : (∀ downloads, ended.value ≠ .ok downloads)
      → ∀ record ∈ ended.calls, record.call.endpoint ≠ .download

/-- Seconds of the calendar and terms below 2 ^ 62 add up without overflow. -/
theorem toInt_expiry {second : Nat} (calendar : second ≤ Moment.lastSecond) {expiry : UInt64}
    (short : expiry.toNat < 2 ^ 62)
    : (Int64.ofInt second + Int64.ofInt expiry.toNat).toInt = second + expiry.toNat := by
  simp only [Moment.lastSecond] at calendar
  rw [← Int64.ofInt_add, Int64.toInt_ofInt_of_le] <;> omega

section

variable {expiry : Int} {objects : List ObjectId}
  {ended : Ended State Empty (Except Fault (List ResolvedDownload))}

/-- A run that ends with the fault of the gate, before any request for downloads. -/
theorem Delivers.of_refused {fault : Fault}
    (refused : decision state (objects.map (·.text)) = .error fault)
    (value : ended.value = .error fault)
    (calls : ∀ record ∈ ended.calls, record.call.endpoint ≠ .download)
    : Delivers state expiry objects ended where
  delivered_iff := by
    have shut : decision state (objects.map (·.text)) ≠ .ok () := by simp [refused]
    rw [decision, Ne, Gate.judge_reportsOf_ok_iff, List.forall_mem_map] at shut
    simpa [value] using shut
  entries downloads given := nomatch value.symm.trans given
  denied denies := by
    obtain ⟨reports, denied⟩ := Gate.judge_reportsOf_denied_iff.mpr denies
    exact ⟨reports, by rw [value, Except.error.inj (refused.symm.trans denied)]⟩
  notReady mild pending := by
    obtain ⟨object, member, short⟩ := pending
    obtain ⟨reports, notReady⟩ := Gate.judge_reportsOf_notReady_iff.mpr
      ⟨mild, fun all => short (List.forall_mem_map.mp all object member)⟩
    exact ⟨reports, by rw [value, Except.error.inj (refused.symm.trans notReady)]⟩
  unasked _ := calls

/-- A run that goes through the open gate and gives the resolved downloads of the objects. -/
theorem Delivers.of_opened {after : State} {lifetime : Int64}
    (opened : decision state (objects.map (·.text)) = .ok ())
    (value : ended.value = .ok ((objects.map (·.text)).map (after.resolved lifetime)))
    (isPublic : after.publicTokens = state.publicTokens) (lasts : lifetime.toInt = expiry)
    : Delivers state expiry objects ended where
  delivered_iff :=
    ⟨fun _ => List.forall_mem_map.mp (Gate.judge_reportsOf_ok_iff.mp opened),
      fun _ => ⟨_, value⟩⟩
  entries downloads given := by
    obtain rfl := Except.ok.inj (value.symm.trans given)
    rw [List.map_map, List.forall₂_map_right_iff, List.forall₂_same]
    intro object _
    rw [← isPublic, ← lasts]
    simpa using InMemory.resolved_url_ne_empty after lifetime object.text
  denied denies := by
    obtain ⟨reports, denied⟩ := Gate.judge_reportsOf_denied_iff.mpr denies
    exact nomatch opened.symm.trans denied
  notReady _ pending := by
    obtain ⟨object, member, short⟩ := pending
    exact absurd (List.forall_mem_map.mp (Gate.judge_reportsOf_ok_iff.mp opened) object member)
      short
  unasked failed := absurd value (failed _)

end

/-- Downloads for tokens that are bound to some objects are given by the statuses of these. -/
theorem issueDownloads_onMemory (faultless : state.Faultless) {second : Nat}
    (calendar : second ≤ Moment.lastSecond) (short : broker.downloadExpirySecs.toNat < 2 ^ 62)
    {clock : Clock} {tokens : List String} {objects : List ObjectId}
    (bound : (broker.onMemory second).Bound (clock.moment 0) tokens objects)
    : Delivers state (second + broker.downloadExpirySecs.toNat) objects
        (((broker.onMemory second).issueDownloads correlation clock tokens).start state) := by
  let names := objects.map (·.text)
  have nonempty : names ≠ [] := by simpa [names] using bound.nonempty
  obtain ⟨after, asked, kept, isPublic⟩ :=
    ensureReady_onMemory broker second correlation faultless nonempty bound.names_nodup
  have checked : (broker.onMemory second).boundObjects (clock.moment 0) tokens = .ok names :=
    boundObjects_eq_ok_iff.mpr ⟨objects, bound, rfl⟩
  rw [issueDownloads, boundObjects_start, checked]
  dsimp only
  rw [Operation.start_eq, Operation.runAt_bind, asked]
  dsimp only [Ended.value]
  cases decided : decision state names with
  | error fault => exact .of_refused decided rfl (by simp [Call.endpoint])
  | ok opened =>
      exact .of_opened decided (requestDownloads_onMemory kept _) isPublic
        (toInt_expiry calendar short)

-----------------------------------------------------------------------------------------
-- The whole loop
-----------------------------------------------------------------------------------------

/-- A service with the published keys, whose check accepts the bound token of an object, verifies
the token of its upload grant.
-/
theorem verify_grantFor {store : KeyStore} (stored : broker.verification = .stored store)
    (published : KeySet.ofJwks signing.document = .ok store.set) {granted : Nat}
    (calendar : granted ≤ Moment.lastSecond) {identifier : String}
    (accepts : broker.library.check.AcceptsBound granted (InMemory.objectFor identifier))
    {moment : Moment} (fresh : moment.seconds ≤ granted + RehearsalKey.tokenLifetime)
    : (broker.onMemory second).verify moment (InMemory.grantFor granted identifier).boundToken
      = .ok ⟨InMemory.objectFor identifier⟩ := by
  have set : store.set = signing.keySet :=
    Except.ok.inj (published.symm.trans RehearsalKey.ofJwks_signing)
  have trust : (broker.onMemory second).verification.trust = .keys signing.keySet := by
    rw [onMemory, stored, Verification.trust, set]
  have named : InMemory.objectFor identifier ≠ "" := by
    simp [InMemory.objectFor, String.append_eq_empty_iff]
  rw [verify, trust, InMemory.grantFor]
  refine Token.verify_bind accepts calendar ?_ named
  simp only [RehearsalKey.tokenLifetime] at fresh ⊢
  omega

/-- Issuance and download close the loop. On the authority in memory, without faults and with its
own keys published, a batch that passes the checks is granted in full and in order, in both
batch modes. Any of the issued grants, in any order, are downloaded later by the statuses
that their objects have then, as long as the tokens have not expired. Witness: each bound
token is verified as the object that it was made for, on both sides.
-/
theorem issuance_closes_loop (broker : Broker State) (granted : Nat)
    (correlation : CorrelationId) (clock : Clock) (state : State) {category : Category}
    {requests : List UploadRequest} {batch : List EnrichedRequest} {store : KeyStore}
    (stored : broker.verification = .stored store)
    (published : KeySet.ofJwks signing.document = .ok store.set)
    (short : broker.downloadExpirySecs.toNat < 2 ^ 62)
    (checked : Enrichment.enrich category requests = .ok batch)
    (calendar : granted ≤ Moment.lastSecond)
    (accepts
      : ∀ request ∈ requests,
          broker.library.check.AcceptsBound granted (InMemory.objectFor request.identifier))
    (fresh
      : let uploads :=
          ((broker.onMemory granted).issueUploads correlation clock category requests).start state
        (clock.moment uploads.elapsed).seconds ≤ granted + RehearsalKey.tokenLifetime)
    (faultless : state.Faultless)
    : let uploads :=
        ((broker.onMemory granted).issueUploads correlation clock category requests).start state
      ∃ issued,
        uploads.value = .ok ⟨issued, []⟩
        ∧ issued.map (fun entry => (entry.identifier, entry.object.text))
          = requests.map (fun request => (request.identifier, "obj-" ++ request.identifier))
        ∧ uploads.state.Faultless
        ∧ ∀ (later : State) (second : Nat) (correlation : CorrelationId) (clock : Clock)
            (picked : List IssuedGrant),
            later.Faultless
            → second ≤ Moment.lastSecond
            → (clock.moment 0).seconds ≤ granted + RehearsalKey.tokenLifetime
            → picked ≠ []
            → picked.Nodup
            → picked ⊆ issued
            → Delivers later (second + broker.downloadExpirySecs.toNat) (picked.map (·.object))
                (((broker.onMemory second).issueDownloads correlation clock
                  (picked.map (·.grant.boundToken))).start later) := by
  obtain ⟨_, _, distinct, _⟩ := Enrichment.enrich_eq_ok_iff.mp checked
  let object (identifier : String) : ObjectId := ⟨InMemory.objectFor identifier⟩
  have authority
      : (broker.onMemory granted).authority.EnsuresUploads correlation State.Faultless
          (GrantsAll (InMemory.grantFor granted)) :=
    InMemory.authority_ensuresUploads granted correlation
  let uploads :=
    ((broker.onMemory granted).issueUploads correlation clock category requests).runAt 0 state
  have verified
      : ∀ request ∈ requests,
          (broker.onMemory granted).verify (clock.moment (0 + uploads.elapsed))
              (InMemory.grantFor granted request.identifier).boundToken
            = .ok (object request.identifier) := by
    rw [Nat.zero_add]
    exact fun request member =>
      verify_grantFor stored published calendar (accepts request member) fresh
  obtain ⟨issues, after⟩ :=
    issueUploads_granted authority (fun _ => rfl) checked 0 faultless verified
  refine ⟨issuedFor (InMemory.grantFor granted) object requests, issues, ?_, after, ?_⟩
  · simp [issuedFor, object, InMemory.objectFor]
  intro later second correlation clock picked still onCalendar unexpired nonempty once subset
  refine issueDownloads_onMemory still onCalendar short ⟨?_, by simpa using nonempty, ?_⟩
  · rw [List.forall₂_map_left_iff, List.forall₂_map_right_iff, List.forall₂_same]
    intro entry member
    obtain ⟨request, among, rfl⟩ := List.mem_map.mp (subset member)
    exact verify_grantFor stored published calendar (accepts request among) unexpired
  · refine once.map_on fun first member second other same => ?_
    obtain ⟨request, _, rfl⟩ := List.mem_map.mp (subset member)
    obtain ⟨twin, _, rfl⟩ := List.mem_map.mp (subset other)
    have named : request.identifier = twin.identifier := by
      simpa [object, InMemory.objectFor] using same
    rw [named]

/-- A service that checks tokens with the published keys of the authority in memory. -/
def rehearsedOnMemory : Broker State where
  authority := InMemory.authority 0
  library := .standard
  verification := .stored ⟨.fixed, signing.keySet⟩
  serviceName := "uploads"
  policy := .default
  batchMode := .failFast
  pollInterval := 1
  pollInterval_pos := Nat.one_pos
  downloadExpirySecs := 60

set_option maxRecDepth 100000 in
/-- Two uploads are issued and, once both have succeeded, downloaded. -/
theorem issuance_closes_loop_two_objects
    : let uploads :=
        ((rehearsedOnMemory.onMemory 2000000000).issueUploads .nil (.still ⟨2000000000, 0⟩ 0)
          .image rehearsedRequests).start {}
      let later : State :=
        { uploads.state with
          statuses := [("obj-a", [.succeeded]), ("obj-b", [.succeeded])] }
      ∃ issued downloads,
        uploads.value = .ok ⟨issued, []⟩
        ∧ (((rehearsedOnMemory.onMemory 2000000100).issueDownloads .nil
            (.still ⟨2000000100, 0⟩ 0) (issued.map (·.grant.boundToken))).start later).value
          = .ok downloads
        ∧ downloads.map (·.token) = ["obj-b", "obj-a"] := by
  have checked : Enrichment.enrich .image rehearsedRequests = .ok _ := rfl
  -- The texts are put together before the signatures are computed.
  have accepts
      : ∀ request ∈ rehearsedRequests,
          SignatureCheck.standard.AcceptsBound (2000000000 : Nat)
            (InMemory.objectFor request.identifier) := by
    simp only [rehearsedRequests, List.forall_mem_cons, List.not_mem_nil, false_implies,
      implies_true, and_true]
    constructor <;>
    · simp only [SignatureCheck.AcceptsBound, RehearsalKey.boundClaims, InMemory.objectFor,
        RehearsalKey.material, RehearsalKey.privateKey, RehearsalKey.numberOf,
        RehearsalKey.publicExponent, signing, Token.mintedMessage,
        Text.Utf8.encode_eq_flatMap, String.toList_append, Token.toList_partOf, Value.text,
        Value.ofInt, String.toList_ofList]
      repeat rw [String.toList_ofList]
      decide +kernel
  intro uploads later
  obtain ⟨issued, value, named, faultless, delivers⟩ :=
    issuance_closes_loop rehearsedOnMemory 2000000000 .nil (.still ⟨2000000000, 0⟩ 0) {} rfl
      RehearsalKey.ofJwks_signing (by decide) checked (by decide) accepts (by decide)
      ⟨rfl, rfl, rfl, rfl, rfl, rfl⟩
  have objects : (issued.map (·.object)).map (·.text) = ["obj-b", "obj-a"] := by
    simpa [rehearsedRequests, Function.comp_def] using congrArg (List.map Prod.snd) named
  have once : issued.Nodup := by
    refine .of_map (·.object) (.of_map (·.text) ?_)
    rw [objects]
    decide
  have nonempty : issued ≠ [] := by
    rintro rfl
    cases objects
  have delivered := delivers later 2000000100 .nil (.still ⟨2000000100, 0⟩ 0) issued
    { faultless with } (by decide) (by decide) nonempty once (List.Subset.refl _)
  have succeeded
      : ∀ object ∈ issued.map (·.object),
          InMemory.upcoming later.statuses object.text = some .succeeded := by
    intro object member
    have named := List.mem_map_of_mem (f := (·.text)) member
    rw [objects] at named
    simp only [List.mem_cons, List.not_mem_nil, or_false] at named
    obtain same | same := named <;>
    · rw [same]
      rfl
  obtain ⟨downloads, given⟩ := delivered.delivered_iff.mpr succeeded
  have tokens :=
    Traversal.map_eq_map ((delivered.entries downloads given).imp fun _ _ entry => entry.1)
  exact ⟨issued, downloads, value, given, tokens.trans objects⟩

end Broker

end ObjectGrants
