import ObjectGrants.Proofs.DownloadRelease
import ObjectGrants.Proofs.RetryAttempts
import ObjectGrants.Proofs.UploadAccounting

/-! Downloads matched with the objects they are for. Behind the gate, the last grant for each
object decides: its public URL if there is one, else its signed URL, and an object without either
fails the request. Grants for other objects decide nothing, and the order of the grants decides
only where two are for one object.
-/

namespace ObjectGrants

-----------------------------------------------------------------------------------------
-- The URL of a grant
-----------------------------------------------------------------------------------------

namespace DownloadGrant

/-- One of the two URLs of a grant is not blank. -/
def HasUrl (grant : DownloadGrant) : Prop :=
  Text.isBlankText grant.publicUrl = false ∨ Text.isBlankText grant.signedUrl = false

/-- A download carries a grant on with one of its URLs, which is taken as it is: the public one
unless that is blank, else the signed one. It is never blank.
-/
structure ResolvesTo (grant : DownloadGrant) (download : ResolvedDownload) : Prop where
  token : download.token = grant.token
  expiry : download.expiry = grant.expiry
  isPublic
    : Text.isBlankText grant.publicUrl = false
      → download.url = grant.publicUrl ∧ download.isPublic = true
  isSigned
    : Text.isBlankText grant.publicUrl = true
      → download.url = grant.signedUrl ∧ download.isPublic = false
  filled : Text.isBlankText download.url = false

variable {grant : DownloadGrant}

/-- What a grant is resolved to, by cases on which of its URLs is blank. -/
theorem resolve_eq_ok_iff (correlation : CorrelationId) {download : ResolvedDownload}
    : grant.resolve correlation = .ok download ↔ grant.ResolvesTo download := by
  unfold resolve
  cases unlisted : Text.isBlankText grant.publicUrl with
  | false =>
      constructor
      · intro resolved
        obtain rfl : _ = download := by simpa using resolved
        exact ⟨rfl, rfl, fun _ => ⟨rfl, rfl⟩, by simp [unlisted], unlisted⟩
      · intro resolves
        obtain ⟨url, isPublic⟩ := resolves.isPublic unlisted
        simp [← url, ← isPublic, ← resolves.token, ← resolves.expiry]
  | true =>
      cases unsigned : Text.isBlankText grant.signedUrl with
      | false =>
          constructor
          · intro resolved
            obtain rfl : _ = download := by simpa using resolved
            exact ⟨rfl, rfl, by simp [unlisted], fun _ => ⟨rfl, rfl⟩, unsigned⟩
          · intro resolves
            obtain ⟨url, isPublic⟩ := resolves.isSigned unlisted
            simp [← url, ← isPublic, ← resolves.token, ← resolves.expiry]
      | true =>
          constructor
          · intro resolved
            simp at resolved
          · intro resolves
            obtain ⟨url, _⟩ := resolves.isSigned unlisted
            simp [← url, resolves.filled] at unsigned

/-- A grant without a URL is an answer that cannot be used, and all others are resolved. -/
theorem resolve_eq_error_iff (correlation : CorrelationId) {fault : Fault}
    : grant.resolve correlation = .error fault
      ↔ ¬ grant.HasUrl ∧ fault = .malformed ⟨.download, correlation⟩ (.noUrl grant.token) := by
  unfold resolve HasUrl
  cases Text.isBlankText grant.publicUrl with
  | false => simp
  | true => cases Text.isBlankText grant.signedUrl <;> simp [eq_comm]

theorem exists_resolvesTo_iff : (∃ download, grant.ResolvesTo download) ↔ grant.HasUrl := by
  simp only [← resolve_eq_ok_iff .nil]
  cases resolved : grant.resolve .nil with
  | ok download =>
      refine iff_of_true ⟨download, rfl⟩ (Classical.not_not.mp fun bare => ?_)
      have failed := (resolve_eq_error_iff .nil).mpr ⟨bare, rfl⟩
      exact nomatch resolved.symm.trans failed
  | error fault =>
      exact iff_of_false nofun ((resolve_eq_error_iff .nil).mp resolved).1

end DownloadGrant

-----------------------------------------------------------------------------------------
-- The downloads of some objects
-----------------------------------------------------------------------------------------

namespace Broker

variable {correlation : CorrelationId} {objects : List String}
  {grants others : List DownloadGrant} {object : String}

/-- The last grant for an object has a URL. -/
def Downloadable (grants : List DownloadGrant) (object : String) : Prop :=
  ∃ grant, LastEntry DownloadGrant.token grants object grant ∧ grant.HasUrl

/-- Why an object cannot be downloaded: no grant is for it, or the last one has no URL. -/
inductive Undownloadable (grants : List DownloadGrant) (object : String) : AnswerFault → Prop
  | missing (absent : ∀ grant ∈ grants, grant.token ≠ object)
    : Undownloadable grants object (.missingDownload object)
  | bare {grant} (last : LastEntry DownloadGrant.token grants object grant)
    (without : ¬ grant.HasUrl)
    : Undownloadable grants object (.noUrl object)

/-- What a request for the downloads of some objects gives by the grants of its answer: for each
object what its last grant resolves to, in the order of the objects, or else the fault of the
first object that cannot be downloaded.
-/
structure MatchedByToken (correlation : CorrelationId) (objects : List String)
    (grants : List DownloadGrant) (result : Except Fault (List ResolvedDownload))
    : Prop where
  succeeds
    : (∃ downloads, result = .ok downloads) ↔ ∀ object ∈ objects, Downloadable grants object
  entries
    : ∀ downloads,
        result = .ok downloads
        → List.Forall₂
            (fun object download =>
              download.token = object
              ∧ ∃ grant,
                  LastEntry DownloadGrant.token grants object grant
                  ∧ grant.ResolvesTo download)
            objects downloads
  fails
    : ¬ (∀ object ∈ objects, Downloadable grants object)
      → ∃ before object behind cause,
          objects = before ++ object :: behind
          ∧ (∀ other ∈ before, Downloadable grants other)
          ∧ Undownloadable grants object cause
          ∧ result = .error (.malformed ⟨.download, correlation⟩ cause)

/-- An object is resolved by its last grant. -/
theorem resolveDownload_eq_ok_iff {download : ResolvedDownload}
    : resolveDownload correlation grants object = .ok download
      ↔ ∃ grant,
          LastEntry DownloadGrant.token grants object grant ∧ grant.ResolvesTo download := by
  simp only [← LastEntry.find?_reverse_eq_some_iff, ← DownloadGrant.resolve_eq_ok_iff correlation]
  unfold resolveDownload
  cases grants.reverse.find? (·.token == object) <;> simp

theorem exists_resolveDownload_iff
    : (∃ download, resolveDownload correlation grants object = .ok download)
      ↔ Downloadable grants object := by
  simp only [resolveDownload_eq_ok_iff, Downloadable, ← DownloadGrant.exists_resolvesTo_iff]
  constructor
  · intro holds
    obtain ⟨download, grant, last, resolves⟩ := holds
    exact ⟨grant, last, download, resolves⟩
  · intro holds
    obtain ⟨grant, last, download, resolves⟩ := holds
    exact ⟨download, grant, last, resolves⟩

/-- An object that is not resolved cannot be downloaded, and the fault says why. -/
theorem undownloadable_of_error {fault : Fault}
    (failed : resolveDownload correlation grants object = .error fault)
    : ∃ cause,
        Undownloadable grants object cause
        ∧ fault = .malformed ⟨.download, correlation⟩ cause := by
  unfold resolveDownload at failed
  cases found : grants.reverse.find? (·.token == object) with
  | none =>
      rw [found] at failed
      have absent := LastEntry.find?_reverse_eq_none_iff.mp found
      exact ⟨_, .missing absent, (Except.error.inj failed).symm⟩
  | some grant =>
      rw [found] at failed
      have last := LastEntry.find?_reverse_eq_some_iff.mp found
      obtain ⟨bare, same⟩ := (DownloadGrant.resolve_eq_error_iff correlation).mp failed
      exact ⟨_, .bare last bare, last.named ▸ same⟩

/-- Objects are resolved one by one, each by its last grant, up to the first that cannot be. -/
theorem mapM_resolveDownload_matched (correlation : CorrelationId) (objects : List String)
    (grants : List DownloadGrant)
    : MatchedByToken correlation objects grants
        (objects.mapM (resolveDownload correlation grants)) := by
  have succeeds
      : (∃ downloads, objects.mapM (resolveDownload correlation grants) = .ok downloads)
        ↔ ∀ object ∈ objects, Downloadable grants object := by
    simp only [Traversal.exists_mapM_eq_ok_iff, exists_resolveDownload_iff]
  refine ⟨succeeds, ?_, ?_⟩
  · intro downloads given
    refine (Traversal.mapM_eq_ok_iff.mp given).imp fun object download resolved => ?_
    obtain ⟨grant, last, resolves⟩ := resolveDownload_eq_ok_iff.mp resolved
    exact ⟨resolves.token.trans last.named, grant, last, resolves⟩
  · intro short
    cases ended : objects.mapM (resolveDownload correlation grants) with
    | ok downloads => exact absurd (succeeds.mp ⟨downloads, ended⟩) short
    | error fault =>
        obtain ⟨before, object, behind, _, split, resolved, failed⟩ :=
          Traversal.mapM_eq_error_iff.mp ended
        obtain ⟨cause, undownloadable, rfl⟩ := undownloadable_of_error failed
        refine ⟨before, object, behind, cause, split, ?_, undownloadable, rfl⟩
        intro other member
        obtain ⟨download, _, given⟩ := Traversal.exists_partner resolved member
        exact exists_resolveDownload_iff.mp ⟨download, given⟩

/-- Grants that tell the same about some objects resolve them alike. -/
theorem mapM_resolveDownload_congr
    (tells : TellsSame DownloadGrant.token objects grants others)
    : objects.mapM (resolveDownload correlation grants)
      = objects.mapM (resolveDownload correlation others) := by
  apply Traversal.mapM_congr
  intro object member
  unfold resolveDownload
  rw [tells.find?_reverse_eq member]

-----------------------------------------------------------------------------------------
-- Both operations on bound tokens
-----------------------------------------------------------------------------------------

variable {σ : Type}

/-- A request for downloads resolves the objects by the grants that the authority comes to give. -/
theorem requestDownloads_value {broker : Broker σ} {now : Nat} {state : σ}
    (answered
      : broker.policy.FinalAnswer
          (Timed.call broker.authority correlation
            (.download ⟨objects, broker.downloadExpirySecs⟩))
          now state (.ok grants))
    : ((broker.requestDownloads correlation objects).runAt now state).value
      = objects.mapM (resolveDownload correlation grants) := by
  have given := RetryPolicy.finalAnswer_iff.mp answered
  refine (congrArg Ended.value (Operation.runAt_bind_ofResult _ _ now state)).trans ?_
  exact congrArg
    (Except.bind · fun grants => objects.mapM (resolveDownload correlation grants)) given

/-- How tokens come past the gate: it is asked once, or waited for. -/
inductive Passage where
  | once
  | waiting (timeout : Nat) (cancel : Option Nat)

/-- What an operation behind a passage gives. A wait may give a panic instead. -/
abbrev Passage.Result : Passage → Type → Type
  | .once, α => α
  | .waiting _ _, α => Except Panic α

/-- What is given behind a passage where nothing panics. -/
def Passage.through {α : Type} : (passage : Passage) → α → passage.Result α
  | .once, value => value
  | .waiting _ _, value => .ok value

/-- The gate that is passed. -/
def gateOf (broker : Broker σ) (correlation : CorrelationId) (clock : Clock)
    : (passage : Passage) → List String → Operation σ (passage.Result Unit)
  | .once => broker.gate.ensureReady correlation
  | .waiting timeout cancel => fun names =>
      broker.gate.waitUntilReady clock correlation names timeout cancel

/-- The operation that issues the downloads of some tokens. -/
def downloadsOf (broker : Broker σ) (correlation : CorrelationId) (clock : Clock)
    (tokens : List String)
    : (passage : Passage) → Operation σ (passage.Result (List ResolvedDownload))
  | .once => broker.issueDownloads correlation clock tokens
  | .waiting timeout cancel =>
      broker.issueDownloadsWithin correlation clock tokens timeout cancel

/-- Some tokens are bound to `objects`, the gate lets these pass, and the authority comes to answer
the request for their downloads with `grants`.
-/
structure Granted (broker : Broker σ) (correlation : CorrelationId) (clock : Clock)
    (tokens : List String) (passage : Passage) (state : σ) (objects : List String)
    (grants : List DownloadGrant)
    : Prop where
  bound : ∃ ids, broker.Bound (clock.moment 0) tokens ids ∧ objects = ids.map (·.text)
  passed
    : ((broker.gateOf correlation clock passage objects).start state).value
      = .ok (passage.through ())
  answered
    : let gate := (broker.gateOf correlation clock passage objects).start state
      let request : Call := .download ⟨objects, broker.downloadExpirySecs⟩
      broker.policy.FinalAnswer (Timed.call broker.authority correlation request) gate.elapsed
        gate.state (.ok grants)

/-- What follows the gate that is passed. -/
def followOf (broker : Broker σ) (correlation : CorrelationId)
    : (passage : Passage)
      → List String
      → passage.Result Unit
      → Operation σ (passage.Result (List ResolvedDownload))
  | .once => fun names _ => broker.requestDownloads correlation names
  | .waiting _ _ => broker.requestBehind correlation

/-- Behind an open gate follow the downloads that are requested. -/
theorem followOf_value (broker : Broker σ) (passage : Passage) (names : List String) (now : Nat)
    (state : σ)
    : ((broker.followOf correlation passage names (passage.through ())).runAt now state).value
      = ((broker.requestDownloads correlation names).runAt now state).value.map
          passage.through := by
  cases passage with
  | once =>
      change ((broker.requestDownloads correlation names).runAt now state).value = _
      cases ((broker.requestDownloads correlation names).runAt now state).value <;> rfl
  | waiting timeout cancel =>
      have whole := Operation.runAt_bind_ofResult (broker.requestDownloads correlation names)
        (fun downloads => .ok (Except.ok (ε := Panic) downloads)) now state
      refine (congrArg Ended.value whole).trans ?_
      change Except.bind ((broker.requestDownloads correlation names).runAt now state).value _ = _
      cases ((broker.requestDownloads correlation names).runAt now state).value <;> rfl

/-- Behind the gate, the downloads are made of the grants that are given. -/
theorem Granted.value {broker : Broker σ} {clock : Clock} {tokens : List String}
    {passage : Passage} {state : σ}
    (granted : broker.Granted correlation clock tokens passage state objects grants)
    : ((broker.downloadsOf correlation clock tokens passage).start state).value
      = (objects.mapM (resolveDownload correlation grants)).map passage.through := by
  have steps
      : broker.downloadsOf correlation clock tokens passage
        = (Operation.atTime fun time => broker.boundObjects (clock.moment time) tokens) >>=
            fun names =>
              broker.gateOf correlation clock passage names >>=
                broker.followOf correlation passage names := by
    cases passage <;> rfl
  have passed := granted.passed
  rw [Operation.start_eq] at passed
  rw [steps, boundObjects_start, boundObjects_eq_ok_iff.mpr granted.bound]
  dsimp only
  rw [Operation.start_eq, Operation.runAt_bind]
  dsimp only
  rw [passed, Nat.zero_add]
  refine (followOf_value broker passage objects _ _).trans ?_
  exact congrArg (Except.map passage.through) (requestDownloads_value granted.answered)

/-- Behind the gate, downloads are matched with the objects by token: each object gets what its
last grant resolves to, or the first one that cannot be downloaded fails the request. However
the same objects come past a gate, grants that tell the same about them give the same.
-/
theorem downloads_matchedByToken (broker : Broker σ) (correlation : CorrelationId)
    (clock : Clock) (tokens : List String) (passage : Passage) (state : σ)
    {objects : List String} {grants : List DownloadGrant}
    (granted : broker.Granted correlation clock tokens passage state objects grants)
    : ∃ result,
        ((broker.downloadsOf correlation clock tokens passage).start state).value
          = result.map passage.through
        ∧ MatchedByToken correlation objects grants result
        ∧ ∀ {τ : Type} (other : Broker τ) (clock' : Clock) (tokens' : List String)
            (passage' : Passage) (state' : τ) (others : List DownloadGrant),
            other.Granted correlation clock' tokens' passage' state' objects others
            → TellsSame DownloadGrant.token objects grants others
            → ((other.downloadsOf correlation clock' tokens' passage').start state').value
              = result.map passage'.through := by
  refine ⟨_, granted.value, mapM_resolveDownload_matched correlation objects grants, ?_⟩
  intro τ other clock' tokens' passage' state' others again tells
  rw [mapM_resolveDownload_congr tells]
  exact again.value

/-- The bound tokens of two objects. -/
def rehearsedPair : List String :=
  ["eyJhbGciOiJSUzI1NiJ9.eyJ0b2tlbiI6Im8ifQ.", "eyJhbGciOiJSUzI1NiJ9.eyJ0b2tlbiI6InAifQ."]

/-- Grants for two objects and for a third one, which nobody asked for. The first object has two
grants, and the last one for the second object has a public URL of white space only.
-/
def rehearsedAnswer : List DownloadGrant :=
  [⟨"p", "https://get/p", 7, " 	"⟩, ⟨"o", "https://get/old", 8, ""⟩, ⟨"q", "", 9, ""⟩,
    ⟨"o", "https://get/o", 10, "https://cdn/o"⟩]

/-- An authority by which both objects have been uploaded. -/
def rehearsedUploads : Script where
  reports := [{ answer := .ok [⟨"o", .succeeded⟩, ⟨"p", .succeeded⟩] }]
  downloads := [{ answer := .ok rehearsedAnswer }]

/-- Both objects are matched with their last grants, whatever else is in the answer. -/
theorem downloads_matchedByToken_repeated
    : let clock := Clock.still ⟨0, 0⟩ 0
      rehearsed.Granted .nil clock rehearsedPair .once rehearsedUploads ["o", "p"]
          rehearsedAnswer
      ∧ MatchedByToken .nil ["o", "p"] rehearsedAnswer
          (.ok [⟨"o", "https://cdn/o", true, 10⟩, ⟨"p", "https://get/p", false, 7⟩]) := by
  intro clock
  have granted
      : rehearsed.Granted .nil clock rehearsedPair .once rehearsedUploads ["o", "p"]
          rehearsedAnswer :=
    ⟨boundObjects_eq_ok_iff.mp rfl, rfl, RetryPolicy.finalAnswer_iff.mpr rfl⟩
  have value
      : ((rehearsed.downloadsOf .nil clock rehearsedPair .once).start rehearsedUploads).value
        = .ok [⟨"o", "https://cdn/o", true, 10⟩, ⟨"p", "https://get/p", false, 7⟩] :=
    granted.value.trans rfl
  obtain ⟨result, given, matched, _⟩ :=
    downloads_matchedByToken rehearsed .nil clock rehearsedPair .once _ granted
  cases result with
  | error fault => exact nomatch given.symm.trans value
  | ok downloads =>
      obtain rfl : downloads = _ := Except.ok.inj (given.symm.trans value)
      exact ⟨granted, matched⟩

end Broker

end ObjectGrants
