import ObjectGrants.Proofs.Calls
import ObjectGrants.Proofs.GrantExpiry
import ObjectGrants.Proofs.UploadAccounting

/-! Input that is refused. Whatever can be told to be wrong without the authority is refused before
anything is asked, and of several faults the first in order is reported. All other input leads
to a call.
-/

namespace ObjectGrants

variable {σ α : Type}

namespace Operation

/-- Started at some time, an operation ends at once with a fault and has made no call. -/
def Refused (operation : Operation σ α) (now : Nat) (fault : Fault) : Prop :=
  ∀ state, operation.runAt now state = ⟨.ok (.error fault), 0, [], state⟩

theorem refused_ofResult (fault : Fault) (now : Nat)
    : (ofResult (.error fault) : Operation σ α).Refused now fault :=
  fun _ => rfl

end Operation

-----------------------------------------------------------------------------------------
-- Tokens that are refused
-----------------------------------------------------------------------------------------

namespace Broker

/-- What is wrong with a list of bound tokens: there are none, one is not verified, or two of them
are verified and bound to the same object.
-/
inductive Invalid (broker : Broker σ) (now : Moment) (tokens : List String) : Prop where
  | empty (none : tokens = [])
  | unverified {token fault} (member : token ∈ tokens)
    (failed : broker.verify now token = .error fault)
  | repeated {first second : Nat} {token other object} (apart : first < second)
    (early : tokens[first]? = some token) (late : tokens[second]? = some other)
    (bound : broker.verify now token = .ok object)
    (again : broker.verify now other = .ok object)

/-- The fault of a list of bound tokens. The first token that is not verified comes before an object
that is repeated, and of these it is the first one that is there already.
-/
inductive Unbound (broker : Broker σ) (now : Moment) : List String → Fault → Prop where
  | empty : Unbound broker now [] (.invalidRequest .noTokens)
  | unverified {before token behind objects fault}
    (verified
      : List.Forall₂ (fun token object => broker.verify now token = .ok object) before objects)
    (failed : broker.verify now token = .error fault)
    : Unbound broker now (before ++ token :: behind) fault
  | repeated {tokens before object behind}
    (verified
      : List.Forall₂ (fun token object => broker.verify now token = .ok object) tokens
          (before ++ object :: behind))
    (distinct : before.Nodup) (again : object ∈ before)
    : Unbound broker now tokens (.invalidRequest (.repeatedObject object.text))

/-- The first object that is repeated is there already, and those in front of it are distinct, by
induction on the list.
-/
theorem firstRepeated?_eq_some_iff {seen objects : List ObjectId} {object : ObjectId}
    : firstRepeated? seen objects = some object
      ↔ ∃ before behind,
          objects = before ++ object :: behind
          ∧ firstRepeated? seen before = none
          ∧ (object ∈ before ∨ object ∈ seen) := by
  induction objects generalizing seen with
  | nil => simp [firstRepeated?]
  | cons first rest ih =>
      by_cases member : first ∈ seen
      · constructor
        · intro holds
          have same : first = object := by simpa [firstRepeated?, member] using holds
          exact ⟨[], rest, by rw [same]; rfl, rfl, Or.inr (same ▸ member)⟩
        · rintro ⟨before, behind, split, fresh, again⟩
          cases before with
          | nil =>
              obtain ⟨rfl, _⟩ := List.cons.inj split
              simp [firstRepeated?, member]
          | cons head before =>
              obtain ⟨rfl, _⟩ := List.cons.inj split
              simp [firstRepeated?, member] at fresh
      · have onwards (others : List ObjectId)
            : firstRepeated? seen (first :: others) = firstRepeated? (first :: seen) others := by
          simp [firstRepeated?, member]
        rw [onwards, ih]
        constructor
        · rintro ⟨before, behind, rfl, fresh, again⟩
          refine ⟨first :: before, behind, rfl, (onwards before).trans fresh, ?_⟩
          simp only [List.mem_cons] at again ⊢
          tauto
        · rintro ⟨before, behind, split, fresh, again⟩
          cases before with
          | nil =>
              obtain ⟨rfl, _⟩ := List.cons.inj split
              exact absurd (again.resolve_left (List.not_mem_nil)) member
          | cons head before =>
              obtain ⟨rfl, rfl⟩ := List.cons.inj split
              refine ⟨before, behind, rfl, (onwards before).symm.trans fresh, ?_⟩
              simp only [List.mem_cons] at again ⊢
              tauto

/-- The fault of a list of tokens is that of the first step that finds one: there are tokens, all of
them are verified, no object is repeated.
-/
theorem unbound_iff {broker : Broker σ} {now : Moment} {tokens : List String} {fault : Fault}
    : broker.Unbound now tokens fault
      ↔ (tokens = [] ∧ fault = .invalidRequest .noTokens)
        ∨ tokens.mapM (broker.verify now) = .error fault
        ∨ ∃ objects object,
            tokens.mapM (broker.verify now) = .ok objects
            ∧ firstRepeated? [] objects = some object
            ∧ fault = .invalidRequest (.repeatedObject object.text) := by
  constructor
  · intro unbound
    cases unbound with
    | empty => exact Or.inl ⟨rfl, rfl⟩
    | unverified verified failed =>
        exact Or.inr (Or.inl
          (Traversal.mapM_eq_error_iff.mpr ⟨_, _, _, _, rfl, verified, failed⟩))
    | @repeated _ before object behind verified distinct again =>
        have fresh : firstRepeated? [] before = none :=
          firstRepeated?_eq_none_iff.mpr ⟨distinct, fun _ _ => List.not_mem_nil⟩
        have found : firstRepeated? [] (before ++ object :: behind) = some object :=
          firstRepeated?_eq_some_iff.mpr ⟨before, behind, rfl, fresh, Or.inl again⟩
        exact Or.inr (Or.inr ⟨_, object, Traversal.mapM_eq_ok_iff.mpr verified, found, rfl⟩)
  · rintro (⟨rfl, rfl⟩ | failed | ⟨objects, object, verified, found, rfl⟩)
    · exact .empty
    · obtain ⟨before, token, behind, objects, rfl, verified, failed⟩ :=
        Traversal.mapM_eq_error_iff.mp failed
      exact .unverified verified failed
    · obtain ⟨before, behind, rfl, fresh, again⟩ := firstRepeated?_eq_some_iff.mp found
      exact .repeated (Traversal.mapM_eq_ok_iff.mp verified)
        (firstRepeated?_eq_none_iff.mp fresh).1 (again.resolve_right List.not_mem_nil)

/-- A list of bound tokens is refused with its fault. -/
theorem boundObjects_eq_error_iff {broker : Broker σ} {now : Moment} {tokens : List String}
    {fault : Fault}
    : broker.boundObjects now tokens = .error fault ↔ broker.Unbound now tokens fault := by
  rw [unbound_iff]
  unfold boundObjects
  cases tokens with
  | nil => simp [pure, Except.pure, firstRepeated?, eq_comm]
  | cons token rest =>
      simp only [List.isEmpty_cons, Bool.false_eq_true, if_false, reduceCtorEq, false_and,
        false_or]
      cases (token :: rest).mapM (broker.verify now) with
      | error cause => simp [Bind.bind, Except.bind]
      | ok objects =>
          cases repeated : firstRepeated? [] objects with
          | none => simp [Bind.bind, Except.bind, repeated]
          | some object => simp [Bind.bind, Except.bind, repeated, eq_comm]

/-- Bound tokens are not invalid. -/
theorem Bound.valid {broker : Broker σ} {now : Moment} {tokens : List String}
    {objects : List ObjectId} (bound : broker.Bound now tokens objects)
    : ¬ broker.Invalid now tokens := by
  intro invalid
  cases invalid with
  | empty none =>
      subst none
      exact bound.nonempty (List.forall₂_nil_left_iff.mp bound.verified)
  | unverified member failed =>
      obtain ⟨object, _, verified⟩ := Traversal.exists_partner bound.verified member
      exact nomatch failed.symm.trans verified
  | repeated apart early late first second =>
      obtain ⟨one, atFirst, own⟩ := Traversal.exists_partner_at bound.verified early
      obtain ⟨two, atSecond, own'⟩ := Traversal.exists_partner_at bound.verified late
      obtain rfl := Except.ok.inj (own.symm.trans first)
      obtain rfl := Except.ok.inj (own'.symm.trans second)
      have same := atFirst.trans atSecond.symm
      exact absurd ((List.getElem?_inj (List.getElem?_eq_some_iff.mp atFirst).1
        bound.distinct).mp same) (Nat.ne_of_lt apart)

/-- Tokens with a fault are invalid. -/
theorem Unbound.invalid {broker : Broker σ} {now : Moment} {tokens : List String}
    {fault : Fault} (unbound : broker.Unbound now tokens fault)
    : broker.Invalid now tokens := by
  cases unbound with
  | empty => exact .empty rfl
  | unverified _ failed => exact .unverified (by simp) failed
  | @repeated _ before object behind verified _ again =>
      obtain ⟨first, within, early⟩ := List.getElem_of_mem again
      have atFirst : (before ++ object :: behind)[first]? = some object := by
        rw [List.getElem?_append_left within, List.getElem?_eq_some_iff]
        exact ⟨within, early⟩
      have atSecond : (before ++ object :: behind)[before.length]? = some object := by
        simp
      obtain ⟨token, there, bound⟩ := Traversal.exists_partner_at verified.flip atFirst
      obtain ⟨other, there', again⟩ := Traversal.exists_partner_at verified.flip atSecond
      exact .repeated within there there' bound again

-----------------------------------------------------------------------------------------
-- The operations of a service
-----------------------------------------------------------------------------------------

/-- Input that is invalid when an operation is started never reaches the authority, and all other
input does. What is refused ends at once with the fault of the input. A wait asks nothing either if
it was cancelled before it began, or if no timer can be set to its deadline.
-/
structure RefusesInvalid (broker : Broker σ) (correlation : CorrelationId) (clock : Clock)
    (now : Nat)
    : Prop where
  uploads
    : ∀ category requests,
        (∀ fault,
          Enrichment.enrich category requests = .error fault
          → (broker.issueUploads correlation clock category requests).Refused now fault)
        ∧ ∀ batch,
            Enrichment.enrich category requests = .ok batch
            → (broker.issueUploads correlation clock category requests).Asks now
  downloads
    : ∀ tokens timeout cancel,
        let once := broker.issueDownloads correlation clock tokens
        let within := broker.issueDownloadsWithin correlation clock tokens timeout cancel
        (broker.Invalid (clock.moment now) tokens
          → ∃ fault, broker.Unbound (clock.moment now) tokens fault)
        ∧ (∀ fault,
            broker.Unbound (clock.moment now) tokens fault
            → once.Refused now fault ∧ within.Refused now fault)
        ∧ (¬ broker.Invalid (clock.moment now) tokens
          → once.Asks now
            ∧ (cancel ≠ some 0 → now + timeout ≤ clock.lastTime → within.Asks now))
  objects
    : ∀ grant contentType body,
        (grant.isExpiredAt (clock.moment now) = true
          → (broker.putObject correlation clock grant contentType body).Refused now
              (.invalidRequest (.expiredGrant grant.identifier)))
        ∧ (grant.isExpiredAt (clock.moment now) = false
          → (broker.putObject correlation clock grant contentType body).Asks now)

/-- Behind tokens that are refused nothing is asked of a gate, and behind all others it is. -/
theorem refused_or_asked (broker : Broker σ) (clock : Clock) (now : Nat) (tokens : List String)
    (following : List String → Operation σ α)
    : let behind :=
        Operation.atTime (fun time => broker.boundObjects (clock.moment time) tokens)
          >>= following
      (∀ fault,
        broker.Unbound (clock.moment now) tokens fault
        → behind.Refused now fault)
      ∧ (¬ broker.Invalid (clock.moment now) tokens
        → (∀ names : List String, names ≠ [] → (following names).Asks now)
        → behind.Asks now) := by
  refine ⟨fun fault unbound state => ?_, fun valid asks state => ?_⟩
  · rw [Operation.runAt_atTime_bind, boundObjects_eq_error_iff.mpr unbound]
    exact Operation.refused_ofResult fault now state
  · rw [Operation.runAt_atTime_bind, Operation.ofResult_bind]
    cases known : broker.boundObjects (clock.moment now) tokens with
    | error fault => exact absurd (boundObjects_eq_error_iff.mp known).invalid valid
    | ok names =>
        obtain ⟨objects, bound, rfl⟩ := boundObjects_eq_ok_iff.mp known
        exact asks _ (by simpa using bound.nonempty) state

/-- Every service refuses invalid input, in both batch modes and with and without a wait, before it
asks anything. A rejected batch ends with the fault of its check; bound tokens with that of the
first token that is not verified, else with that of the first object that is repeated, however
the texts of its tokens differ; and a grant that has expired is not used.
-/
theorem invalid_input_refused (broker : Broker σ) (correlation : CorrelationId) (clock : Clock)
    (now : Nat)
    : broker.RefusesInvalid correlation clock now := by
  constructor
  · intro category requests
    unfold issueUploads
    rw [Operation.ofResult_bind]
    constructor
    · intro fault rejected
      rw [rejected]
      exact Operation.refused_ofResult fault now
    · intro batch checked
      obtain ⟨nonempty, _, _, rfl⟩ := Enrichment.enrich_eq_ok_iff.mp checked
      rw [checked]
      exact (broker.requestGrants_asks correlation (by simpa using nonempty) now).bind _
  · intro tokens timeout cancel once within
    have asked := broker.refused_or_asked clock now tokens fun names => do
      broker.gate.ensureReady correlation names
      broker.requestDownloads correlation names
    have waited := broker.refused_or_asked clock now tokens fun names => do
      let waited ← broker.gate.waitUntilReady clock correlation names timeout cancel
      broker.requestBehind correlation names waited
    refine ⟨fun invalid => ?_, fun fault unbound =>
      ⟨asked.1 fault unbound, waited.1 fault unbound⟩,
      fun valid => ⟨?_, fun begins timed => ?_⟩⟩
    · cases known : broker.boundObjects (clock.moment now) tokens with
      | error fault => exact ⟨fault, boundObjects_eq_error_iff.mp known⟩
      | ok names =>
          obtain ⟨objects, bound, _⟩ := boundObjects_eq_ok_iff.mp known
          exact absurd invalid bound.valid
    · exact asked.2 valid fun names nonempty =>
        (Operation.asks_ofTimed (broker.gate.check_asks correlation nonempty)).bind _
    · refine waited.2 valid fun names nonempty => Operation.Asks.bind ?_ _
      exact broker.gate.waitUntilReady_asks correlation nonempty begins timed
  · intro grant contentType body
    constructor
    · intro expired state
      rw [broker.putObject_of_expired correlation expired contentType body state]
    · intro fresh state
      rw [broker.putObject_runAt correlation fresh]
      exact Operation.asks_ofTimed (broker.policy.run_asks _ _ _) state

/-- Two tokens of different texts for one object: the second one has another claim besides. -/
def rehearsedTwins : List String :=
  ["eyJhbGciOiJSUzI1NiJ9.eyJ0b2tlbiI6Im8ifQ.",
    "eyJhbGciOiJSUzI1NiJ9.eyJ0b2tlbiI6Im8iLCJqdGkiOiIyIn0."]

/-- Asking for the downloads of both is refused as a repetition of their object. -/
theorem invalid_input_refused_twins
    : let clock : Clock := .still ⟨0, 0⟩ 1000
      rehearsedTwins.Nodup
      ∧ rehearsed.Invalid (clock.moment 0) rehearsedTwins
      ∧ (rehearsed.issueDownloads .nil clock rehearsedTwins).Refused 0
          (.invalidRequest (.repeatedObject "o"))
      ∧ (rehearsed.issueDownloadsWithin .nil clock rehearsedTwins 1000 none).Refused 0
          (.invalidRequest (.repeatedObject "o")) :=
  have unbound
      : rehearsed.Unbound ⟨0, 0⟩ rehearsedTwins (.invalidRequest (.repeatedObject "o")) :=
    boundObjects_eq_error_iff.mp rfl
  have ⟨_, refused, _⟩ :=
    (invalid_input_refused rehearsed .nil (.still ⟨0, 0⟩ 1000) 0).downloads rehearsedTwins 1000
      none
  have ⟨once, waited⟩ := refused _ unbound
  ⟨by decide, unbound.invalid, once, waited⟩

end Broker

end ObjectGrants
