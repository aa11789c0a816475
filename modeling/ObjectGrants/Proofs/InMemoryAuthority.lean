import ObjectGrants.Authority.InMemory
import ObjectGrants.Proofs.BlankText
import ObjectGrants.Proofs.GateDecision
import ObjectGrants.Proofs.GrantedBatches

/-! The authority in memory where it has not been told to misbehave. It grants what is asked of
it, reports of each object the status that is next in its sequence, and gives every download a
URL.
-/

namespace ObjectGrants.InMemory

-----------------------------------------------------------------------------------------
-- States without faults
-----------------------------------------------------------------------------------------

/-- The authority has been told neither to fail nor to leave out or add anything. Statuses, public
objects, delays and the calls on record are arbitrary.
-/
structure State.Faultless (state : State) : Prop where
  uploadFailures : state.uploadFailures = []
  statusFailure : state.statusFailure = none
  downloadFailure : state.downloadFailure = none
  omittedGrants : state.omittedGrants = []
  unknownGrants : state.unknownGrants = []
  emptyDownloads : state.emptyDownloads = []

variable {state : State}

theorem State.Faultless.recorded (faultless : state.Faultless) (call : RecordedCall)
    : (state.recorded call).Faultless :=
  { faultless with }

/-- A request for uploads is granted in full, and the call is put on record. -/
theorem answerUploads_faultless (faultless : state.Faultless) (clock : Int) (origin : Origin)
    (descriptors : List UploadDescriptor)
    : let identifiers := descriptors.map (·.identifier)
      let contentType := (descriptors.head?.map (·.contentType)).getD ""
      answerUploads clock origin descriptors state
        = (.ok (identifiers.map (grantFor clock)).reverse,
            state.recorded (.uploadGrants origin.correlation contentType identifiers)) := by
  simp [answerUploads, State.recorded, faultless.uploadFailures, faultless.omittedGrants,
    faultless.unknownGrants]

/-- The authority grants all calls for uploads in full. -/
theorem authority_ensuresUploads (clock : Int) (correlation : CorrelationId)
    : (authority clock).EnsuresUploads correlation State.Faultless
        (GrantsAll (grantFor clock)) := by
  constructor
  · intro descriptors state faultless
    change (answerUploads clock _ descriptors state).2.Faultless
    rw [answerUploads_faultless faultless]
    exact faultless.recorded _
  · intro descriptors state later faultless still
    refine ⟨still, ?_⟩
    change GrantsAll _ _ (answerUploads clock _ descriptors state).1
    rw [answerUploads_faultless faultless]
    refine ⟨_, rfl, ?_⟩
    rw [List.map_map]
    exact List.reverse_perm _

-----------------------------------------------------------------------------------------
-- Reports
-----------------------------------------------------------------------------------------

/-- The status that comes next for a token, if it has been given any. -/
def upcoming (statuses : List (String × List Status)) (token : String) : Option Status :=
  (statuses.lookup token).bind List.head?

/-- Setting one entry leaves all others, by induction on the entries. -/
theorem lookup_setEntry_other {α : Type} {name other : String} (unlike : other ≠ name)
    (value : α) (entries : List (String × α))
    : (setEntry name value entries).lookup other = entries.lookup other := by
  induction entries with
  | nil => simp [setEntry, List.lookup_cons, beq_eq_false_iff_ne.mpr unlike]
  | cons entry rest ih =>
      obtain ⟨key, kept⟩ := entry
      unfold setEntry
      split
      · next same =>
          subst same
          simp [List.lookup_cons, beq_eq_false_iff_ne.mpr unlike]
      · simp only [List.lookup_cons, ih]

theorem nextStatus_fst (sequence : List Status) : (nextStatus sequence).1 = sequence.head? := by
  match sequence with
  | [] => rfl
  | [last] => rfl
  | first :: second :: rest => rfl

/-- Each of some distinct tokens is reported with the status that is next for it, by induction on
the tokens; the sequences of the others are left alone.
-/
theorem reportsFor_distinct {tokens : List String} (distinct : tokens.Nodup)
    (statuses : List (String × List Status))
    : (reportsFor tokens statuses).1 = Gate.reportsOf (upcoming statuses) tokens := by
  induction tokens generalizing statuses with
  | nil => rfl
  | cons token rest ih =>
      obtain ⟨fresh, distinct⟩ := List.nodup_cons.mp distinct
      rw [reportsFor, Gate.reportsOf, List.filterMap_cons, ← Gate.reportsOf]
      rw [upcoming]
      cases found : statuses.lookup token with
      | none => simpa using ih distinct statuses
      | some sequence =>
          have others
              : (reportsFor rest (setEntry token (nextStatus sequence).2 statuses)).1
                = Gate.reportsOf (upcoming statuses) rest := by
            rw [ih distinct]
            refine List.filterMap_congr fun other member => ?_
            have unlike : other ≠ token := fun same => fresh (same ▸ member)
            rw [upcoming, lookup_setEntry_other unlike, ← upcoming]
          simp only [others, nextStatus_fst, Option.bind_some]
          cases sequence.head? <;> rfl

/-- A question about statuses is answered for each of some distinct tokens, and leaves no fault
behind.
-/
theorem answerStatusCheck_faultless (faultless : state.Faultless) (origin : Origin)
    {tokens : List String} (distinct : tokens.Nodup)
    : ∃ after : State,
        answerStatusCheck origin tokens state
          = (.ok (Gate.reportsOf (upcoming state.statuses) tokens), after)
        ∧ after.Faultless
        ∧ after.publicTokens = state.publicTokens := by
  refine ⟨{ state with statusFailure := none, statuses := (reportsFor tokens state.statuses).2 },
    ?_, { faultless with statusFailure := rfl }, rfl⟩
  simp only [answerStatusCheck, faultless.statusFailure, Armed.fire,
    reportsFor_distinct distinct]

-----------------------------------------------------------------------------------------
-- Downloads
-----------------------------------------------------------------------------------------

/-- A request for downloads is answered with a grant for each object. -/
theorem answerDownloads_faultless (faultless : state.Faultless) (clock : Int) (origin : Origin)
    (request : DownloadRequest)
    : let expiry := Int64.ofInt clock + Int64.ofInt request.expiryInSeconds.toNat
      (answerDownloads clock origin request state).1
        = .ok (request.tokens.map (downloadFor state expiry)) := by
  simp only [answerDownloads, State.recorded, faultless.downloadFailure, Armed.fire]
  rfl

/-- What a download of an object is resolved to. -/
def State.resolved (state : State) (expiry : Int64) (object : String) : ResolvedDownload :=
  if object ∈ state.publicTokens then ⟨object, "https://cdn.test/" ++ object, true, expiry⟩
  else ⟨object, "https://storage.test/download/" ++ object, false, expiry⟩

theorem downloadFor_token (state : State) (expiry : Int64) (object : String)
    : (downloadFor state expiry object).token = object := by
  unfold downloadFor
  split
  · rfl
  · split <;> rfl

/-- The grant for an object gives one URL, the public one exactly if the object is public. -/
theorem resolve_downloadFor (faultless : state.Faultless) (expiry : Int64) (object : String)
    (correlation : CorrelationId)
    : (downloadFor state expiry object).resolve correlation
      = .ok (state.resolved expiry object) := by
  have cdn : Text.isBlankText "https://cdn.test/" = false := by decide
  have storage : Text.isBlankText "https://storage.test/download/" = false := by decide
  have empty : Text.isBlankText "" = true := rfl
  by_cases isPublic : object ∈ state.publicTokens
  · simp [downloadFor, DownloadGrant.resolve, State.resolved, faultless.emptyDownloads, isPublic,
      Text.isBlankText_append cdn]
  · simp [downloadFor, DownloadGrant.resolve, State.resolved, faultless.emptyDownloads, isPublic,
      Text.isBlankText_append storage, empty]

@[simp]
theorem resolved_token (state : State) (expiry : Int64) (object : String)
    : (state.resolved expiry object).token = object := by
  unfold State.resolved
  split <;> rfl

@[simp]
theorem resolved_expiry (state : State) (expiry : Int64) (object : String)
    : (state.resolved expiry object).expiry = expiry := by
  unfold State.resolved
  split <;> rfl

@[simp]
theorem resolved_isPublic_iff (state : State) (expiry : Int64) (object : String)
    : (state.resolved expiry object).isPublic = true ↔ object ∈ state.publicTokens := by
  unfold State.resolved
  split <;> simp [*]

theorem resolved_url_ne_empty (state : State) (expiry : Int64) (object : String)
    : (state.resolved expiry object).url ≠ "" := by
  unfold State.resolved
  split <;> simp [String.append_eq_empty_iff]

end ObjectGrants.InMemory
