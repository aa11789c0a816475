import ObjectGrants.Proofs.UploadAccounting

/-! Batch modes side by side. They part at the first failure and not before, so a batch in which
nothing fails is issued alike in both, whatever the authority does.
-/

namespace ObjectGrants

-----------------------------------------------------------------------------------------
-- Runs with and without a stop
-----------------------------------------------------------------------------------------

namespace Dispatch

variable {σ : Type}

/-- No lane has failed. -/
def Unfailed (lanes : List (Lane σ)) : Prop :=
  ∀ lane ∈ lanes, lane.phase.fault? = none

theorem any_fault_iff {lanes : List (Lane σ)}
    : lanes.any (·.phase.fault?.isSome) = true ↔ ¬ Unfailed lanes := by
  simp [Unfailed, Option.isSome_iff_ne_none]

/-- Nothing happens any more on a lane that has failed. -/
theorem Phase.time?_of_failed {phase : Phase σ} (failed : phase.fault? ≠ none)
    : phase.time? = none := by
  cases phase with
  | due time left => exact absurd rfl failed
  | inFlight time left finish => exact absurd rfl failed
  | settled result => rfl

/-- An event leaves a failed lane as it is, by induction on the lanes. -/
theorem fireAt_failed (setting : Setting σ) (time : Nat) (state : σ) {lanes : List (Lane σ)}
    (failed : ¬ Unfailed lanes)
    : ¬ Unfailed (fireAt setting time state lanes).subject := by
  induction lanes with
  | nil => exact failed
  | cons lane rest ih =>
      intro unfailed
      unfold fireAt at unfailed
      split at unfailed
      · next due =>
          obtain ⟨_, others⟩ := List.forall_mem_cons.mp unfailed
          refine failed (List.forall_mem_cons.mpr ⟨?_, others⟩)
          by_contra own
          rw [Phase.time?_of_failed own] at due
          cases due
      · obtain ⟨own, others⟩ := List.forall_mem_cons.mp unfailed
        exact ih (fun same => failed (List.forall_mem_cons.mpr ⟨own, same⟩)) others

/-- A failure is never undone, by induction on the events that are left. -/
theorem proceed_failed (setting : Setting σ) (failFast : Bool) (events time : Nat)
    {lanes : List (Lane σ)} (state : σ) (failed : ¬ Unfailed lanes)
    : ¬ Unfailed (proceed setting failFast events time lanes state).lanes := by
  induction events generalizing time lanes state with
  | zero => exact failed
  | succ events ih =>
      rw [proceed]
      cases nextTime? lanes with
      | none => exact failed
      | some next =>
          have still := fireAt_failed setting next state failed
          dsimp only
          split
          · exact still
          · exact ih next _ still

/-- A run that stops at the first failure is the run that goes on, unless a lane fails in both.
Witness: induction on the events that are left; the first failure is the same in both runs,
and the one that goes on keeps it.
-/
theorem proceed_modes (setting : Setting σ) (events time : Nat) (lanes : List (Lane σ))
    (state : σ)
    : proceed setting true events time lanes state
        = proceed setting false events time lanes state
      ∨ (¬ Unfailed (proceed setting true events time lanes state).lanes
        ∧ ¬ Unfailed (proceed setting false events time lanes state).lanes) := by
  induction events generalizing time lanes state with
  | zero => exact Or.inl rfl
  | succ events ih =>
      rw [proceed, proceed]
      cases nextTime? lanes with
      | none => exact Or.inl rfl
      | some next =>
          let fired := fireAt setting next state lanes
          simp only [Bool.true_and, Bool.false_and, Bool.false_eq_true, if_false]
          by_cases failed : fired.subject.any (·.phase.fault?.isSome) = true
          · have stays := any_fault_iff.mp failed
            simp only [fired] at failed
            rw [if_pos failed]
            exact Or.inr ⟨stays, proceed_failed setting false events next fired.state stays⟩
          · simp only [fired] at failed
            rw [if_neg failed]
            rcases ih next fired.subject fired.state with same | ⟨stopped, wentOn⟩
            · exact Or.inl (by rw [same])
            · exact Or.inr ⟨stopped, wentOn⟩

/-- A batch in which nothing fails is run alike in both modes; else a group fails in both. -/
theorem run_modes (setting : Setting σ) (batch : List EnrichedRequest) (state : σ)
    : (Unfailed (run setting false batch state).lanes
        ∧ run setting true batch state = run setting false batch state)
      ∨ (¬ Unfailed (run setting false batch state).lanes
        ∧ ¬ Unfailed (run setting true batch state).lanes) := by
  have modes
      : run setting true batch state = run setting false batch state
        ∨ (¬ Unfailed (run setting true batch state).lanes
          ∧ ¬ Unfailed (run setting false batch state).lanes) :=
    proceed_modes setting (weight (lanes setting batch)) 0 (lanes setting batch) state
  rcases modes with same | ⟨stopped, wentOn⟩
  · by_cases unfailed : Unfailed (run setting false batch state).lanes
    · exact Or.inl ⟨unfailed, same⟩
    · exact Or.inr ⟨unfailed, same ▸ unfailed⟩
  · exact Or.inr ⟨wentOn, stopped⟩

theorem findSome?_fault_eq_none_iff {lanes : List (Lane σ)}
    : lanes.findSome? (·.phase.fault?) = none ↔ Unfailed lanes :=
  List.findSome?_eq_none_iff

theorem filterMap_failure?_eq_nil_iff {lanes : List (Lane σ)}
    : lanes.filterMap Lane.failure? = [] ↔ Unfailed lanes := by
  simp [Unfailed, Lane.failure?, List.filterMap_eq_nil_iff]

end Dispatch

-----------------------------------------------------------------------------------------
-- A service in both modes
-----------------------------------------------------------------------------------------

namespace Broker

variable {σ : Type}

/-- The same service in a batch mode. -/
def inMode (broker : Broker σ) (mode : BatchMode) : Broker σ :=
  { broker with batchMode := mode }

theorem requestGrants_failFast (broker : Broker σ) (correlation : CorrelationId)
    (batch : List EnrichedRequest)
    : (broker.inMode .failFast).requestGrants correlation batch
      = Dispatch.requestAll (broker.setting correlation) batch >>= fun grants =>
          Operation.ofResult (.ok { grants, failures := [] }) :=
  rfl

theorem requestGrants_partialSuccess (broker : Broker σ) (correlation : CorrelationId)
    (batch : List EnrichedRequest)
    : (broker.inMode .partialSuccess).requestGrants correlation batch
      = Dispatch.requestPartial (broker.setting correlation) batch :=
  rfl

/-- The grants of a batch are requested alike in both modes, and then there is no failure in
either, or the one mode gives a fault where the other one gives failures.
-/
theorem requestGrants_modes (broker : Broker σ) (correlation : CorrelationId)
    (batch : List EnrichedRequest) (now : Nat) (state : σ)
    : let stops := ((broker.inMode .failFast).requestGrants correlation batch).runAt now state
      let goesOn :=
        ((broker.inMode .partialSuccess).requestGrants correlation batch).runAt now state
      (stops = goesOn ∧ ∀ outcome, goesOn.value = .ok outcome → outcome.failures = [])
      ∨ ((∃ fault, stops.value = .error fault)
        ∧ ∀ outcome, goesOn.value = .ok outcome → outcome.failures ≠ []) := by
  rw [requestGrants_failFast, requestGrants_partialSuccess, Operation.runAt_bind_ofResult]
  by_cases nonempty : batch = []
  · subst nonempty
    exact Or.inl ⟨rfl, nofun⟩
  · rw [Dispatch.requestAll, Dispatch.requestPartial, Dispatch.operation_runAt _ _ nonempty,
      Dispatch.operation_runAt _ _ nonempty]
    rcases Dispatch.run_modes (broker.setting correlation) batch state with
      ⟨unfailed, same⟩ | ⟨wentOn, stopped⟩
    · have silent := Dispatch.filterMap_failure?_eq_nil_iff.mpr unfailed
      have clean := Dispatch.findSome?_fault_eq_none_iff.mpr unfailed
      refine Or.inl ⟨?_, ?_⟩
      · simp only [same, Ended.value, clean, silent]
        rfl
      · rintro _ ⟨⟩
        exact silent
    · rw [← Dispatch.findSome?_fault_eq_none_iff] at stopped
      obtain ⟨fault, first⟩ := Option.ne_none_iff_exists'.mp stopped
      refine Or.inr ⟨⟨fault, ?_⟩, ?_⟩
      · simp only [Ended.value, first]
        rfl
      · rintro _ ⟨⟩
        exact fun silent => wentOn (Dispatch.filterMap_failure?_eq_nil_iff.mp silent)

/-- How a run ends that begins at `start` and issues its grants, requested in `requested`, at its
end.
-/
def issuedFrom (broker : Broker σ) (correlation : CorrelationId) (clock : Clock) (start : Nat)
    (batch : List EnrichedRequest) (requested : Ended σ Empty (Except Fault BatchOutcome))
    : Ended σ Empty (Except Fault UploadBatch) :=
  let now := clock.moment (start + requested.elapsed)
  { requested with
    outcome := .ok (requested.value.bind (broker.issueOutcome correlation now batch)) }

/-- A checked batch is issued from the grants that were requested for it, in either mode. -/
theorem issueUploads_of_enriched (broker : Broker σ) (mode : BatchMode)
    (correlation : CorrelationId) (clock : Clock) {category : Category}
    {requests : List UploadRequest} {batch : List EnrichedRequest}
    (checked : Enrichment.enrich category requests = .ok batch) (start : Nat) (state : σ)
    : ((broker.inMode mode).issueUploads correlation clock category requests).runAt start state
      = broker.issuedFrom correlation clock start batch
          (((broker.inMode mode).requestGrants correlation batch).runAt start state) := by
  rw [issueUploads, Operation.ofResult_bind, checked]
  exact Operation.runAt_bind_atTime _ _ start state

/-- A batch that is refused by the checks is refused before any call. -/
theorem issueUploads_of_refused (broker : Broker σ) (correlation : CorrelationId) (clock : Clock)
    {category : Category} {requests : List UploadRequest} {fault : Fault}
    (refused : Enrichment.enrich category requests = .error fault)
    : broker.issueUploads correlation clock category requests
      = Operation.ofResult (.error fault) := by
  rw [issueUploads, Operation.ofResult_bind, refused]

/-- What is issued has the failures of the outcome that it was issued from. -/
theorem issuedFrom_eq_ok {broker : Broker σ} {correlation : CorrelationId} {clock : Clock}
    {start : Nat} {batch : List EnrichedRequest}
    {requested : Ended σ Empty (Except Fault BatchOutcome)} {result : UploadBatch}
    (given : (broker.issuedFrom correlation clock start batch requested).value = .ok result)
    : ∃ outcome, requested.value = .ok outcome ∧ result.failures = outcome.failures := by
  obtain ⟨outcome, obtained, issued⟩ := Traversal.bind_eq_ok_iff.mp given
  exact ⟨outcome, obtained, (issueOutcome_ok issued).1⟩

/-- Both batch modes agree where nothing fails, whatever the authority answers and when. What the
one that stops at a failure issues, the other one issues without failures, and the reverse;
and then the whole runs are the same, with their calls, the times of these and the end.
-/
theorem issueUploads_modes_agree (broker : Broker σ) (correlation : CorrelationId)
    (clock : Clock) (category : Category) (requests : List UploadRequest) (start : Nat)
    (state : σ)
    : let stops :=
        ((broker.inMode .failFast).issueUploads correlation clock category requests).runAt start
          state
      let goesOn :=
        ((broker.inMode .partialSuccess).issueUploads correlation clock category requests).runAt
          start state
      (∀ result,
        stops.value = .ok result ↔ goesOn.value = .ok result ∧ result.failures = [])
      ∧ ∀ result, stops.value = .ok result → stops = goesOn := by
  intro stops goesOn
  cases checked : Enrichment.enrich category requests with
  | error fault =>
      have refused (mode : BatchMode)
          : ((broker.inMode mode).issueUploads correlation clock category requests).runAt start
              state
            = (Operation.ofResult (.error fault)).runAt start state := by
        rw [issueUploads, Operation.ofResult_bind, checked]
      have stopped : stops = _ := refused .failFast
      have wentOn : goesOn = _ := refused .partialSuccess
      rw [stopped, wentOn]
      exact ⟨fun result => ⟨nofun, fun ⟨given, _⟩ => nomatch given⟩, nofun⟩
  | ok batch =>
      have stopped : stops = _ :=
        broker.issueUploads_of_enriched .failFast correlation clock checked start state
      have wentOn : goesOn = _ :=
        broker.issueUploads_of_enriched .partialSuccess correlation clock checked start state
      rcases broker.requestGrants_modes correlation batch start state with
        ⟨same, silent⟩ | ⟨⟨fault, failed⟩, failures⟩
      · have alike : stops = goesOn := by rw [stopped, wentOn, same]
        rw [alike]
        refine ⟨fun result => ⟨fun given => ⟨given, ?_⟩, And.left⟩, fun _ _ => rfl⟩
        rw [wentOn] at given
        obtain ⟨outcome, obtained, kept⟩ := issuedFrom_eq_ok given
        exact kept.trans (silent outcome obtained)
      · have unissued (result : UploadBatch) : stops.value ≠ .ok result := by
          intro given
          rw [stopped] at given
          obtain ⟨outcome, obtained, _⟩ := issuedFrom_eq_ok given
          exact nomatch failed.symm.trans obtained
        refine ⟨fun result => ⟨fun given => absurd given (unissued result), ?_⟩,
          fun result given => absurd given (unissued result)⟩
        rintro ⟨given, complete⟩
        rw [wentOn] at given
        obtain ⟨outcome, obtained, kept⟩ := issuedFrom_eq_ok given
        exact absurd (kept.symm.trans complete) (failures outcome obtained)

end Broker

end ObjectGrants
