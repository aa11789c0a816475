import ObjectGrants.Proofs.DispatchCourses

/-! Dispatches by what the authority ensures. Whatever holds of every answer that is given from
the sound states of an authority holds of what each lane waits for and of what it ends with.
-/

namespace ObjectGrants

variable {σ : Type} {sound : σ → Prop}
  {ensures : List UploadDescriptor → Except Fault (List SignedGrant) → Prop}

/-- Calls for uploads and their answers lead from sound states to sound states, and each answer is
as ensured for its call. An answer may be given in a later state than the one that its call
has left.
-/
structure Authority.EnsuresUploads (authority : Authority σ) (correlation : CorrelationId)
    (sound : σ → Prop)
    (ensures : List UploadDescriptor → Except Fault (List SignedGrant) → Prop)
    : Prop where
  accepted
    : ∀ descriptors state,
        sound state → sound (authority.accept correlation (.bulkUpload descriptors) state).state
  answered
    : ∀ descriptors state later,
        sound state
        → sound later
        → let answer := (authority.accept correlation (.bulkUpload descriptors) state).finish later
          sound answer.2 ∧ ensures descriptors answer.1

namespace Dispatch

/-- What a phase waits for or has ended with is as ensured. -/
def Phase.Ensures (sound : σ → Prop) (ensures : Except Fault (List SignedGrant) → Prop)
    : Phase σ → Prop
  | .due _ _ => True
  | .inFlight _ _ finish =>
      ∀ later, sound later → sound (finish later).2 ∧ ensures (finish later).1
  | .settled result => ensures result

theorem Phase.answered_ensures {policy : RetryPolicy} {time left : Nat}
    {ensures : Except Fault (List SignedGrant) → Prop}
    {answer : Except Fault (List SignedGrant)} (holds : ensures answer)
    : (Phase.answered policy time left answer).Ensures sound ensures := by
  unfold Phase.answered
  split
  · split
    · trivial
    · exact holds
  · exact holds

variable {setting : Setting σ}

/-- The descriptors that a lane sends. -/
def Lane.descriptors (setting : Setting σ) (lane : Lane σ) : List UploadDescriptor :=
  lane.requests.map (UploadDescriptor.ofRequest setting.serviceName)

/-- The authority has been left in a sound state, and every lane is as ensured for its call. -/
def Ensured (setting : Setting σ) (sound : σ → Prop)
    (ensures : List UploadDescriptor → Except Fault (List SignedGrant) → Prop)
    (lanes : List (Lane σ)) (state : σ)
    : Prop :=
  sound state ∧ ∀ lane ∈ lanes, lane.phase.Ensures sound (ensures (lane.descriptors setting))

/-- An event leaves a lane as ensured: its call waits for an answer of the authority, and it goes
on or ends with that answer.
-/
theorem Lane.fire_ensured
    (authority : setting.authority.EnsuresUploads setting.correlation sound ensures)
    {lane : Lane σ} {state : σ} (begins : sound state)
    (holds : lane.phase.Ensures sound (ensures (lane.descriptors setting)))
    : let fired := lane.fire setting state
      sound fired.state
      ∧ fired.subject.phase.Ensures sound (ensures (fired.subject.descriptors setting)) := by
  cases phase : lane.phase with
  | due time left =>
      rw [lane.fire_due setting phase]
      exact ⟨authority.accepted _ state begins, fun later still =>
        authority.answered _ state later begins still⟩
  | inFlight time left finish =>
      rw [phase] at holds
      rw [lane.fire_inFlight setting phase]
      exact ⟨(holds state begins).1, Phase.answered_ensures (holds state begins).2⟩
  | settled result =>
      rw [phase] at holds
      simpa [Lane.fire, phase] using ⟨begins, holds⟩

/-- The next event leaves all lanes as ensured, by induction on the lanes. -/
theorem fireAt_ensured
    (authority : setting.authority.EnsuresUploads setting.correlation sound ensures)
    (time : Nat) {lanes : List (Lane σ)} {state : σ}
    (holds : Ensured setting sound ensures lanes state)
    : let fired := fireAt setting time state lanes
      Ensured setting sound ensures fired.subject fired.state := by
  obtain ⟨begins, holds⟩ := holds
  induction lanes with
  | nil => exact ⟨begins, holds⟩
  | cons lane rest ih =>
      obtain ⟨own, others⟩ := List.forall_mem_cons.mp holds
      unfold fireAt
      split
      · obtain ⟨after, changed⟩ := Lane.fire_ensured authority begins own
        exact ⟨after, List.forall_mem_cons.mpr ⟨changed, others⟩⟩
      · obtain ⟨after, changed⟩ := ih others
        exact ⟨after, List.forall_mem_cons.mpr ⟨own, changed⟩⟩

/-- A dispatch leaves all lanes as ensured, by induction on the events that are left. -/
theorem proceed_ensured
    (authority : setting.authority.EnsuresUploads setting.correlation sound ensures)
    (failFast : Bool) (events time : Nat) {lanes : List (Lane σ)} {state : σ}
    (holds : Ensured setting sound ensures lanes state)
    : let outcome := proceed setting failFast events time lanes state
      Ensured setting sound ensures outcome.lanes outcome.state := by
  induction events generalizing time lanes state with
  | zero => exact holds
  | succ events ih =>
      rw [proceed]
      cases nextTime? lanes with
      | none => exact holds
      | some next =>
          have after := fireAt_ensured authority next holds
          dsimp only
          split
          · exact after
          · exact ih next after

theorem run_ensured
    (authority : setting.authority.EnsuresUploads setting.correlation sound ensures)
    (failFast : Bool) (batch : List EnrichedRequest) {state : σ} (begins : sound state)
    : let outcome := run setting failFast batch state
      Ensured setting sound ensures outcome.lanes outcome.state := by
  refine proceed_ensured authority failFast _ 0 ⟨begins, fun lane member => ?_⟩
  rw [lanes_phase member]
  trivial

end Dispatch

end ObjectGrants
