import Mathlib.Data.List.Nodup
import Mathlib.Data.List.Perm.Basic
import ObjectGrants.Issuance
import ObjectGrants.Proofs.Traversal

/-! Grants matched with the identifiers they are for. Grants are matched exactly if they are for
the expected identifiers, each of these once; which grant comes where is then settled, whatever
the order of the answer. All other grants are refused, with a fault that says what is wrong with
them.
-/

namespace ObjectGrants.Issuance

variable {correlation : CorrelationId} {expected : List String}

-----------------------------------------------------------------------------------------
-- Screening
-----------------------------------------------------------------------------------------

/-- Grants pass behind those for the identifiers `seen` exactly if they are expected, none of them
is seen, and no two of them are for one identifier. Witness: induction on the grants; the
identifier of each is seen by all behind it.
-/
theorem screen_eq_ok_iff {seen : List String} {grants : List SignedGrant}
    : screen correlation expected seen grants = .ok ()
      ↔ (∀ grant ∈ grants, grant.identifier ∈ expected ∧ grant.identifier ∉ seen)
        ∧ (grants.map (·.identifier)).Nodup := by
  induction grants generalizing seen with
  | nil => simp [screen]
  | cons grant rest ih =>
      by_cases known : grant.identifier ∈ expected
      · by_cases again : grant.identifier ∈ seen
        · simp [screen, known, again]
        · have onwards : screen correlation expected seen (grant :: rest)
              = screen correlation expected (grant.identifier :: seen) rest := by
            simp [screen, known, again]
          rw [onwards, ih, List.map_cons, List.nodup_cons, List.forall_mem_cons]
          simp only [List.mem_cons, List.mem_map, not_or, not_exists, not_and]
          constructor
          · intro holds
            obtain ⟨others, distinct⟩ := holds
            refine ⟨⟨⟨known, again⟩, fun other member => ?_⟩, fun other member => ?_, distinct⟩
            · exact ⟨(others other member).1, (others other member).2.2⟩
            · exact (others other member).2.1
          · intro holds
            obtain ⟨⟨_, others⟩, once, distinct⟩ := holds
            refine ⟨fun other member => ?_, distinct⟩
            exact ⟨(others other member).1, once other member, (others other member).2⟩
      · simp [screen, known]

-----------------------------------------------------------------------------------------
-- Collection
-----------------------------------------------------------------------------------------

/-- Grants are collected exactly if there is one for each identifier, and no identifier is expected
twice. Witness: induction on the identifiers; what is taken for one is not left for another.
-/
theorem collect_eq_ok_iff {left matched : List SignedGrant}
    (distinct : (left.map (·.identifier)).Nodup)
    : collect correlation left expected = .ok matched
      ↔ expected.Nodup
        ∧ matched.map (·.identifier) = expected
        ∧ ∀ grant ∈ matched, grant ∈ left := by
  induction expected generalizing left matched with
  | nil => cases matched <;> simp [collect]
  | cons identifier rest ih =>
      have remaining : ((left.filter (·.identifier != identifier)).map (·.identifier)).Nodup :=
        distinct.sublist (List.filter_sublist.map _)
      rw [collect]
      cases found : left.find? (·.identifier == identifier) with
      | none =>
          have absent := List.find?_eq_none.mp found
          refine ⟨nofun, fun holds => ?_⟩
          obtain ⟨_, named, among⟩ := holds
          obtain ⟨grant, _, rfl, own, _⟩ := List.map_eq_cons_iff.mp named
          exact absurd (beq_iff_eq.mpr own) (absent grant (among grant List.mem_cons_self))
      | some grant =>
          have given := List.mem_of_find?_eq_some found
          have named := List.find?_some found
          have own : grant.identifier = identifier := eq_of_beq named
          simp only [Traversal.bind_eq_ok_iff, ih remaining, Except.ok.injEq, List.mem_filter,
            bne_iff_ne]
          constructor
          · intro holds
            obtain ⟨others, ⟨once, rfl, among⟩, rfl⟩ := holds
            refine ⟨List.nodup_cons.mpr ⟨fun again => ?_, once⟩, congrArg (· :: _) own,
              List.forall_mem_cons.mpr ⟨given, fun other member => (among other member).1⟩⟩
            obtain ⟨other, member, same⟩ := List.mem_map.mp again
            exact (among other member).2 same
          · intro holds
            obtain ⟨once, named, among⟩ := holds
            obtain ⟨fresh, once⟩ := List.nodup_cons.mp once
            obtain ⟨first, others, rfl, own', rfl⟩ := List.map_eq_cons_iff.mp named
            obtain ⟨given', among⟩ := List.forall_mem_cons.mp among
            refine ⟨others, ⟨once, rfl, fun other member => ⟨among other member, ?_⟩⟩, ?_⟩
            · exact fun same => fresh (List.mem_map.mpr ⟨other, member, same⟩)
            · rw [List.inj_on_of_nodup_map distinct given given' (own.trans own'.symm)]

/-- Grants are matched exactly if no identifier is expected twice and they are, in some order, one
grant for each expected identifier.
-/
theorem reassociate_eq_ok_iff {grants matched : List SignedGrant}
    : reassociate correlation expected grants = .ok matched
      ↔ expected.Nodup
        ∧ matched.map (·.identifier) = expected
        ∧ matched.Perm grants := by
  rw [reassociate, Traversal.bind_eq_ok_iff]
  constructor
  · intro holds
    obtain ⟨_, screened, collected⟩ := holds
    obtain ⟨known, distinct⟩ := screen_eq_ok_iff.mp screened
    obtain ⟨once, named, among⟩ := (collect_eq_ok_iff distinct).mp collected
    have single : (matched.map (·.identifier)).Nodup := named ▸ once
    refine ⟨once, named, (List.perm_ext_iff_of_nodup single.of_map distinct.of_map).mpr ?_⟩
    refine fun grant => ⟨among grant, fun given => ?_⟩
    have wanted : grant.identifier ∈ matched.map (·.identifier) := named ▸ (known grant given).1
    obtain ⟨other, member, same⟩ := List.mem_map.mp wanted
    exact List.inj_on_of_nodup_map distinct (among other member) given same ▸ member
  · intro holds
    obtain ⟨once, rfl, perm⟩ := holds
    have distinct : (grants.map (·.identifier)).Nodup := (perm.map _).nodup_iff.mp once
    refine ⟨(), screen_eq_ok_iff.mpr ⟨fun grant given => ⟨?_, List.not_mem_nil⟩, distinct⟩, ?_⟩
    · exact List.mem_map_of_mem (perm.mem_iff.mpr given)
    · exact (collect_eq_ok_iff distinct).mpr ⟨once, rfl, fun grant => perm.mem_iff.mp⟩

-----------------------------------------------------------------------------------------
-- Refusal
-----------------------------------------------------------------------------------------

/-- What is wrong with grants for the identifiers `given` where others are expected: one that
nobody asked for, two for one identifier, or none for some identifier.
-/
inductive Misfit (expected given : List String) : AnswerFault → Prop
  | unknown {identifier} (among : identifier ∈ given) (foreign : identifier ∉ expected)
    : Misfit expected given (.unknownIdentifier identifier)
  | repeated {identifier} (twice : 2 ≤ given.count identifier)
    : Misfit expected given (.repeatedIdentifier identifier)
  | missing {identifier} (wanted : identifier ∈ expected) (absent : identifier ∉ given)
    : Misfit expected given (.missingIdentifier identifier)

/-- What is wrong with grants is so in every order. -/
theorem Misfit.of_perm {given others : List String} {cause : AnswerFault}
    (misfit : Misfit expected given cause) (perm : given.Perm others)
    : Misfit expected others cause := by
  cases misfit with
  | unknown among foreign => exact .unknown (perm.mem_iff.mp among) foreign
  | repeated twice => exact .repeated (perm.count_eq _ ▸ twice)
  | missing wanted absent => exact .missing wanted (absent ∘ perm.mem_iff.mpr)

/-- Nothing is wrong with one grant for each identifier, if none is expected twice. -/
theorem Misfit.not_perm {given : List String} {cause : AnswerFault} (distinct : expected.Nodup)
    (misfit : Misfit expected given cause)
    : ¬ given.Perm expected := by
  intro perm
  cases misfit with
  | unknown among foreign => exact foreign (perm.mem_iff.mp among)
  | repeated twice =>
      have once := List.nodup_iff_count_le_one.mp (perm.nodup_iff.mpr distinct)
      exact absurd (once _) (Nat.not_le.mpr twice)
  | missing wanted absent => exact absent (perm.mem_iff.mpr wanted)

/-- Grants that are screened out do not fit, with those before them. Witness: induction on the
grants; the identifiers of those before come first in any order.
-/
theorem screen_misfit {seen : List String} {grants : List SignedGrant} {fault : Fault}
    (refused : screen correlation expected seen grants = .error fault)
    : ∃ cause,
        fault = mismatch correlation cause
        ∧ Misfit expected (seen ++ grants.map (·.identifier)) cause := by
  induction grants generalizing seen with
  | nil => exact nomatch refused
  | cons grant rest ih =>
      have given : grant.identifier ∈ seen ++ (grant :: rest).map (·.identifier) := by simp
      unfold screen at refused
      split at refused
      · next foreign =>
          obtain rfl := Except.error.inj refused
          exact ⟨_, rfl, .unknown given (by simpa using foreign)⟩
      · split at refused
        · next again =>
            obtain rfl := Except.error.inj refused
            refine ⟨_, rfl, .repeated ?_⟩
            have before := List.count_pos_iff.mpr (List.contains_iff_mem.mp again)
            rw [List.count_append, List.map_cons, List.count_cons_self]
            omega
        · obtain ⟨cause, rfl, misfit⟩ := ih refused
          exact ⟨cause, rfl, misfit.of_perm List.perm_middle.symm⟩

/-- Where no identifier is expected twice, collection fails only for one that has no grant.
Witness: induction on the identifiers; what is taken for others is not for that one.
-/
theorem collect_missing (distinct : expected.Nodup) {left : List SignedGrant} {fault : Fault}
    (refused : collect correlation left expected = .error fault)
    : ∃ identifier ∈ expected,
        fault = mismatch correlation (.missingIdentifier identifier)
        ∧ identifier ∉ left.map (·.identifier) := by
  induction expected generalizing left with
  | nil => exact nomatch refused
  | cons first rest ih =>
      obtain ⟨fresh, distinct⟩ := List.nodup_cons.mp distinct
      unfold collect at refused
      split at refused
      · next found =>
          obtain rfl := Except.error.inj refused
          refine ⟨first, List.mem_cons_self, rfl, fun given => ?_⟩
          obtain ⟨grant, member, own⟩ := List.mem_map.mp given
          exact List.find?_eq_none.mp found grant member (beq_iff_eq.mpr own)
      · next grant _ =>
          cases others : collect correlation (left.filter (·.identifier != first)) rest with
          | ok => exact nomatch others ▸ refused
          | error cause =>
              obtain rfl := Except.error.inj (others ▸ refused)
              obtain ⟨identifier, wanted, rfl, absent⟩ := ih distinct others
              refine ⟨identifier, List.mem_cons_of_mem _ wanted, rfl, fun given => absent ?_⟩
              obtain ⟨other, member, rfl⟩ := List.mem_map.mp given
              have unlike : other.identifier ≠ first := fun same => fresh (same ▸ wanted)
              exact List.mem_map_of_mem (List.mem_filter.mpr ⟨member, bne_iff_ne.mpr unlike⟩)

/-- Grants that are not matched do not fit, and the fault says why. -/
theorem reassociate_misfit (distinct : expected.Nodup) {grants : List SignedGrant}
    {fault : Fault} (refused : reassociate correlation expected grants = .error fault)
    : ∃ cause,
        fault = mismatch correlation cause
        ∧ Misfit expected (grants.map (·.identifier)) cause := by
  unfold reassociate at refused
  cases screened : screen correlation expected [] grants with
  | error cause =>
      obtain rfl := Except.error.inj (screened ▸ refused)
      exact screen_misfit screened
  | ok =>
      obtain ⟨identifier, wanted, rfl, absent⟩ :=
        collect_missing distinct (screened ▸ refused)
      exact ⟨_, rfl, .missing wanted absent⟩

-----------------------------------------------------------------------------------------
-- The whole decision
-----------------------------------------------------------------------------------------

/-- Grants for the expected identifiers can be put into the order of these. -/
theorem exists_matched {grants : List SignedGrant}
    (perm : (grants.map (·.identifier)).Perm expected)
    : ∃ matched : List SignedGrant,
        matched.map (·.identifier) = expected ∧ matched.Perm grants := by
  have reordered := congrFun₂ (List.eq_map_comp_perm SignedGrant.identifier) expected grants
  obtain ⟨matched, named, same⟩ := reordered.mpr perm.symm
  exact ⟨matched, named.symm, same⟩

/-- Grants that are matched are matched alike in every order. -/
theorem reassociate_of_ok_of_perm {grants others matched : List SignedGrant}
    (given : reassociate correlation expected grants = .ok matched) (perm : grants.Perm others)
    : reassociate correlation expected others = .ok matched := by
  obtain ⟨once, named, same⟩ := reassociate_eq_ok_iff.mp given
  exact reassociate_eq_ok_iff.mpr ⟨once, named, same.trans perm⟩

/-- For distinct identifiers grants are matched exactly if they are for these, each of them once,
and then they are the same grants in the order of the identifiers. All others have a grant that
nobody asked for, two grants for one identifier or none for some identifier, and they are refused
as an answer that cannot be read, with a fault that names such an identifier. The order of the
grants decides nothing about what is matched.
-/
theorem reassociate_decides (correlation : CorrelationId) (expected : List String)
    (distinct : expected.Nodup) (grants : List SignedGrant)
    : ((∃ matched, reassociate correlation expected grants = .ok matched)
        ↔ (grants.map (·.identifier)).Perm expected)
      ∧ (∀ matched,
          reassociate correlation expected grants = .ok matched
          ↔ matched.map (·.identifier) = expected ∧ matched.Perm grants)
      ∧ (¬ (grants.map (·.identifier)).Perm expected
        ↔ ∃ cause, Misfit expected (grants.map (·.identifier)) cause)
      ∧ (¬ (grants.map (·.identifier)).Perm expected
        → ∃ cause,
            Misfit expected (grants.map (·.identifier)) cause
            ∧ reassociate correlation expected grants
              = .error (.malformed ⟨.bulkUpload, correlation⟩ cause))
      ∧ ∀ matched others,
          reassociate correlation expected grants = .ok matched
          → grants.Perm others
          → reassociate correlation expected others = .ok matched := by
  have matches_iff
      : (∃ matched, reassociate correlation expected grants = .ok matched)
        ↔ (grants.map (·.identifier)).Perm expected := by
    simp only [reassociate_eq_ok_iff, distinct, true_and]
    constructor
    · rintro ⟨matched, rfl, perm⟩
      exact perm.symm.map _
    · exact exists_matched
  have refuses (unlike : ¬ (grants.map (·.identifier)).Perm expected)
      : ∃ cause,
          Misfit expected (grants.map (·.identifier)) cause
          ∧ reassociate correlation expected grants = .error (mismatch correlation cause) := by
    cases decided : reassociate correlation expected grants with
    | ok matched => exact absurd (matches_iff.mp ⟨matched, decided⟩) unlike
    | error fault =>
        obtain ⟨cause, rfl, misfit⟩ := reassociate_misfit distinct decided
        exact ⟨cause, misfit, rfl⟩
  refine ⟨matches_iff, fun matched => ?_, ⟨fun unlike => ?_, ?_⟩, refuses, ?_⟩
  · simp only [reassociate_eq_ok_iff, distinct, true_and]
  · exact (refuses unlike).imp fun _ told => told.1
  · exact fun ⟨_, misfit⟩ => misfit.not_perm distinct
  · exact fun _ _ => reassociate_of_ok_of_perm

/-- Two grants in the reverse order are matched as those in the order of their identifiers. -/
theorem reassociate_reversed
    : ["a", "b"].Nodup
      ∧ reassociate .nil ["a", "b"]
          [⟨"b", "https://put/b", "t", 0⟩, ⟨"a", "https://put/a", "s", 1⟩]
        = .ok [⟨"a", "https://put/a", "s", 1⟩, ⟨"b", "https://put/b", "t", 0⟩] :=
  ⟨by decide,
    (reassociate_decides .nil ["a", "b"] (by decide) [_, _]).2.2.2.2 _ _ rfl (.swap ..)⟩

end ObjectGrants.Issuance
