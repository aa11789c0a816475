import ObjectGrants.Proofs.BlankText
import ObjectGrants.Proofs.Enrichment

/-! What is wrong with a batch of requests, and what becomes of one that is sound. Requests are
looked at in order and each for one flaw after the other, so the fault of a batch is that of the
first flaw of the first request with one.
-/

namespace ObjectGrants

-----------------------------------------------------------------------------------------
-- Flaws
-----------------------------------------------------------------------------------------

/-- What can be wrong with a request. -/
inductive Flaw where
  | blankIdentifier
  | blankFileName
  | foreignContentType
  | foreignCategory
  | repeated
  deriving DecidableEq

namespace Flaw

/-- The order in which flaws are reported. -/
def order : List Flaw :=
  [blankIdentifier, blankFileName, foreignContentType, foreignCategory, repeated]

/-- A request has a flaw in a batch of a category, behind the requests `before`. -/
def Spoils (category : Category) (before : List UploadRequest) (request : UploadRequest)
    : Flaw → Prop
  | blankIdentifier => Text.trim request.identifier = ""
  | blankFileName => Text.trim request.fileName = ""
  | foreignContentType => request.contentType ∉ category.contentTypes
  | foreignCategory => ∃ declared, request.category = some declared ∧ declared ≠ category
  | repeated => ∃ other ∈ before, other.identifier = request.identifier

/-- The fault that reports a flaw of a request. -/
def fault (category : Category) (request : UploadRequest) : Flaw → Fault
  | blankIdentifier => .invalidRequest .blankIdentifier
  | blankFileName => .invalidRequest (.blankFileName request.identifier)
  | foreignContentType => .invalidContentType request.identifier request.contentType category
  | foreignCategory =>
      .invalidRequest
        (.foreignCategory request.identifier (request.category.getD category) category)
  | repeated => .invalidRequest (.repeatedIdentifier request.identifier)

end Flaw

/-- Bulk actions are allowed spreadsheets alone, so the check of their own refuses nothing more. -/
theorem Category.spreadsheet_of_bulkAction {category : Category} {contentType : String}
    (allowed : contentType ∈ category.contentTypes)
    : ¬ (category = .bulkAction ∧ contentType ≠ ContentType.spreadsheet) := by
  rintro ⟨rfl, other⟩
  exact other (List.mem_singleton.mp allowed)

namespace UploadRequest

/-- A flaw of a request is the first one in the order of reporting. -/
structure FirstFlaw (category : Category) (before : List UploadRequest) (request : UploadRequest)
    (flaw : Flaw)
    : Prop where
  spoils : flaw.Spoils category before request
  first : ∀ other ∈ Flaw.order.takeWhile (· ≠ flaw), ¬ other.Spoils category before request

/-- Of two different flaws one comes first. -/
theorem FirstFlaw.unique {category : Category} {before : List UploadRequest}
    {request : UploadRequest} {flaw other : Flaw}
    (first : request.FirstFlaw category before flaw)
    (first' : request.FirstFlaw category before other)
    : flaw = other := by
  have ordered : flaw = other
      ∨ flaw ∈ Flaw.order.takeWhile (· ≠ other)
      ∨ other ∈ Flaw.order.takeWhile (· ≠ flaw) := by
    cases flaw <;> cases other <;> decide
  rcases ordered with same | earlier | later
  · exact same
  · exact absurd first.spoils (first'.first flaw earlier)
  · exact absurd first'.spoils (first.first other later)

/-- A request is in order on its own, wherever in a batch it stands. -/
structure Sound (category : Category) (request : UploadRequest) : Prop where
  identifier : Text.trim request.identifier ≠ ""
  fileName : Text.trim request.fileName ≠ ""
  contentType : request.contentType ∈ category.contentTypes
  category : ∀ declared, request.category = some declared → declared = category

/-- A request that is in order on its own can only repeat one before it. -/
theorem unspoiled_iff {category : Category} {before : List UploadRequest} {request : UploadRequest}
    : (∀ flaw : Flaw, ¬ flaw.Spoils category before request)
      ↔ request.Sound category ∧ ∀ other ∈ before, other.identifier ≠ request.identifier := by
  constructor
  · intro unspoiled
    refine ⟨⟨unspoiled .blankIdentifier, unspoiled .blankFileName,
      not_not.mp (unspoiled .foreignContentType), fun declared given => ?_⟩,
      fun other member same => ?_⟩
    · exact not_not.mp fun foreign => unspoiled .foreignCategory ⟨declared, given, foreign⟩
    · exact unspoiled .repeated ⟨other, member, same⟩
  · rintro ⟨sound, fresh⟩ flaw spoils
    cases flaw with
    | blankIdentifier => exact sound.identifier spoils
    | blankFileName => exact sound.fileName spoils
    | foreignContentType => exact spoils sound.contentType
    | foreignCategory =>
        obtain ⟨declared, given, foreign⟩ := spoils
        exact foreign (sound.category declared given)
    | repeated =>
        obtain ⟨other, member, same⟩ := spoils
        exact fresh other member same

/-- The checks of a request on its own find it in order, or report its first flaw. Witness: the
flaws one by one, in their order.
-/
theorem check_cases (category : Category) (before : List UploadRequest) (request : UploadRequest)
    : (request.check category = .ok () ∧ request.Sound category)
      ∨ ∃ flaw,
          request.FirstFlaw category before flaw
          ∧ request.check category = .error (flaw.fault category request) := by
  unfold check
  by_cases identifier : Text.trim request.identifier = ""
  · refine Or.inr ⟨.blankIdentifier, ⟨identifier, by simp [Flaw.order]⟩, ?_⟩
    rw [if_pos ((Text.isBlankText_iff_trim _).mpr identifier), Flaw.fault]
  rw [if_neg (mt (Text.isBlankText_iff_trim _).mp identifier)]
  by_cases fileName : Text.trim request.fileName = ""
  · refine Or.inr ⟨.blankFileName, ⟨fileName, ?_⟩, ?_⟩
    · simpa [Flaw.order, Flaw.Spoils] using identifier
    · rw [if_pos ((Text.isBlankText_iff_trim _).mpr fileName), Flaw.fault]
  rw [if_neg (mt (Text.isBlankText_iff_trim _).mp fileName)]
  by_cases contentType : request.contentType ∈ category.contentTypes
  · rw [if_neg (Category.spreadsheet_of_bulkAction contentType),
      if_neg (by simp [Category.allows, contentType])]
    cases declared : request.category with
    | none => exact Or.inl ⟨rfl, identifier, fileName, contentType, by simp [declared]⟩
    | some other =>
        by_cases own : other = category
        · refine Or.inl ⟨if_pos own, identifier, fileName, contentType, ?_⟩
          simpa [declared] using own
        · refine Or.inr ⟨.foreignCategory, ⟨⟨other, declared, own⟩, ?_⟩, ?_⟩
          · simpa [Flaw.order, Flaw.Spoils] using ⟨identifier, fileName, contentType⟩
          · simp [own, Flaw.fault, declared]
  · refine Or.inr ⟨.foreignContentType, ⟨contentType, ?_⟩, ?_⟩
    · simpa [Flaw.order, Flaw.Spoils] using ⟨identifier, fileName⟩
    · rw [if_pos (by simp [Category.allows, contentType] : (!category.allows _) = true), ite_self]
      rfl

theorem check_eq_ok_iff {category : Category} {request : UploadRequest}
    : request.check category = .ok () ↔ request.Sound category := by
  rcases request.check_cases category [] with ⟨passes, sound⟩ | ⟨flaw, first, fails⟩
  · exact iff_of_true passes sound
  · refine iff_of_false (by simp [fails]) fun sound => ?_
    exact unspoiled_iff.mpr ⟨sound, List.forall_mem_nil _⟩ flaw first.spoils

end UploadRequest

namespace Enrichment

/-- What looking at one request behind others comes to: the fault of its first flaw, or none and
the requests behind it are looked at.
-/
theorem enrichAfter_cons {category : Category} {before : List UploadRequest}
    {seen : List String} (known : ∀ name, name ∈ seen ↔ ∃ other ∈ before, other.identifier = name)
    (request : UploadRequest) (rest : List UploadRequest)
    : (∃ flaw,
        request.FirstFlaw category before flaw
        ∧ enrichAfter category seen (request :: rest) = .error (flaw.fault category request))
      ∨ ((∀ flaw : Flaw, ¬ flaw.Spoils category before request)
        ∧ enrichAfter category seen (request :: rest)
          = (enrichAfter category (request.identifier :: seen) rest).map
              (request.enriched category :: ·)) := by
  rw [enrichAfter]
  rcases request.check_cases category before with ⟨passes, sound⟩ | ⟨flaw, first, fails⟩
  · rw [passes]
    by_cases repeated : request.identifier ∈ seen
    · have again := (known _).mp repeated
      refine Or.inl ⟨.repeated, ⟨again, ?_⟩, ?_⟩
      · simpa [Flaw.order, Flaw.Spoils] using
          ⟨sound.identifier, sound.fileName, sound.contentType, sound.category⟩
      · simp [repeated, Flaw.fault, Bind.bind, Except.bind]
    · refine Or.inr ⟨UploadRequest.unspoiled_iff.mpr ⟨sound, ?_⟩, ?_⟩
      · exact fun other member same => repeated ((known _).mpr ⟨other, member, same⟩)
      · rw [if_neg (by simpa using repeated)]
        cases enrichAfter category (request.identifier :: seen) rest <;> rfl
  · exact Or.inl ⟨flaw, first, by rw [fails]; rfl⟩

/-- No request has a flaw behind those in front of it and those in `before`. -/
def Unspoiled (category : Category) (before : List UploadRequest) : List UploadRequest → Prop
  | [] => True
  | request :: rest =>
      (∀ flaw : Flaw, ¬ flaw.Spoils category before request)
      ∧ Unspoiled category (before ++ [request]) rest

/-- Requests behind those of `before` are refused with the fault of the first flaw of the first one
that has a flaw. Witness: induction on the requests; each one without a flaw joins those before.
-/
theorem enrichAfter_eq_error_iff {category : Category} {before : List UploadRequest}
    {seen : List String}
    (known : ∀ name, name ∈ seen ↔ ∃ other ∈ before, other.identifier = name)
    {requests : List UploadRequest} {fault : Fault}
    : enrichAfter category seen requests = .error fault
      ↔ ∃ early request late flaw,
          requests = early ++ request :: late
          ∧ Unspoiled category before early
          ∧ request.FirstFlaw category (before ++ early) flaw
          ∧ fault = flaw.fault category request := by
  induction requests generalizing before seen with
  | nil => simp [enrichAfter]
  | cons request rest ih =>
      rcases enrichAfter_cons known request rest with ⟨flaw, first, fails⟩ | ⟨unspoiled, passes⟩
      · rw [fails]
        constructor
        · intro same
          obtain rfl := Except.error.inj same
          exact ⟨[], request, rest, flaw, rfl, trivial, by simpa using first, rfl⟩
        · rintro ⟨early, other, late, flaw', same, unspoiled, first', rfl⟩
          cases early with
          | nil =>
              obtain ⟨rfl, rfl⟩ := List.cons.inj same
              rw [List.append_nil] at first'
              rw [first.unique first']
          | cons head early =>
              obtain ⟨rfl, rfl⟩ := List.cons.inj same
              exact absurd first.spoils (unspoiled.1 flaw)
      · have further : ∀ name,
            name ∈ request.identifier :: seen
              ↔ ∃ other ∈ before ++ [request], other.identifier = name := by
          intro name
          rw [List.mem_cons, known]
          simp only [List.mem_append, List.mem_singleton, or_and_right, exists_or,
            exists_eq_left]
          exact or_comm.trans (or_congr_right eq_comm)
        have onwards
            : (enrichAfter category (request.identifier :: seen) rest).map
                  (request.enriched category :: ·) = .error fault
              ↔ enrichAfter category (request.identifier :: seen) rest = .error fault := by
          cases enrichAfter category (request.identifier :: seen) rest <;> simp [Except.map]
        rw [passes, onwards, ih further]
        constructor
        · rintro ⟨early, other, late, flaw, rfl, none, first, rfl⟩
          exact ⟨request :: early, other, late, flaw, rfl, ⟨unspoiled, none⟩, by simpa using first,
            rfl⟩
        · rintro ⟨early, other, late, flaw, same, none, first, rfl⟩
          cases early with
          | nil =>
              obtain ⟨rfl, rfl⟩ := List.cons.inj same
              exact absurd first.spoils (by simpa using unspoiled flaw)
          | cons head early =>
              obtain ⟨rfl, rfl⟩ := List.cons.inj same
              exact ⟨early, other, late, flaw, rfl, none.2, by simpa using first, rfl⟩

end Enrichment

-----------------------------------------------------------------------------------------
-- Sound batches
-----------------------------------------------------------------------------------------

/-- Limits of one kind that agree in everything but their content type. -/
inductive Metadata.SameLimits : Metadata → Metadata → Prop where
  | image (limits : ImageLimits) (contentType)
    : SameLimits (.image limits) (.image { limits with contentType })
  | video (limits : VideoLimits) (contentType)
    : SameLimits (.video limits) (.video { limits with contentType })
  | document (limits : DocumentLimits) (contentType)
    : SameLimits (.document limits) (.document { limits with contentType })

/-- Limits that agree but for their content type are the same ones for that content type. -/
theorem Metadata.sameLimits_iff {template metadata : Metadata}
    : template.SameLimits metadata
      ↔ metadata = template.withContentType metadata.contentType := by
  constructor
  · intro same
    cases same <;> rfl
  · intro same
    rw [same]
    cases template with
    | image limits => exact .image limits _
    | video limits => exact .video limits _
    | document limits => exact .document limits _

/-- What a request of a batch becomes: itself, with the category of the batch and the limits of that
category for its own content type.
-/
structure UploadRequest.EnrichedAs (category : Category) (request : UploadRequest)
    (entry : EnrichedRequest)
    : Prop where
  identifier : entry.identifier = request.identifier
  fileName : entry.fileName = request.fileName
  isPublic : entry.isPublic = request.isPublic
  contentType : entry.metadata.contentType = request.contentType
  limits : category.template.metadata.SameLimits entry.metadata
  category : entry.category = category

theorem UploadRequest.enrichedAs_iff {category : Category} {request : UploadRequest}
    {entry : EnrichedRequest}
    : request.EnrichedAs category entry ↔ entry = request.enriched category := by
  constructor
  · rintro ⟨identifier, fileName, isPublic, contentType, limits, rfl⟩
    rw [Metadata.sameLimits_iff, contentType] at limits
    cases entry
    simp_all [enriched, Template.instantiate]
  · rintro rfl
    have contentType := request.enriched_contentType category
    refine ⟨rfl, rfl, rfl, contentType, Metadata.sameLimits_iff.mpr ?_, rfl⟩
    rw [show (request.enriched category).metadata.contentType = _ from contentType]
    rfl

/-- Requests that become entries one by one become the entries of the whole batch. -/
theorem UploadRequest.enrichedAs_all_iff {category : Category} {requests : List UploadRequest}
    {entries : List EnrichedRequest}
    : List.Forall₂ (EnrichedAs category) requests entries
      ↔ entries = requests.map (·.enriched category) := by
  have related
      : EnrichedAs category = fun request entry => request.enriched category = entry := by
    funext request entry
    exact propext (enrichedAs_iff.trans eq_comm)
  have mapped
      : List.Forall₂ Eq (requests.map (·.enriched category)) entries
        ↔ List.Forall₂ (fun request entry => request.enriched category = entry) requests
            entries :=
    List.forall₂_map_left_iff
  rw [related, ← mapped, List.forall₂_eq_eq_eq, eq_comm]

namespace Enrichment

/-- A batch that is accepted: it is not empty, each request is in order, and no identifier is there
twice.
-/
structure Valid (category : Category) (requests : List UploadRequest) : Prop where
  nonempty : requests ≠ []
  sound : ∀ request ∈ requests, request.Sound category
  distinct : (requests.map (·.identifier)).Nodup

theorem valid_iff {category : Category} {requests : List UploadRequest}
    : Valid category requests
      ↔ requests ≠ []
        ∧ (∀ request ∈ requests, request.check category = .ok ())
        ∧ (requests.map (·.identifier)).Nodup := by
  simp only [UploadRequest.check_eq_ok_iff]
  exact ⟨fun valid => ⟨valid.nonempty, valid.sound, valid.distinct⟩,
    fun holds => ⟨holds.1, holds.2.1, holds.2.2⟩⟩

/-- The fault with which a batch is refused: that of an empty batch, or of the first flaw of the
first request that has one.
-/
inductive Refuses (category : Category) : List UploadRequest → Fault → Prop where
  | empty : Refuses category [] (.invalidRequest .emptyBatch)
  | flawed {early request late flaw} (unspoiled : Unspoiled category [] early)
    (first : UploadRequest.FirstFlaw category early request flaw)
    : Refuses category (early ++ request :: late) (flaw.fault category request)

/-- A batch is refused with its fault. -/
theorem enrich_eq_error_iff {category : Category} {requests : List UploadRequest} {fault : Fault}
    : enrich category requests = .error fault ↔ Refuses category requests fault := by
  have unknown (name : String)
      : name ∈ ([] : List String)
        ↔ ∃ other ∈ ([] : List UploadRequest), other.identifier = name := by
    simp
  have filled (some : requests ≠ [])
      : enrich category requests = enrichAfter category [] requests := by
    rw [enrich, if_neg (by simpa using some)]
  constructor
  · intro fails
    by_cases none : requests = []
    · subst none
      obtain rfl := Except.error.inj fails
      exact .empty
    · rw [filled none] at fails
      obtain ⟨early, request, late, flaw, rfl, unspoiled, first, rfl⟩ :=
        (enrichAfter_eq_error_iff unknown).mp fails
      exact .flawed unspoiled first
  · intro refuses
    cases refuses with
    | empty => rfl
    | @flawed early request late flaw unspoiled first =>
        rw [filled (by simp)]
        exact (enrichAfter_eq_error_iff unknown).mpr
          ⟨early, request, late, flaw, rfl, unspoiled, first, rfl⟩

/-- Exactly the valid batches pass, with one entry for each request in the order of the requests.
Every other batch is refused with the fault of the first flaw of its first request with one.
-/
theorem enrich_decides (category : Category) (requests : List UploadRequest)
    : ((∃ entries, enrich category requests = .ok entries) ↔ Valid category requests)
      ∧ (∀ entries,
          enrich category requests = .ok entries
          ↔ Valid category requests
            ∧ List.Forall₂ (UploadRequest.EnrichedAs category) requests entries)
      ∧ ∀ fault, enrich category requests = .error fault ↔ Refuses category requests fault := by
  refine ⟨?_, fun entries => ?_, fun fault => ?_⟩
  · simp only [enrich_eq_ok_iff, valid_iff, ← and_assoc, exists_and_left, exists_eq, and_true]
  · rw [enrich_eq_ok_iff, valid_iff, UploadRequest.enrichedAs_all_iff, and_assoc, and_assoc]
  · exact enrich_eq_error_iff

end Enrichment

end ObjectGrants
