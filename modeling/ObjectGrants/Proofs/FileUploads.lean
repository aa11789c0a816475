import Mathlib.Data.List.Nodup
import ObjectGrants.Proofs.BatchModes
import ObjectGrants.Proofs.CommandRuns
import ObjectGrants.Proofs.GrantExpiry

/-! The command that uploads files. Its requests are named after the files, so the grants that are
issued lead back to them: behind issuance, grant after grant is put the bytes of its own file, up
to the first one that cannot be.
-/

namespace ObjectGrants

namespace LocalPath

/-- The requests for some files, in their order. -/
def Requests (files : List String) (contentType : Option String) (isPublic : Bool)
    (requests : List UploadRequest)
    : Prop :=
  List.Forall₂ (fun path upload => request path contentType isPublic = .ok upload) files requests

/-- The only file of some with an identifier for its name, and the request for it. -/
structure OwnFile (files : List String) (contentType : Option String) (isPublic : Bool)
    (identifier path : String) (upload : UploadRequest)
    : Prop where
  only : files.filter (fileName? · = some identifier) = [path]
  requested : request path contentType isPublic = .ok upload

variable {files : List String} {contentType : Option String} {isPublic : Bool}

/-- A request is identified by the name of its file. -/
theorem request_identifier {path : String} {upload : UploadRequest}
    (requested : request path contentType isPublic = .ok upload)
    : fileName? path = some upload.identifier := by
  unfold request at requested
  split at requested
  · exact nomatch requested
  · next name named =>
      split at requested
      · exact nomatch requested
      · obtain rfl := Except.ok.inj requested
        exact named

theorem Requests.fileNames {requests : List UploadRequest}
    (made : Requests files contentType isPublic requests)
    : files.map fileName? = requests.map (some ·.identifier) :=
  (Traversal.map_eq_map (made.imp fun _ _ requested => (request_identifier requested).symm)).symm

/-- The identifiers are distinct where the file names are. -/
theorem Requests.nodup_iff {requests : List UploadRequest}
    (made : Requests files contentType isPublic requests)
    : (files.map fileName?).Nodup ↔ (requests.map (·.identifier)).Nodup := by
  have names : files.map fileName? = (requests.map (·.identifier)).map some := by
    rw [made.fileNames, List.map_map]
    rfl
  rw [names, List.nodup_map_iff (Option.some_injective _)]

end LocalPath

-----------------------------------------------------------------------------------------
-- The service
-----------------------------------------------------------------------------------------

namespace Broker

variable {σ : Type}

end Broker

namespace CommandLine

open Json
open LocalPath (OwnFile Requests)

variable {σ α β : Type} {files : List String} {contentType : Option String} {isPublic : Bool}

/-- The last of some attempts has been answered with success. -/
def Accepted (attempts : List Exchange) : Prop :=
  ∃ last, attempts.getLast? = some last ∧ ∃ reply, last.reply? = some (.ok reply)

/-- An upload of files: which files in which world, and what is asked for them. -/
structure FileUpload where
  world : World
  correlation : CorrelationId
  files : List String
  contentType : Option String
  isPublic : Bool

namespace FileUpload

/-- Attempts to put the bytes of its own file to the URL of an issued grant, which has not expired
when the first of them is made.
-/
structure PutsFile (task : FileUpload) (issued : IssuedGrant) (attempts : List Exchange)
    : Prop where
  own
    : ∃ path request body,
        OwnFile task.files task.contentType task.isPublic issued.identifier path request
        ∧ task.world.files path = .ok body
        ∧ ∀ attempt ∈ attempts,
            attempt.Asks task.correlation
              (.objectPut issued.grant.signedUrl request.contentType body)
  unexpired
    : ∃ first ∈ attempts.head?,
        issued.grant.isExpiredAt (task.world.clock.moment first.record.time) = false

/-- The time at which the grant at some place is to be put its file: that of its first attempt, or
the end of the run if there is none.
-/
def begins (groups : List (List Exchange)) (finish place : Nat) : Nat :=
  match groups[place]? with
  | some (first :: _) => first.record.time
  | _ => finish

/-- An issued grant that is not put anything at a time: it has expired by then, or its own file
cannot be read.
-/
def Blocked (task : FileUpload) (time : Nat) (issued : IssuedGrant) : Prop :=
  issued.grant.isExpiredAt (task.world.clock.moment time) = true
  ∨ ∃ path reason,
      task.files.filter (LocalPath.fileName? · = some issued.identifier) = [path]
      ∧ task.world.files path = .error reason

/-- Who is put a file is not blocked when the attempts begin. -/
theorem PutsFile.not_blocked {task : FileUpload} {issued : IssuedGrant}
    {attempts : List Exchange} {groups : List (List Exchange)} {finish : Nat}
    (puts : task.PutsFile issued attempts)
    : ¬task.Blocked (begins (attempts :: groups) finish 0) issued := by
  obtain ⟨first, found, unexpired⟩ := puts.unexpired
  obtain ⟨rest, rfl⟩ := List.head?_eq_some_iff.mp found
  rintro (expired | ⟨path, reason, only, unreadable⟩)
  · exact Bool.noConfusion (unexpired.symm.trans expired)
  · obtain ⟨own, _, body, file, readable, _⟩ := puts.own
    obtain rfl : own = path := by simpa using file.only.symm.trans only
    exact nomatch readable.symm.trans unreadable

/-- `Putting … finish issued groups ending`: grant after grant is put its own file, with one group
of attempts each, until one of them is blocked at `finish` or its last attempt fails.
-/
inductive Putting (task : FileUpload) (finish : Nat)
    : List IssuedGrant → List (List Exchange) → Except Failure Unit → Prop
  | done : Putting task finish [] [] (.ok ())
  | blocked {issued rest} (failure : Failure) (blocked : task.Blocked finish issued)
    : Putting task finish (issued :: rest) [] (.error failure)
  | refused {issued rest attempts} (failure : Failure) (puts : task.PutsFile issued attempts)
    (fails : ¬Accepted attempts)
    : Putting task finish (issued :: rest) [attempts] (.error failure)
  | put {issued rest attempts groups ending} (puts : task.PutsFile issued attempts)
    (accepted : Accepted attempts) (following : Putting task finish rest groups ending)
    : Putting task finish (issued :: rest) (attempts :: groups) ending

/-- How grants that have been issued are put their files in a run that ends at `finish`: a prefix
of them in order, with one group of attempts each. Nothing is put behind a grant that is blocked
or refused, and only there the run stops early; it fails then, and reports on the whole batch
otherwise. Each grant is judged at the time at which its own upload begins.
-/
structure PutsInOrder (task : FileUpload) (finish : Nat) (issued : List IssuedGrant)
    (groups : List (List Exchange)) (report : Value) (outcome : Outcome)
    : Prop where
  sent : List.Forall₂ task.PutsFile (issued.take groups.length) groups
  whole
    : (∀ place entry,
        issued[place]? = some entry → ¬task.Blocked (begins groups finish place) entry)
      → (∀ attempts ∈ groups, Accepted attempts)
      → groups.length = issued.length ∧ outcome = .report report
  blocked
    : ∀ place entry,
        issued[place]? = some entry
        → task.Blocked (begins groups finish place) entry
        → groups.length ≤ place ∧ outcome.Fails
  refused
    : ∀ place attempts,
        groups[place]? = some attempts
        → ¬Accepted attempts
        → groups.length = place + 1 ∧ outcome.Fails
  stops
    : groups.length < issued.length
      → (∀ attempts ∈ groups, Accepted attempts)
      → ∃ entry, issued[groups.length]? = some entry ∧ task.Blocked finish entry

namespace PutsInOrder

variable {task : FileUpload} {finish : Nat} {issued : IssuedGrant} {rest : List IssuedGrant}
  {attempts : List Exchange} {groups : List (List Exchange)} {report : Value}
  {outcome : Outcome}

theorem nil : task.PutsInOrder finish [] [] report (.report report) where
  sent := .nil
  whole _ _ := ⟨rfl, rfl⟩
  blocked _ _ given := nomatch given
  refused _ _ given := nomatch given
  stops short := nomatch short

theorem of_blocked (blocked : task.Blocked finish issued) (fails : outcome.Fails)
    : task.PutsInOrder finish (issued :: rest) [] report outcome where
  sent := .nil
  whole free _ := absurd blocked (free 0 issued rfl)
  blocked place _ _ _ := ⟨Nat.zero_le place, fails⟩
  refused _ _ given := nomatch given
  stops _ _ := ⟨issued, rfl, blocked⟩

theorem of_refused (puts : task.PutsFile issued attempts) (refused : ¬Accepted attempts)
    (fails : outcome.Fails)
    : task.PutsInOrder finish (issued :: rest) [attempts] report outcome where
  sent := .cons puts .nil
  whole _ accepted := absurd (accepted attempts List.mem_cons_self) refused
  blocked
    | 0, _, rfl, blocked => absurd blocked puts.not_blocked
    | _ + 1, _, _, _ => ⟨Nat.succ_le_succ (Nat.zero_le _), fails⟩
  refused
    | 0, _, _, _ => ⟨rfl, fails⟩
    | _ + 1, _, given, _ => nomatch given
  stops _ accepted := absurd (accepted attempts List.mem_cons_self) refused

theorem cons (puts : task.PutsFile issued attempts) (accepted : Accepted attempts)
    (following : task.PutsInOrder finish rest groups report outcome)
    : task.PutsInOrder finish (issued :: rest) (attempts :: groups) report outcome where
  sent := .cons puts following.sent
  whole free all := by
    obtain ⟨length, ended⟩ := following.whole (fun place => free (place + 1))
      fun group member => all group (.tail _ member)
    exact ⟨congrArg Nat.succ length, ended⟩
  blocked
    | 0, _, rfl, blocked => absurd blocked puts.not_blocked
    | place + 1, entry, given, blocked =>
        (following.blocked place entry given blocked).imp_left Nat.succ_le_succ
  refused
    | 0, _, rfl, refused => absurd accepted refused
    | place + 1, group, given, refused =>
        (following.refused place group given refused).imp_left (congrArg Nat.succ)
  stops short all :=
    following.stops (Nat.lt_of_succ_lt_succ short) fun group member => all group (.tail _ member)

end PutsInOrder

/-- Putting grant after grant puts them in order, by induction on the grants. -/
theorem Putting.inOrder {task : FileUpload} {finish : Nat} {issued : List IssuedGrant}
    {groups : List (List Exchange)} {ending : Except Failure Unit}
    (putting : task.Putting finish issued groups ending) (report : Value)
    : task.PutsInOrder finish issued groups report
        (.ofResult (ending.map fun _ => report)) := by
  induction putting with
  | done => exact .nil
  | blocked failure blocked => exact .of_blocked blocked (Outcome.fails_failed failure)
  | refused failure puts refused => exact .of_refused puts refused (Outcome.fails_failed failure)
  | put puts accepted _ ih => exact .cons puts accepted ih

end FileUpload

section

variable {broker : Broker σ} {world : World} {correlation : CorrelationId}
  {category : Category} {uploads : List Upload} {now : Nat} {state : σ}

end

section

variable {authority : Configuration → Authority σ} {library : TokenLibrary} {world : World}
  {correlation : CorrelationId} {category : Category} {start : Nat} {state : σ}

variable {broker : Broker σ} {uploads : List Upload} {batch : UploadBatch}

end

/-- The requests for two files. -/
def rehearsedRequests : List UploadRequest :=
  [⟨"b.jpeg", "b.jpeg", ContentType.jpeg, false, none⟩,
    ⟨"a.png", "a.png", ContentType.png, false, none⟩]

/-- A grant for the second one, whose token binds the object `o`. -/
def rehearsedGrant : SignedGrant :=
  ⟨"a.png", "https://put/a", "eyJhbGciOiJSUzI1NiJ9.eyJ0b2tlbiI6Im8ifQ.", 900⟩

/-- An authority with that grant only. -/
def rehearsedScript : Script where
  puts := [{ answer := .ok () }]
  uploads := [(ContentType.png, [{ answer := .ok [rehearsedGrant] }])]

/-- What is issued to the two requests. -/
def rehearsedBatch : UploadBatch where
  issued := [⟨"a.png", rehearsedGrant, ⟨"o"⟩⟩]
  failures :=
    [⟨ContentType.jpeg, ["b.jpeg"], .unavailable ⟨.bulkUpload, .nil⟩ (.stated "unscripted")⟩]

end CommandLine

end ObjectGrants
