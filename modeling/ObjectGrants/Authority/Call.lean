import ObjectGrants.Authority.Message

/-!
Calls to the authority, and the authority as something that answers them.

An authority is known by its behaviour only: it takes a call in some state, lets some time
pass, and answers. The state may change when the call is taken and again when it is
answered, so an answer that nobody waits for any more leaves no trace.
-/

namespace ObjectGrants

/-- A call to the authority. -/
inductive Call where
  | bulkUpload (descriptors : List UploadDescriptor)
  | download (request : DownloadRequest)
  | uploadCheck (tokens : List String)
  | keySet
  | objectPut (url contentType : String) (body : List UInt8)
  deriving DecidableEq, Repr

/-- The endpoint that answers a call. -/
def Call.endpoint : Call → Endpoint
  | bulkUpload _ => .bulkUpload
  | download _ => .download
  | uploadCheck _ => .uploadCheck
  | keySet => .keySet
  | objectPut _ _ _ => .objectPut

/-- What an endpoint answers with. -/
abbrev Endpoint.Reply : Endpoint → Type
  | .bulkUpload => List SignedGrant
  | .download => List DownloadGrant
  | .uploadCheck => List TokenStatus
  | .keySet => Jwks
  | .objectPut => Unit

/-- An answer under way: how long it takes, and what it is once that time has passed. -/
structure Pending (σ α : Type) where
  delay : Nat
  state : σ
  finish : σ → α × σ

/-- An answer that is there at once. -/
def Pending.immediate {σ α : Type} (answer : α) (state : σ) : Pending σ α where
  delay := 0
  state := state
  finish state := (answer, state)

/-- Something that answers calls made under a correlation identifier. -/
structure Authority (σ : Type) where
  accept : CorrelationId → (call : Call) → σ → Pending σ (Except Fault call.endpoint.Reply)

/-- A call that was made, and when. -/
structure CallRecord where
  time : Nat
  correlation : CorrelationId
  call : Call
  deriving DecidableEq, Repr

end ObjectGrants
