import ObjectGrants.Key.Set
import ObjectGrants.Timed

/-!
The keys in use and where they come from. A store is made from a key set that was loaded
completely, and loading again replaces the whole set; a load that fails gives a fault and no
store, so whoever holds the old store goes on with it.
-/

namespace ObjectGrants

/-- The files that can be read, by their paths. A file that cannot is told with the reason. -/
abbrev Files := String → Except String (List UInt8)

/-- Where keys are loaded from. -/
inductive KeySource where
  | authority
  | file (path : String)
  /-- From nowhere: the set that was given stays. -/
  | fixed
  deriving DecidableEq, Repr

/-- A key set and where it was loaded from. -/
structure KeyStore where
  source : KeySource
  set : KeySet
  deriving DecidableEq, Repr

namespace KeyStore

variable {σ : Type}

/-- Loads the set that the authority publishes. -/
def loadPublished (authority : Authority σ) (correlation : CorrelationId)
    : Operation σ KeySet := do
  let document ← Operation.ofTimed (Timed.call authority correlation .keySet)
  match KeySet.ofJwks document with
  | .ok set => pure set
  | .error cause => throw (.malformed ⟨.keySet, correlation⟩ (.keys cause))

/-- Loads the set that a file holds. -/
def loadFile (files : Files) (path : String) : Except Fault KeySet :=
  match files path with
  | .error reason => .error (.setup (.keyFileUnreadable path reason))
  | .ok bytes =>
      match Json.ofBytes? bytes with
      | none => .error (.setup (.keyFileMalformed path))
      | some document => (KeySet.ofJwks document).mapError .setup

/-- Loads a set from a source; nothing is loaded from a fixed one. -/
def load (authority : Authority σ) (files : Files) (correlation : CorrelationId)
    : KeySource → Operation σ (Option KeySet)
  | .authority => do pure (some (← loadPublished authority correlation))
  | .file path => Operation.ofResult ((loadFile files path).map some)
  | .fixed => pure none

/-- The store of the keys that the authority publishes. -/
def fetch (authority : Authority σ) (correlation : CorrelationId) : Operation σ KeyStore := do
  pure ⟨.authority, ← loadPublished authority correlation⟩

/-- The store of the keys that a file holds. -/
def ofFile (files : Files) (path : String) : Except Fault KeyStore :=
  (loadFile files path).map (⟨.file path, ·⟩)

/-- The store of a document given once and for all. -/
def ofJwks (document : Jwks) : Except Fault KeyStore :=
  ((KeySet.ofJwks document).map (⟨.fixed, ·⟩)).mapError .setup

/-- Loads the keys again. The new set takes the place of the old one as a whole. -/
def refresh (store : KeyStore) (authority : Authority σ) (files : Files)
    (correlation : CorrelationId)
    : Operation σ KeyStore := do
  match ← load authority files correlation store.source with
  | some set => pure { store with set }
  | none => pure store

end KeyStore

end ObjectGrants
