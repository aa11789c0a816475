import ObjectGrants.Token

/-!
Matching the grants of the authority with the requests they answer. The authority is not
relied on: its answer may be in any order, and an answer with a grant that nobody asked for,
with two grants for one request, or with none for some request is refused as a whole.
-/

namespace ObjectGrants

/-- An upload grant with the request it answers and the object it is bound to. -/
structure IssuedGrant where
  identifier : String
  grant : SignedGrant
  object : ObjectId
  deriving DecidableEq, Repr

namespace Issuance

/-- The fault of an answer that cannot be matched. -/
def mismatch (correlation : CorrelationId) (cause : AnswerFault) : Fault :=
  .malformed ⟨.bulkUpload, correlation⟩ cause

/-- Checks grants in order; `seen` holds the identifiers of those before them. -/
def screen (correlation : CorrelationId) (expected : List String) (seen : List String)
    : List SignedGrant → Except Fault Unit
  | [] => .ok ()
  | grant :: rest =>
      if !expected.contains grant.identifier then
        .error (mismatch correlation (.unknownIdentifier grant.identifier))
      else if seen.contains grant.identifier then
        .error (mismatch correlation (.repeatedIdentifier grant.identifier))
      else screen correlation expected (grant.identifier :: seen) rest

/-- Takes the grant for each expected identifier, in their order; `left` holds the grants that
are not taken yet. -/
def collect (correlation : CorrelationId) (left : List SignedGrant)
    : List String → Except Fault (List SignedGrant)
  | [] => .ok []
  | identifier :: rest =>
      match left.find? (·.identifier == identifier) with
      | none => .error (mismatch correlation (.missingIdentifier identifier))
      | some grant => do
          let others ← collect correlation (left.filter (·.identifier != identifier)) rest
          .ok (grant :: others)

/-- The grants in the order of the expected identifiers. -/
def reassociate (correlation : CorrelationId) (expected : List String)
    (grants : List SignedGrant)
    : Except Fault (List SignedGrant) := do
  screen correlation expected [] grants
  collect correlation grants expected

/-- Verifies the token of a grant and takes the object from it. -/
def issue (trust : Trust) (library : TokenLibrary) (now : Nat) (grant : SignedGrant)
    : Except Fault IssuedGrant := do
  let object ← trust.verify library now grant.boundToken
  pure { identifier := grant.identifier, grant, object }

end Issuance

end ObjectGrants
