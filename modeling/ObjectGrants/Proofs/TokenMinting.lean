import ObjectGrants.Key.Rehearsal
import ObjectGrants.Proofs.Base64Text
import ObjectGrants.Proofs.JsonValue
import ObjectGrants.Proofs.TokenModes

/-! Minted tokens are read as what they were minted from. Their parts are found at their dots,
their header names the key and their payload holds the claims, whatever characters these
consist of; so the verdict on a minted token is known from its claims, its key identifier
and the pair of keys that has signed it.
-/

namespace ObjectGrants

open Json

namespace Token

-----------------------------------------------------------------------------------------
-- Parts
-----------------------------------------------------------------------------------------

/-- The text that the signature of a minted token covers. -/
def mintedMessage (keyId : Option String) (claims : Value) : String :=
  partOf (mintedHeader keyId) ++ "." ++ partOf claims

/-- The signature of a minted token. -/
def mintedSignature (key : Signature.Rsa.PrivateKey) (keyId : Option String) (claims : Value)
    : List UInt8 :=
  Signature.Rsa.sign .sha256 key (Text.Utf8.encode (mintedMessage keyId claims))

/-- The parts of a minted token. -/
def mintedParts (key : Signature.Rsa.PrivateKey) (keyId : Option String) (claims : Value)
    : Parts where
  header := (partOf (mintedHeader keyId)).toList
  payload := (partOf claims).toList
  signature := Encoding.Base64Url.letters (mintedSignature key keyId claims)

@[simp]
theorem mintedParts_header (key : Signature.Rsa.PrivateKey) (keyId : Option String)
    (claims : Value)
    : (mintedParts key keyId claims).header = (partOf (mintedHeader keyId)).toList := by
  rw [mintedParts]

@[simp]
theorem mintedParts_payload (key : Signature.Rsa.PrivateKey) (keyId : Option String)
    (claims : Value)
    : (mintedParts key keyId claims).payload = (partOf claims).toList := by
  rw [mintedParts]

@[simp]
theorem mintedParts_signature (key : Signature.Rsa.PrivateKey) (keyId : Option String)
    (claims : Value)
    : (mintedParts key keyId claims).signature
      = Encoding.Base64Url.letters (mintedSignature key keyId claims) := by
  rw [mintedParts]

theorem toList_partOf (value : Value)
    : (partOf value).toList = Encoding.Base64Url.letters (Text.Utf8.encode value.text) := by
  rw [partOf, Encoding.Base64Url.encode, String.toList_ofList]

/-- The dots of a minted token stand between its parts. -/
theorem mint_divided (key : Signature.Rsa.PrivateKey) (keyId : Option String) (claims : Value)
    : Divided (mint key keyId claims) (mintedParts key keyId claims) where
  joined := by
    simp [mint, mintedParts, mintedSignature, mintedMessage, Encoding.Base64Url.encode]
  payload := by
    change '.' ∉ (partOf claims).toList
    rw [toList_partOf]
    exact Encoding.Base64Url.dot_not_mem_letters _
  signature := Encoding.Base64Url.dot_not_mem_letters _

theorem mintedParts_message (key : Signature.Rsa.PrivateKey) (keyId : Option String)
    (claims : Value)
    : (mintedParts key keyId claims).message = mintedMessage keyId claims := by
  apply String.toList_inj.mp
  simp [mintedParts, Parts.message, mintedMessage]

/-- The part for a value whose text is read back holds that value. -/
theorem holds_partOf {value : Value} (integral : Integral value)
    : Holds (partOf value).toList value.embed := by
  refine ⟨Text.Utf8.encode value.text, ?_, ?_⟩
  · rw [toList_partOf, Encoding.Base64Url.decode?_letters]
  · rw [Document.ofBytes?_encode, integral.ofText?_text]

-----------------------------------------------------------------------------------------
-- The header
-----------------------------------------------------------------------------------------

theorem mintedHeader_integral (keyId : Option String) : Integral (mintedHeader keyId) :=
  .object (by
    simp only [List.forall_mem_append, Record.forall_mem_ifSome, Faithful.integral]
    simp)

/-- The header of a minted token is read with its algorithm and its key identifier. -/
theorem ofDocument?_mintedHeader (library : TokenLibrary) (keyId : Option String)
    : Header.ofDocument? library (mintedHeader keyId).embed = some ⟨.rs256, keyId⟩ := by
  have named
      : decodeName? Algorithm.ofName? (Tree.embed (encode Algorithm.rs256.name))
        = some .rs256 := by
    decide
  have typed : decode? (Tree.embed (encode "JWT")) = some (some "JWT") := rfl
  unfold Header.ofDocument? mintedHeader
  simp [Header.algorithm?, Header.carriedKey?, Tree.embed, Record.members?, named, typed]

theorem ofPart_mintedHeader (library : TokenLibrary) (keyId : Option String)
    : Header.ofPart library (partOf (mintedHeader keyId)).toList = .ok ⟨.rs256, keyId⟩ := by
  have held := holds_partOf (mintedHeader_integral keyId)
  rw [Header.ofPart_eq_readPart, readPart_eq_ok_iff]
  exact ⟨(mintedHeader keyId).embed, held, ofDocument?_mintedHeader library keyId⟩

-----------------------------------------------------------------------------------------
-- Claims
-----------------------------------------------------------------------------------------

namespace Claims

/-- What a set of claims has to be for its token to be read: an object in order, not nested too
deep and without doubles, whose registered claims are in the form that is asked of them, times
as seconds from 1970 on and names as texts.
-/
structure Regular (members : List (String × Value)) : Prop where
  integral : Integral (.object members)
  canonical : Canonical Document.depthLimit (.object members)
  times
    : ∀ name ∈ ["exp", "nbf"],
        ∀ value,
          members.lookup name = some value → ∃ second : Nat, value = .ofInt second
  names
    : ∀ name ∈ ["sub", "iss", "aud"],
        ∀ value, members.lookup name = some value → ∃ text, value = .string text

/-- The claims hold at a second that is not behind the end of their time and not before its
start.
-/
structure Current (members : List (String × Value)) (now : Nat) : Prop where
  unexpired : ∀ second : Nat, members.lookup "exp" = some (.ofInt second) → now ≤ second
  begun : ∀ second : Nat, members.lookup "nbf" = some (.ofInt second) → second ≤ now

/-- A registered claim in its form is given once at most. -/
theorem givenOnce_of_ascending {members : List (String × Value)}
    (ascending : Ascending members) {name : String} {readable : Document → Bool}
    (formed
      : ∀ value, members.lookup name = some value → readable (Tree.embed value) = true)
    : GivenOnce (Tree.embedMembers members) name readable := by
  unfold GivenOnce
  rw [Record.given_of_ascending ascending]
  cases found : members.lookup name with
  | none => exact .inl rfl
  | some value => exact .inr ⟨_, rfl, formed value found⟩

theorem Regular.readable {members : List (String × Value)} (regular : Regular members)
    : registeredReadable (Tree.embedMembers members) = true := by
  have ascending := regular.canonical.ascending
  have time (name : String) (registered : name ∈ ["exp", "nbf"])
      : GivenOnce (Tree.embedMembers members) name timeReadable := by
    refine givenOnce_of_ascending ascending fun value found => ?_
    obtain ⟨second, rfl⟩ := regular.times name registered value found
    rfl
  rw [registeredReadable_iff]
  refine ⟨time "exp" (by simp), time "nbf" (by simp), ?_, ?_, ?_⟩
  · refine givenOnce_of_ascending ascending fun value found => ?_
    obtain ⟨text, rfl⟩ := regular.names "sub" (by simp) value found
    rfl
  · exact givenOnce_of_ascending ascending fun _ _ => rfl
  · exact givenOnce_of_ascending ascending fun _ _ => rfl

/-- The time that regular claims give is that of their claim. -/
theorem Regular.gives_iff {members : List (String × Value)} (regular : Regular members)
    {name : String} (registered : name ∈ ["exp", "nbf"]) (second : Nat)
    : Gives (Tree.embedMembers members) name second
      ↔ members.lookup name = some (.ofInt second) := by
  unfold Gives
  rw [Record.given_of_ascending regular.canonical.ascending]
  cases found : members.lookup name with
  | none => simp
  | some value =>
      obtain ⟨given, rfl⟩ := regular.times name registered value found
      simp only [second?, Tree.embed, Value.ofInt, Option.map_some, Option.toList_some,
        List.mem_singleton, exists_eq_left, Int.natCast_nonneg, if_true, Int.toNat_natCast,
        Option.some.injEq, Tree.number.injEq, Number.integer.injEq, Int.natCast_inj]

/-- The payload of a minted token is read as the claims it was made from, and these are within
their time exactly if the claims are.
-/
theorem Regular.exists_claims {members : List (String × Value)} (regular : Regular members)
    : ∃ claims,
        ofPart (partOf (.object members)).toList = .ok claims
        ∧ claims.members = members
        ∧ ∀ now, claims.inTime now = .ok () ↔ Current members now := by
  obtain ⟨expiry, notBefore, _⟩ := registeredReadable_iff.mp regular.readable
  have states
      : States (Tree.embed (.object members)) (Tree.embedMembers members) members :=
    ⟨rfl, regular.canonical.valueWithin_embed, regular.readable⟩
  let second (name : String) :=
    (Record.given [name] (Tree.embedMembers members)).head?.bind second?
  let claims : Claims := ⟨members, second "exp", second "nbf"⟩
  have ends (n : Nat) : claims.expiry = some n ↔ members.lookup "exp" = some (.ofInt n) :=
    (expiry.gives_iff n).trans (regular.gives_iff (by simp) n)
  have begins (n : Nat)
      : claims.notBefore = some n ↔ members.lookup "nbf" = some (.ofInt n) :=
    (notBefore.gives_iff n).trans (regular.gives_iff (by simp) n)
  have held := holds_partOf regular.integral
  refine ⟨claims, ?_, rfl, fun now => ?_⟩
  · rw [ofPart_eq_readPart, readPart_eq_ok_iff]
    exact ⟨_, held, ofDocument?_eq_some_iff.mpr
      ⟨_, states, expiry.gives_iff, notBefore.gives_iff⟩⟩
  · simp only [inTime_eq_ok_iff, ends, begins]
    exact ⟨fun holds => ⟨holds.1, holds.2⟩, fun current => ⟨current.unexpired, current.begun⟩⟩

/-- The claims of a token that binds an object up to a second are regular. -/
theorem regular_bound {second : Nat} (range : InRange second) (object : String)
    : Regular [("exp", Value.ofInt second), ("token", encode object)] where
  integral := by
    refine .object fun member among => ?_
    simp only [List.mem_cons, List.not_mem_nil, or_false] at among
    obtain rfl | rfl := among
    · exact .number range
    · exact .string object
  canonical := by
    have before : "exp" < "token" := by decide
    refine .object (List.pairwise_pair.mpr before) fun member among => ?_
    simp only [List.mem_cons, List.not_mem_nil, or_false] at among
    obtain rfl | rfl := among
    · exact .number _
    · exact .string object
  times name registered value found := by
    simp only [List.mem_cons, List.not_mem_nil, or_false] at registered
    obtain rfl | rfl := registered
    · exact ⟨second, by simpa using found.symm⟩
    · cases found
  names name registered value found := by
    simp only [List.mem_cons, List.not_mem_nil, or_false] at registered
    obtain rfl | rfl | rfl := registered <;> cases found

/-- A token that binds an object up to a second is within its time up to that second. -/
theorem current_bound_iff {second now : Nat} {object : String}
    : Current [("exp", Value.ofInt second), ("token", encode object)] now ↔ now ≤ second := by
  constructor
  · intro current
    exact current.unexpired second (by simp)
  · intro le
    refine ⟨fun given found => ?_, nofun⟩
    have same : second = given := by simpa [Value.ofInt, Int.natCast_inj] using found
    exact same ▸ le

end Claims

-----------------------------------------------------------------------------------------
-- Verification
-----------------------------------------------------------------------------------------

variable {members : List (String × Value)} {library : TokenLibrary} {now : Nat}

/-- Pass-through mode gives the binding of the claims that a token was minted from. -/
theorem passThrough_verify_mint (regular : Claims.Regular members)
    (key : Signature.Rsa.PrivateKey) (keyId : Option String)
    : Trust.passThrough.verify library now (mint key keyId (.object members))
      = Claims.binding members := by
  obtain ⟨claims, payload, rfl, _⟩ := regular.exists_claims
  have divided := mint_divided key keyId (.object claims.members)
  exact divided.passThrough_verify (by rw [mintedParts_header, ofPart_mintedHeader]) payload
    now

/-- A key set vouches for a minted token exactly if it selects a key for it that is of the
algorithm of minted tokens and whose check accepts the signature, as long as the claims are
within their time.
-/
theorem vouched_mint_iff (regular : Claims.Regular members) {set : KeySet}
    {key : Signature.Rsa.PrivateKey} {keyId : Option String}
    : Vouched set library now (mint key keyId (.object members))
      ↔ ∃ selected,
          set.select? keyId = some selected
          ∧ selected.algorithm = .rs256
          ∧ library.check selected.material .rs256
              (Text.Utf8.encode (mintedMessage keyId (.object members)))
              (mintedSignature key keyId (.object members))
            = true
          ∧ Claims.Current members now := by
  obtain ⟨claims, payload, rfl, current⟩ := regular.exists_claims
  have divided := mint_divided key keyId (.object claims.members)
  rw [divided.vouched_iff (by rw [mintedParts_header, ofPart_mintedHeader]) payload]
  simp only [mintedParts_message, mintedParts_signature, Encoding.Base64Url.decode?_letters,
    Option.some.injEq, exists_and_left, exists_eq_left', current]
  constructor
  · intro holds
    obtain ⟨selected, found, pinned, signed, inTime⟩ := holds
    exact ⟨selected, found, pinned.symm, pinned ▸ signed, inTime⟩
  · intro holds
    obtain ⟨selected, found, pinned, signed, inTime⟩ := holds
    exact ⟨selected, found, pinned.symm, pinned ▸ signed, inTime⟩

/-- A token is reported as invalid. -/
def Refused (trust : Trust) (library : TokenLibrary) (now : Nat) (token : String) : Prop :=
  ∃ cause, trust.verify library now token = .error (.invalidToken cause)

end Token

-----------------------------------------------------------------------------------------
-- The two pairs of keys
-----------------------------------------------------------------------------------------

namespace RehearsalKey

/-- What the public half of a pair gives to check signatures with. -/
def material (key : RehearsalKey) : KeyMaterial :=
  .rsa
    { modulus := (Encoding.Base64Url.decode? key.modulus.toList).getD []
      exponent := (Encoding.Base64Url.decode? publicExponent.toList).getD [] }

/-- The key set of the document that publishes a pair. -/
def keySet (key : RehearsalKey) : KeySet :=
  ⟨[⟨some key.keyId, .rs256, key.material⟩]⟩

/-- What the public half of a pair gives can be used if its modulus can be read. -/
theorem ofJwk_published {key : RehearsalKey} {modulus : List UInt8}
    (read : Encoding.Base64Url.decode? key.modulus.toList = some modulus)
    : VerificationKey.ofJwk key.published = .ok ⟨some key.keyId, .rs256, key.material⟩ := by
  have component {text : String} {bytes : List UInt8}
      (decoded : Encoding.Base64Url.decode? text.toList = some bytes)
      : VerificationKey.component .rsaUnreadable text = .ok bytes := by
    rw [VerificationKey.component, decoded]
  have exponent : Encoding.Base64Url.decode? publicExponent.toList = some [1, 0, 1] := by
    decide +kernel
  have opened
      : VerificationKey.ofJwk key.published
        = VerificationKey.component .rsaUnreadable key.modulus >>= fun modulus =>
            VerificationKey.component .rsaUnreadable publicExponent >>= fun exponent =>
              .ok ⟨some key.keyId, .rs256, .rsa ⟨modulus, exponent⟩⟩ :=
    rfl
  rw [opened, component read, component exponent, material, read, exponent]
  rfl

/-- The document of the published pair gives a key set. -/
theorem ofJwks_signing : KeySet.ofJwks signing.document = .ok signing.keySet := by
  -- The pieces of the modulus are put together before they are computed with.
  have readable : (Encoding.Base64Url.decode? signing.modulus.toList).isSome = true := by
    simp only [signing, String.toList_append]
    repeat rw [String.toList_ofList]
    decide +kernel
  obtain ⟨modulus, read⟩ := Option.isSome_iff_exists.mp readable
  simp [KeySet.ofJwks, document, ofJwk_published read, keySet, Except.toOption]

/-- A set of one key selects it for its key identifier and for none. -/
theorem select?_keySet (key : RehearsalKey) (keyId : Option String)
    : key.keySet.select? keyId
      = if keyId ∈ [none, some key.keyId] then some ⟨some key.keyId, .rs256, key.material⟩
        else none := by
  cases keyId with
  | none => rfl
  | some text =>
      by_cases same : key.keyId = text
      · subst same
        simp [KeySet.select?, keySet]
      · have other : ¬text = key.keyId := fun equal => same equal.symm
        simp [KeySet.select?, keySet, same, other]

end RehearsalKey

open RehearsalKey (signing foreign)

/-- Of the signatures that the two pairs make of a message, a check accepts under the published
key the one of its own private key and not the other.
-/
structure SignatureCheck.TellsApart (check : SignatureCheck) (message : List UInt8)
    : Prop where
  own
    : check signing.material .rs256 message
        (Signature.Rsa.sign .sha256 signing.privateKey message)
      = true
  other
    : check signing.material .rs256 message
        (Signature.Rsa.sign .sha256 foreign.privateKey message)
      = false

namespace Token

/-- The published key vouches for a minted token exactly if the token names it or no key, the check
accepts the signature under it and the claims are within their time.
-/
theorem vouched_signing_iff {members : List (String × Value)} (regular : Claims.Regular members)
    (library : TokenLibrary) (now : Nat) (key : RehearsalKey) (keyId : Option String)
    : Vouched signing.keySet library now (key.mint keyId (.object members))
      ↔ keyId ∈ [none, some signing.keyId]
        ∧ library.check signing.material .rs256
            (Text.Utf8.encode (mintedMessage keyId (.object members)))
            (mintedSignature key.privateKey keyId (.object members))
          = true
        ∧ Claims.Current members now := by
  rw [RehearsalKey.mint, vouched_mint_iff regular, RehearsalKey.select?_keySet]
  split <;> simp [*]

/-- The verdicts on minted tokens. Read without checks, a token of either pair gives the
binding of its claims. Under the published key, a token of the published pair with no or its
own key identifier gives the same as long as its claims are within their time; out of its
time, with any other key identifier or signed by the stranger it is invalid. Witness: a token
is vouched for exactly if its key identifier selects the published key and the check accepts
the signature under it.
-/
theorem mint_verifies {members : List (String × Value)} (regular : Claims.Regular members)
    (keyId : Option String) (library : TokenLibrary) (now : Nat)
    : (∀ key ∈ [signing, foreign],
        Trust.passThrough.verify library now (key.mint keyId (.object members))
        = Claims.binding members)
      ∧ KeySet.ofJwks signing.document = .ok signing.keySet
      ∧ (library.check.TellsApart (Text.Utf8.encode (mintedMessage keyId (.object members)))
          → (keyId ∈ [none, some signing.keyId]
              → (Claims.Current members now
                  → (Trust.keys signing.keySet).verify library now
                      (signing.mint keyId (.object members))
                    = Claims.binding members)
                ∧ (¬Claims.Current members now
                  → Refused (.keys signing.keySet) library now
                      (signing.mint keyId (.object members))))
            ∧ (keyId ∉ [none, some signing.keyId]
              → Refused (.keys signing.keySet) library now
                  (signing.mint keyId (.object members)))
            ∧ Refused (.keys signing.keySet) library now
                (foreign.mint keyId (.object members))) := by
  have vouched (key : RehearsalKey) := vouched_signing_iff regular library now key keyId
  refine ⟨fun key _ => passThrough_verify_mint regular key.privateKey keyId,
    RehearsalKey.ofJwks_signing, fun apart => ⟨fun chosen => ⟨fun current => ?_, fun late => ?_⟩,
      fun unknown => ?_, ?_⟩⟩
  · rw [Trust.verify_of_vouched ((vouched signing).mpr ⟨chosen, apart.own, current⟩)]
    exact passThrough_verify_mint regular signing.privateKey keyId
  · exact Trust.invalid_of_not_vouched fun given => late ((vouched signing).mp given).2.2
  · exact Trust.invalid_of_not_vouched fun given => unknown ((vouched signing).mp given).1
  · refine Trust.invalid_of_not_vouched fun given => ?_
    have accepted := ((vouched foreign).mp given).2.1
    rw [mintedSignature, apart.other] at accepted
    exact Bool.false_ne_true accepted

set_option maxRecDepth 100000 in
/-- The published pair binds an object up to a second of the year 2099, and the standards vouch
for the token before that.
-/
theorem mint_verifies_bound
    : (Trust.keys signing.keySet).verify .standard 2000000000
        (signing.mint none
          (.object [("exp", Value.ofInt 4100000000), ("token", encode "obj-7")]))
      = .ok ⟨"obj-7"⟩ := by
  let members := [("exp", Value.ofInt 4100000000), ("token", encode "obj-7")]
  have range : InRange (4100000000 : Nat) := by simp [InRange]
  have regular : Claims.Regular members := Claims.regular_bound range "obj-7"
  -- The texts are put together before the signatures are computed.
  have apart
      : SignatureCheck.TellsApart .standard
          (Text.Utf8.encode (mintedMessage none (.object members))) := by
    constructor <;>
    · simp only [members, RehearsalKey.material, RehearsalKey.privateKey, RehearsalKey.numberOf,
        RehearsalKey.publicExponent, signing, foreign, mintedMessage,
        Text.Utf8.encode_eq_flatMap, String.toList_append, toList_partOf, Value.text,
        Value.ofInt, String.toList_ofList]
      repeat rw [String.toList_ofList]
      decide +kernel
  have current : Claims.Current members 2000000000 :=
    Claims.current_bound_iff.mpr (by decide)
  obtain ⟨_, _, verdicts⟩ := mint_verifies regular none .standard 2000000000
  rw [((verdicts apart).1 (by simp)).1 current]
  rfl

end Token

end ObjectGrants
