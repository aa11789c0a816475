import ObjectGrants.Proofs.TokenAcceptance

/-! Tokens under a key set and in pass-through mode. Both read a token in the same way; a key
set asks in addition who has signed it and whether it is within its time. So the two agree
on every token that a key set vouches for, and a key set refuses all others.
-/

namespace ObjectGrants

namespace Token

/-- A key set vouches for a token at a second: the token is whole, signed by the key that its
header selects with the algorithm of that key, and within its time.
-/
def Vouched (set : KeySet) (library : TokenLibrary) (now : Nat) (token : String) : Prop :=
  ∃ claims, readChecked library set now token = .ok claims

/-- Reading without checks asks for the parts of a token, its header and its claims. -/
theorem readUnchecked_eq_ok_iff {library : TokenLibrary} {token : String} {claims : Claims}
    : readUnchecked library token = .ok claims
      ↔ ∃ parts header,
          (Divided token parts ∧ Header.ofPart library parts.header = .ok header)
          ∧ Claims.ofPart parts.payload = .ok claims := by
  unfold readUnchecked
  rw [Traversal.bind_eq_ok_iff]
  constructor
  · intro holds
    obtain ⟨⟨parts, header⟩, opened, payload⟩ := holds
    exact ⟨parts, header, open?_eq_ok_iff.mp (reading_eq_ok_iff.mp opened),
      reading_eq_ok_iff.mp payload⟩
  · intro holds
    obtain ⟨parts, header, opened, payload⟩ := holds
    exact ⟨(parts, header), reading_eq_ok_iff.mpr (open?_eq_ok_iff.mpr opened),
      reading_eq_ok_iff.mpr payload⟩

/-- What is read with checks is read without them. Witness: the checked reading finds the same
parts on its way.
-/
theorem readUnchecked_of_readChecked {library : TokenLibrary} {set : KeySet} {now : Nat}
    {token : String} {claims : Claims} (read : readChecked library set now token = .ok claims)
    : readUnchecked library token = .ok claims := by
  obtain ⟨parts, header, _, _, opened, _, _, _, _, payload, _⟩ := readChecked_eq_ok_iff.mp read
  exact readUnchecked_eq_ok_iff.mpr ⟨parts, header, opened, payload⟩

/-- A token that is divided into parts is not blank, for it has dots. -/
theorem Divided.filled {token : String} {parts : Parts} (divided : Divided token parts)
    : ∃ c ∈ token.toList, Text.isBlank c = false :=
  ⟨'.', by rw [divided.joined]; simp, by decide⟩

/-- A token has one division, one header and one set of claims; a key set vouches for it by
these.
-/
theorem Divided.vouched_iff {library : TokenLibrary} {token : String} {parts : Parts}
    (divided : Divided token parts) {header : Header}
    (headed : Header.ofPart library parts.header = .ok header) {claims : Claims}
    (claimed : Claims.ofPart parts.payload = .ok claims) {set : KeySet}
    {now : Nat}
    : Vouched set library now token
      ↔ ∃ key signature,
          set.select? header.keyId = some key
          ∧ header.algorithm = key.algorithm
          ∧ Encoding.Base64Url.decode? parts.signature = some signature
          ∧ library.check key.material key.algorithm (Text.Utf8.encode parts.message) signature
            = true
          ∧ claims.inTime now = .ok () := by
  unfold Vouched
  simp only [readChecked_eq_ok_iff]
  constructor
  · intro holds
    obtain ⟨others, divisions, heading, key, signature, ⟨divided', headed'⟩, selected, pinned,
      decoded, signed, claimed', inTime⟩ := holds
    obtain rfl : divisions = parts := Option.some.inj
      ((Parts.ofChars?_eq_some_iff.mpr divided').symm.trans
        (Parts.ofChars?_eq_some_iff.mpr divided))
    obtain rfl := Except.ok.inj (headed'.symm.trans headed)
    obtain rfl := Except.ok.inj (claimed'.symm.trans claimed)
    exact ⟨key, signature, selected, pinned, decoded, signed, inTime⟩
  · intro holds
    obtain ⟨key, signature, selected, pinned, decoded, signed, inTime⟩ := holds
    exact ⟨claims, parts, header, key, signature, ⟨divided, headed⟩, selected, pinned, decoded,
      signed, claimed, inTime⟩

/-- Pass-through mode gives the binding of the claims that it reads. -/
theorem Divided.passThrough_verify {library : TokenLibrary} {token : String} {parts : Parts}
    (divided : Divided token parts) {header : Header}
    (headed : Header.ofPart library parts.header = .ok header) {claims : Claims}
    (claimed : Claims.ofPart parts.payload = .ok claims) (now : Nat)
    : Trust.passThrough.verify library now token = Claims.binding claims.members := by
  have read : readUnchecked library token = .ok claims :=
    readUnchecked_eq_ok_iff.mpr ⟨parts, header, ⟨divided, headed⟩, claimed⟩
  have filled : Text.isBlankText token = false := by
    simpa [Text.isBlankText] using divided.filled
  simp [Trust.verify, Trust.claims, filled, read]

end Token

namespace Trust

open Token

/-- A set of keys and pass-through mode find the same claims in a token that is vouched for. -/
theorem claims_of_vouched {set : KeySet} {library : TokenLibrary} {now : Nat} {token : String}
    (vouched : Vouched set library now token)
    : (keys set).claims library now token = passThrough.claims library now token := by
  obtain ⟨claims, read⟩ := vouched
  unfold Trust.claims
  dsimp only
  rw [read, readUnchecked_of_readChecked read]

/-- A token that is not vouched for is reported as invalid. -/
theorem invalid_of_not_vouched {set : KeySet} {library : TokenLibrary} {now : Nat}
    {token : String} (unvouched : ¬Vouched set library now token)
    : ∃ cause, (keys set).verify library now token = .error (.invalidToken cause) := by
  unfold verify
  cases found : (keys set).claims library now token with
  | error cause => exact ⟨cause, rfl⟩
  | ok claims => exact (unvouched ⟨claims, (claims_eq_readChecked.mp found).2⟩).elim

/-- A key set decides about a token that it vouches for as pass-through mode does. -/
theorem verify_of_vouched {set : KeySet} {library : TokenLibrary} {now : Nat} {token : String}
    (vouched : Vouched set library now token)
    : (keys set).verify library now token = passThrough.verify library now token := by
  unfold verify
  rw [claims_of_vouched vouched]

/-- Pass-through mode weakens verification and changes nothing else. What a key set gives for
a token, be it an object or a missing binding, pass-through mode gives as well, and what it
calls invalid is invalid for every key set. Witness: a key set either vouches for the token
and then agrees with pass-through mode, or it calls the token invalid.
-/
theorem passThrough_weakens (set : KeySet) (library : TokenLibrary) (now : Nat)
    (token : String)
    : (∀ id,
        (keys set).verify library now token = .ok id
        → passThrough.verify library now token = .ok id)
      ∧ (∀ claim,
          (keys set).verify library now token = .error (.missingBinding claim)
          → passThrough.verify library now token = .error (.missingBinding claim))
      ∧ ((∃ cause, passThrough.verify library now token = .error (.invalidToken cause))
          → ∃ cause, (keys set).verify library now token = .error (.invalidToken cause)) := by
  by_cases vouched : Vouched set library now token
  · rw [verify_of_vouched vouched]
    exact ⟨fun _ given => given, fun _ given => given, fun given => given⟩
  · obtain ⟨cause, invalid⟩ := invalid_of_not_vouched vouched
    rw [invalid]
    exact ⟨nofun, nofun, fun _ => ⟨cause, rfl⟩⟩

end Trust

end ObjectGrants
