import ObjectGrants.Proofs.Base64Text
import ObjectGrants.Proofs.KeyRotation

/-! Which keys of a document matter. A key set holds what the usable keys of the document become,
in their order, and a token is checked with the first of them that it may mean. Unusable keys
may stand anywhere in the document or be left out of it, which makes no difference.
-/

namespace ObjectGrants

open Encoding
open Traversal (Gathers gathers_filterMap)

-----------------------------------------------------------------------------------------
-- What a key becomes
-----------------------------------------------------------------------------------------

namespace Jwk

/-- The algorithm that an RSA key is for by what it declares. -/
inductive DeclaresRsa : Option String → Algorithm → Prop
  | undeclared : DeclaresRsa none .rs256
  | rs256 : DeclaresRsa (some "RS256") .rs256
  | rs384 : DeclaresRsa (some "RS384") .rs384
  | rs512 : DeclaresRsa (some "RS512") .rs512

/-- The key that a published key becomes. Nothing but the components for its type counts, and they
have to be the texts of some bytes.
-/
inductive Becomes (key : Jwk) : VerificationKey → Prop
  | rsa {modulus exponent algorithm} (type : key.keyType = "RSA")
    (modulus_eq : key.modulus = some (Base64Url.encode modulus))
    (exponent_eq : key.exponent = some (Base64Url.encode exponent))
    (declares : DeclaresRsa key.algorithm algorithm)
    : Becomes key ⟨key.keyId, algorithm, .rsa ⟨modulus, exponent⟩⟩
  | curve {x y} (type : key.keyType = "EC") (curve_eq : key.curve = some "P-256")
    (x_eq : key.x = some (Base64Url.encode x)) (y_eq : key.y = some (Base64Url.encode y))
    : Becomes key ⟨key.keyId, .es256, .p256 (x ++ y)⟩

/-- A usable key keeps its identifier. -/
theorem Becomes.keyId_eq {key : Jwk} {converted : VerificationKey}
    (becomes : key.Becomes converted)
    : converted.keyId = key.keyId := by
  cases becomes <;> rfl

/-- A component is there and is not the text of any bytes. -/
def Malformed (component : Option String) : Prop :=
  ∃ text, component = some text ∧ ∀ bytes, text ≠ Base64Url.encode bytes

/-- What makes a published key unusable. -/
inductive Unusable (key : Jwk) : Prop
  | unknownType (other : key.keyType ≠ "RSA") (another : key.keyType ≠ "EC")
  | rsaMissing (type : key.keyType = "RSA")
    (missing : key.modulus = none ∨ key.exponent = none)
  | rsaMalformed (type : key.keyType = "RSA")
    (malformed : Malformed key.modulus ∨ Malformed key.exponent)
  | rsaAlgorithm (type : key.keyType = "RSA")
    (unsupported : ∀ algorithm, ¬ DeclaresRsa key.algorithm algorithm)
  | curveMissing (type : key.keyType = "EC")
    (missing : key.x = none ∨ key.y = none ∨ key.curve = none)
  | curveMalformed (type : key.keyType = "EC") (malformed : Malformed key.x ∨ Malformed key.y)
  | otherCurve {name} (type : key.keyType = "EC") (named : key.curve = some name)
    (unsupported : name ≠ "P-256")

/-- A component is missing, malformed, or the text of some bytes. -/
theorem component_cases (component : Option String)
    : component = none
      ∨ Malformed component
      ∨ ∃ bytes, component = some (Base64Url.encode bytes) := by
  cases component with
  | none => exact .inl rfl
  | some text =>
      by_cases readable : ∃ bytes, text = Base64Url.encode bytes
      · obtain ⟨bytes, same⟩ := readable
        exact .inr (.inr ⟨bytes, congrArg some same⟩)
      · exact .inr (.inl ⟨text, rfl, fun bytes same => readable ⟨bytes, same⟩⟩)

theorem Malformed.ne_encode {component : Option String} (malformed : Malformed component)
    (bytes : List UInt8)
    : component ≠ some (Base64Url.encode bytes) := by
  obtain ⟨text, rfl, other⟩ := malformed
  exact fun same => other bytes (Option.some.inj same)

/-- A key is unusable exactly if it becomes nothing. Witness: it is asked for its components one
after the other.
-/
theorem unusable_iff {key : Jwk} : key.Unusable ↔ ∀ converted, ¬ key.Becomes converted := by
  constructor
  · intro unusable converted becomes
    cases becomes with
    | rsa type modulus exponent declares =>
        cases unusable with
        | unknownType other _ => exact other type
        | rsaMissing _ missing => simp [modulus, exponent] at missing
        | rsaMalformed _ malformed =>
            exact malformed.elim (·.ne_encode _ modulus) (·.ne_encode _ exponent)
        | rsaAlgorithm _ unsupported => exact unsupported _ declares
        | curveMissing other _ | curveMalformed other _ | otherCurve other _ _ =>
            exact absurd (type.symm.trans other) (by decide)
    | curve type curve x y =>
        cases unusable with
        | unknownType _ other => exact other type
        | curveMissing _ missing => simp [x, y, curve] at missing
        | curveMalformed _ malformed => exact malformed.elim (·.ne_encode _ x) (·.ne_encode _ y)
        | otherCurve _ named unsupported =>
            exact unsupported (Option.some.inj (named.symm.trans curve))
        | rsaMissing other _ | rsaMalformed other _ | rsaAlgorithm other _ =>
            exact absurd (type.symm.trans other) (by decide)
  · intro never
    by_cases rsa : key.keyType = "RSA"
    · rcases component_cases key.modulus with missing | malformed | modulus
      · exact .rsaMissing rsa (.inl missing)
      · exact .rsaMalformed rsa (.inl malformed)
      rcases component_cases key.exponent with missing | malformed | exponent
      · exact .rsaMissing rsa (.inr missing)
      · exact .rsaMalformed rsa (.inr malformed)
      obtain ⟨_, modulus⟩ := modulus
      obtain ⟨_, exponent⟩ := exponent
      exact .rsaAlgorithm rsa fun _ declares => never _ (.rsa rsa modulus exponent declares)
    by_cases curved : key.keyType = "EC"
    · rcases component_cases key.x with missing | malformed | x
      · exact .curveMissing curved (.inl missing)
      · exact .curveMalformed curved (.inl malformed)
      rcases component_cases key.y with missing | malformed | y
      · exact .curveMissing curved (.inr (.inl missing))
      · exact .curveMalformed curved (.inr malformed)
      cases named : key.curve with
      | none => exact .curveMissing curved (.inr (.inr named))
      | some name =>
          refine .otherCurve curved named fun same => ?_
          obtain ⟨_, x⟩ := x
          obtain ⟨_, y⟩ := y
          exact never _ (.curve curved (named.trans (congrArg some same)) x y)
    exact .unknownType rsa curved

end Jwk

namespace VerificationKey

open Jwk

theorem present_eq_ok_iff {fault : SetupFault} {component : Option String} {text : String}
    : present fault component = .ok text ↔ component = some text := by
  cases component <;> simp [present]

theorem component_eq_ok_iff {fault : SetupFault} {text : String} {bytes : List UInt8}
    : component fault text = .ok bytes ↔ text = Base64Url.encode bytes := by
  have text_eq : text = Base64Url.encode bytes ↔ Base64Url.letters bytes = text.toList := by
    rw [Base64Url.encode, ← String.toList_inj, String.toList_ofList, eq_comm]
  rw [text_eq, ← Base64Url.decode?_eq_some_iff, component]
  cases Base64Url.decode? text.toList <;> simp

theorem rsaAlgorithm_eq_ok_iff {declared : Option String} {algorithm : Algorithm}
    : rsaAlgorithm declared = .ok algorithm ↔ DeclaresRsa declared algorithm := by
  constructor
  · intro given
    unfold rsaAlgorithm at given
    split at given
    · obtain rfl := Except.ok.inj given
      exact .undeclared
    · split_ifs at given with first second third
      · obtain rfl := Except.ok.inj given
        exact first ▸ .rs256
      · obtain rfl := Except.ok.inj given
        exact second ▸ .rs384
      · obtain rfl := Except.ok.inj given
        exact third ▸ .rs512
  · intro declares
    cases declares <;> rfl

theorem ofRsa_eq_ok_iff {key : Jwk} {converted : VerificationKey}
    : ofRsa key = .ok converted
      ↔ ∃ modulus exponent algorithm,
          key.modulus = some (Base64Url.encode modulus)
          ∧ key.exponent = some (Base64Url.encode exponent)
          ∧ DeclaresRsa key.algorithm algorithm
          ∧ converted = ⟨key.keyId, algorithm, .rsa ⟨modulus, exponent⟩⟩ := by
  simp only [ofRsa, Traversal.bind_eq_ok_iff, present_eq_ok_iff, component_eq_ok_iff,
    rsaAlgorithm_eq_ok_iff]
  constructor
  · intro holds
    obtain ⟨_, named, _, known, modulus, rfl, exponent, rfl, algorithm, declares, same⟩ := holds
    exact ⟨modulus, exponent, algorithm, named, known, declares, (Except.ok.inj same).symm⟩
  · intro holds
    obtain ⟨modulus, exponent, algorithm, named, known, declares, rfl⟩ := holds
    exact ⟨_, named, _, known, modulus, rfl, exponent, rfl, algorithm, declares, rfl⟩

theorem ofCurve_eq_ok_iff {key : Jwk} {converted : VerificationKey}
    : ofCurve key = .ok converted
      ↔ ∃ x y,
          key.curve = some "P-256"
          ∧ key.x = some (Base64Url.encode x)
          ∧ key.y = some (Base64Url.encode y)
          ∧ converted = ⟨key.keyId, .es256, .p256 (x ++ y)⟩ := by
  simp only [ofCurve, Traversal.bind_eq_ok_iff, present_eq_ok_iff]
  constructor
  · intro holds
    obtain ⟨_, across, _, up, name, named, given⟩ := holds
    split_ifs at given with other
    simp only [Traversal.bind_eq_ok_iff, component_eq_ok_iff] at given
    obtain ⟨x, rfl, y, rfl, same⟩ := given
    obtain rfl := Classical.not_not.mp other
    exact ⟨x, y, named, across, up, (Except.ok.inj same).symm⟩
  · intro holds
    obtain ⟨x, y, named, across, up, rfl⟩ := holds
    refine ⟨_, across, _, up, _, named, ?_⟩
    rw [if_neg (by simp)]
    simp only [Traversal.bind_eq_ok_iff, component_eq_ok_iff]
    exact ⟨x, rfl, y, rfl, rfl⟩

/-- The conversion gives what a key becomes. -/
theorem ofJwk_eq_ok_iff {key : Jwk} {converted : VerificationKey}
    : ofJwk key = .ok converted ↔ key.Becomes converted := by
  constructor
  · intro given
    unfold ofJwk at given
    split_ifs at given with rsa curved
    · obtain ⟨_, _, _, modulus, exponent, declares, rfl⟩ := ofRsa_eq_ok_iff.mp given
      exact .rsa rsa modulus exponent declares
    · obtain ⟨_, _, named, x, y, rfl⟩ := ofCurve_eq_ok_iff.mp given
      exact .curve curved named x y
  · intro becomes
    cases becomes with
    | rsa type modulus exponent declares =>
        rw [ofJwk, if_pos type, ofRsa_eq_ok_iff]
        exact ⟨_, _, _, modulus, exponent, declares, rfl⟩
    | curve type named x y =>
        rw [ofJwk, if_neg (by simp [type]), if_pos type, ofCurve_eq_ok_iff]
        exact ⟨_, _, named, x, y, rfl⟩

/-- The conversion fails exactly for unusable keys. -/
theorem ofJwk_eq_error_iff {key : Jwk} : (∃ cause, ofJwk key = .error cause) ↔ key.Unusable := by
  simp only [unusable_iff, ← ofJwk_eq_ok_iff]
  cases ofJwk key <;> simp

end VerificationKey

-----------------------------------------------------------------------------------------
-- What a set holds and selects
-----------------------------------------------------------------------------------------

/-- A token may mean a key that has the identifier it names, or any if it names none. -/
def Jwk.MeantBy (key : Jwk) (named : Option String) : Prop :=
  named = none ∨ key.keyId = named

namespace KeySet

open Jwk

/-- `selected` comes of the first usable key of a document that a token may mean. -/
def FirstUsable (keys : List Jwk) (named : Option String) (selected : VerificationKey) : Prop :=
  ∃ before key behind,
    keys = before ++ key :: behind
    ∧ key.Becomes selected
    ∧ key.MeantBy named
    ∧ ∀ other ∈ before, other.Unusable ∨ ¬ other.MeantBy named

/-- The verification key that a published key gives, if it is usable. -/
def usable? (key : Jwk) : Option VerificationKey :=
  (VerificationKey.ofJwk key).toOption

theorem usable?_eq_some_iff {key : Jwk} {converted : VerificationKey}
    : usable? key = some converted ↔ key.Becomes converted := by
  rw [← VerificationKey.ofJwk_eq_ok_iff, usable?]
  cases VerificationKey.ofJwk key <;> simp [Except.toOption]

theorem usable?_eq_none_iff {key : Jwk} : usable? key = none ↔ key.Unusable := by
  simp only [unusable_iff, ← usable?_eq_some_iff, Option.eq_none_iff_forall_ne_some, ne_eq]

theorem keys_eq {document : Jwks} {set : KeySet} (made : ofJwks document = .ok set)
    : set.keys = document.keys.filterMap usable? := by
  unfold ofJwks at made
  dsimp only at made
  split_ifs at made
  obtain rfl := Except.ok.inj made
  rfl

/-- A selection is a search for a key that may be meant. -/
theorem select?_eq_find? (set : KeySet) (named : Option String)
    : set.select? named = set.keys.find? fun key => named.all (key.keyId == some ·) := by
  cases named with
  | none =>
      obtain ⟨keys⟩ := set
      cases keys <;> rfl
  | some name => rfl

/-- What a usable key gives may be meant exactly if the key may. -/
theorem any_usable?_iff {key : Jwk} {named : Option String}
    : ((usable? key).any fun converted => named.all (converted.keyId == some ·)) = true
      ↔ (∃ converted, key.Becomes converted) ∧ key.MeantBy named := by
  have meant {converted : VerificationKey} (becomes : key.Becomes converted)
      : named.all (converted.keyId == some ·) = true ↔ key.MeantBy named := by
    cases named <;> simp [MeantBy, becomes.keyId_eq]
  simp only [Option.any_eq_true, usable?_eq_some_iff]
  constructor
  · intro holds
    obtain ⟨converted, becomes, fits⟩ := holds
    exact ⟨⟨converted, becomes⟩, (meant becomes).mp fits⟩
  · intro holds
    obtain ⟨⟨converted, becomes⟩, fits⟩ := holds
    exact ⟨converted, becomes, (meant becomes).mpr fits⟩

/-- A key is passed over exactly if it is unusable or cannot be meant. -/
theorem any_usable?_eq_false_iff {key : Jwk} {named : Option String}
    : ((usable? key).any fun converted => named.all (converted.keyId == some ·)) = false
      ↔ key.Unusable ∨ ¬ key.MeantBy named := by
  rw [← Bool.not_eq_true, any_usable?_iff, not_and_or, not_exists, ← unusable_iff]

/-- What is selected comes of the first usable key of the document that may be meant. -/
theorem select?_eq_some_iff_of_made {document : Jwks} {set : KeySet}
    (made : ofJwks document = .ok set) {named : Option String} {selected : VerificationKey}
    : set.select? named = some selected ↔ FirstUsable document.keys named selected := by
  simp only [select?_eq_find?, keys_eq made, List.find?_filterMap, Option.bind_eq_some_iff,
    List.find?_eq_some_iff_append, usable?_eq_some_iff, any_usable?_iff,
    Bool.not_eq_eq_eq_not, Bool.not_true, any_usable?_eq_false_iff]
  constructor
  · intro holds
    obtain ⟨key, ⟨⟨_, meant⟩, before, behind, split, passed⟩, becomes⟩ := holds
    exact ⟨before, key, behind, split, becomes, meant, passed⟩
  · intro holds
    obtain ⟨before, key, behind, split, becomes, meant, passed⟩ := holds
    exact ⟨key, ⟨⟨⟨_, becomes⟩, meant⟩, before, behind, split, passed⟩, becomes⟩

/-- Nothing is selected exactly if no usable key of the document may be meant. -/
theorem select?_eq_none_iff_of_made {document : Jwks} {set : KeySet}
    (made : ofJwks document = .ok set) {named : Option String}
    : set.select? named = none ↔ ∀ key ∈ document.keys, key.Unusable ∨ ¬ key.MeantBy named := by
  rw [select?_eq_find?, keys_eq made, List.find?_eq_none]
  simp only [← any_usable?_eq_false_iff, ← Bool.not_eq_true, Option.any_eq_true, not_exists,
    not_and, List.mem_filterMap]
  constructor
  · intro passed key member converted given
    exact passed converted ⟨key, member, given⟩
  · intro passed converted given
    obtain ⟨key, member, given⟩ := given
    exact passed key member converted given

-----------------------------------------------------------------------------------------
-- Unusable keys
-----------------------------------------------------------------------------------------

/-- `others` come of `keys` by putting in, taking out and moving unusable keys. -/
inductive Reworked (keys : List Jwk) : (others : List Jwk) → Prop
  | same : Reworked keys keys
  | inserted {front back key} (before : Reworked keys (front ++ back)) (unusable : key.Unusable)
    : Reworked keys (front ++ key :: back)
  | removed {front back key} (before : Reworked keys (front ++ key :: back))
    (unusable : key.Unusable)
    : Reworked keys (front ++ back)
  | moved {front back front' back' key} (before : Reworked keys (front ++ key :: back))
    (unusable : key.Unusable) (rest : front' ++ back' = front ++ back)
    : Reworked keys (front' ++ key :: back')

/-- An unusable key gives nothing wherever it stands. -/
theorem filterMap_usable?_unusable {front back : List Jwk} {key : Jwk} (unusable : key.Unusable)
    : (front ++ key :: back).filterMap usable? = (front ++ back).filterMap usable? := by
  rw [List.filterMap_append, List.filterMap_cons_none (usable?_eq_none_iff.mpr unusable),
    List.filterMap_append]

/-- Reworked documents give the same keys, by induction on what was done to them. -/
theorem Reworked.filterMap_eq {keys others : List Jwk} (reworked : Reworked keys others)
    : others.filterMap usable? = keys.filterMap usable? := by
  induction reworked with
  | same => rfl
  | inserted _ unusable ih => rw [filterMap_usable?_unusable unusable, ih]
  | removed _ unusable ih => rw [← filterMap_usable?_unusable unusable, ih]
  | moved _ unusable rest ih =>
      rw [filterMap_usable?_unusable unusable, rest, ← filterMap_usable?_unusable unusable, ih]

/-- What becomes of a document is made of its usable keys, and of nothing else. -/
structure OfUsable (document : Jwks) (result : Except SetupFault KeySet) : Prop where
  /-- A key converts to what it becomes, and does not convert if it is unusable. -/
  converts
    : ∀ key ∈ document.keys,
        (∀ converted, VerificationKey.ofJwk key = .ok converted ↔ key.Becomes converted)
        ∧ ((∃ cause, VerificationKey.ofJwk key = .error cause) ↔ key.Unusable)
  refused : (∃ cause, result = .error cause) ↔ ∀ key ∈ document.keys, key.Unusable
  kept : ∀ set, result = .ok set → Gathers Jwk.Becomes document.keys set.keys
  selected
    : ∀ set,
        result = .ok set
        → ∀ named selected,
            set.select? named = some selected ↔ FirstUsable document.keys named selected
  unselected
    : ∀ set,
        result = .ok set
        → ∀ named,
            set.select? named = none
            ↔ ∀ key ∈ document.keys, key.Unusable ∨ ¬ key.MeantBy named
  /-- A token that names no key is checked with some key. -/
  unnamed : ∀ set, result = .ok set → set.select? none ≠ none

/-- A document gives the keys that its usable keys become and fails without any, and unusable keys
make no difference to what it gives.
-/
theorem ofJwks_ofUsable (document : Jwks)
    : OfUsable document (ofJwks document)
      ∧ ∀ others, Reworked document.keys others → ofJwks ⟨others⟩ = ofJwks document := by
  constructor
  · constructor
    · intro key _
      exact ⟨fun _ => VerificationKey.ofJwk_eq_ok_iff, VerificationKey.ofJwk_eq_error_iff⟩
    · simp only [ofJwks_eq_error_iff, VerificationKey.ofJwk_eq_error_iff]
    · intro set made
      rw [keys_eq made]
      exact gathers_filterMap usable?_eq_some_iff document.keys
    · intro set made named selected
      exact select?_eq_some_iff_of_made made
    · intro set made named
      exact select?_eq_none_iff_of_made made
    · intro set made
      exact mt List.head?_eq_none_iff.mp (keys_ne_nil made)
  · intro others reworked
    have same := reworked.filterMap_eq
    unfold usable? at same
    simp only [ofJwks, same]

/-- A key of another type and one with a component that cannot be read are left out, and a token
is checked with the key between them.
-/
example
    : let document : Jwks :=
        ⟨[{ keyType := "oct", keyId := some "a" },
          { keyType := "RSA", keyId := some "b", modulus := some "AQAB", exponent := some "Aw" },
          { keyType := "RSA", keyId := some "c", modulus := some "AQ=", exponent := some "Aw" }]⟩
      (ofJwks document).map (·.select? none)
        = .ok (some ⟨some "b", .rs256, .rsa ⟨[1, 0, 1], [3]⟩⟩) := by
  decide

end KeySet

end ObjectGrants
