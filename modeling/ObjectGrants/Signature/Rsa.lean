import ObjectGrants.Digest.Sha2
import ObjectGrants.Signature.Modular

/-!
RSA signatures with the padding of PKCS #1 version 1.5 over a SHA-2 digest.

A signature is checked by raising it to the public exponent and comparing the outcome, byte
for byte, with the one padded digest that the message has.
-/

namespace ObjectGrants.Signature.Rsa

open Digest.Sha2

/-- The digests that a signature may cover. -/
inductive Hash where
  | sha256
  | sha384
  | sha512
  deriving DecidableEq, Repr

namespace Hash

def digest : Hash → List UInt8 → List UInt8
  | sha256 => Digest.Sha2.sha256
  | sha384 => Digest.Sha2.sha384
  | sha512 => Digest.Sha2.sha512

/-- The last byte of the object identifier of a digest. -/
def identifier : Hash → UInt8
  | sha256 => 1
  | sha384 => 2
  | sha512 => 3

/-- The length of a digest in bytes. -/
def size : Hash → UInt8
  | sha256 => 32
  | sha384 => 48
  | sha512 => 64

end Hash

/-- The structure that names the digest algorithm and holds the digest of a message. -/
def digestInfo (hash : Hash) (message : List UInt8) : List UInt8 :=
  [0x30, 17 + hash.size, 0x30, 0x0D, 0x06, 0x09, 0x60, 0x86, 0x48, 0x01, 0x65, 0x03, 0x04,
    0x02, hash.identifier, 0x05, 0x00, 0x04, hash.size] ++ hash.digest message

/-- The padded digest of a message, as many bytes long as the modulus. -/
def encoded (hash : Hash) (size : Nat) (message : List UInt8) : List UInt8 :=
  let info := digestInfo hash message
  0x00 :: 0x01 :: List.replicate (size - 3 - info.length) 0xFF ++ 0x00 :: info

/-- A public key, its two numbers as bytes with the most significant first. -/
structure PublicKey where
  modulus : List UInt8
  exponent : List UInt8
  deriving DecidableEq, Repr

/-- Whether a key is fit for use. The modulus is odd and has 2048 to 8192 bits, counted in
whole bytes at the lower end; the exponent is odd, at least three and below 2 ^ 33; and
neither begins with a zero byte. -/
def PublicKey.isSound (key : PublicKey) : Bool :=
  let exponent := bigEndian key.exponent
  key.modulus.head? != some 0 && key.exponent.head? != some 0
    && 256 ≤ key.modulus.length && key.modulus.length ≤ 1024
    && bigEndian key.modulus % 2 == 1
    && key.exponent.length ≤ 5 && exponent % 2 == 1 && 3 ≤ exponent && exponent < Nat.pow 2 33

/-- Whether a signature is that of a message under a key. -/
def verify (hash : Hash) (key : PublicKey) (message signature : List UInt8) : Bool :=
  let modulus := bigEndian key.modulus
  let value := bigEndian signature
  key.isSound && signature.length == key.modulus.length && value < modulus
    && toBytes signature.length (powerModulo value (bigEndian key.exponent) modulus)
      == encoded hash signature.length message

/-- A private key: the modulus and the exponent that undoes the public one. -/
structure PrivateKey where
  modulus : Nat
  exponent : Nat

/-- The signature of a message, as many bytes long as the modulus. -/
def sign (hash : Hash) (key : PrivateKey) (message : List UInt8) : List UInt8 :=
  let size := key.modulus.log2 / 8 + 1
  toBytes size (powerModulo (bigEndian (encoded hash size message)) key.exponent key.modulus)

end ObjectGrants.Signature.Rsa
