import Issuance.Address
import Issuance.Curve.Secp256k1
import Issuance.Hash.Keccak
/-! # Signing keys

A secret scalar of secp256k1 in `[1, n)`, as 32 big-endian bytes; its
address is the last twenty bytes of the Keccak-256 of its public point. -/
namespace Issuance

open Curve.Secp256k1

/-- A secret scalar in `[1, n)`. -/
structure SigningKey where
  secret : Nat
  pos : 0 < secret
  lt : secret < order

namespace SigningKey

/-- A key from 32 big-endian bytes; other lengths, zero and values from the
group's order up are refused. -/
def ofBytes (b : Bytes) : Except String SigningKey :=
  if b.length ≠ 32 then .error "invalid length, need 256 bits" else
  let d := Bytes.toNat b
  if h : d < order then
    if h0 : 0 < d then .ok ⟨d, h0, h⟩ else .error "invalid private key, zero or negative"
  else .error "invalid private key, >=N"

def bytes (k : SigningKey) : Bytes := Bytes.ofNatWidth 32 k.secret

def publicPoint (k : SigningKey) : Point := mul k.secret generator

def addressOf : Point → Address
  | .infinity => Address.zero
  | .affine x y =>
    let digest := Hash.Keccak.digest (Bytes.ofNatWidth 32 x ++ Bytes.ofNatWidth 32 y)
    (Address.ofBytes? (digest.drop 12)).getD Address.zero

def address (k : SigningKey) : Address := addressOf k.publicPoint

end SigningKey

theorem SigningKey.ofBytes_length (b : Bytes) (h : b.length ≠ 32) :
    SigningKey.ofBytes b = .error "invalid length, need 256 bits" := by
  simp [SigningKey.ofBytes, h]

end Issuance
