import EvmClient.Address
import EvmClient.Curve.Ecdsa
import EvmClient.Envelope.Legacy

/-
Signing legacy transactions with a private key.

   A key's text is 64 hexadecimal digits after an optional `0x`. The value `v` of a signature is
   `35 + 2 * chain + parity`; a chain for which it leaves 64 bits cannot be signed for. -/
namespace EvmClient

/-- A private key with the address that it signs for. -/
structure Signer where
  key : Ecdsa.PrivateKey
  address : Address
deriving DecidableEq

/-- A key's text without the mark. -/
def Ecdsa.PrivateKey.unmarked (cs : List Char) : List Char := Hex.unmarked [['0', 'x']] cs

def Ecdsa.PrivateKey.ofDigits? (digits : List Char) : Option Ecdsa.PrivateKey :=
  if digits.length = 64 then
    match Hex.decode (Hex.utf8 digits) with
    | .ok b => Ecdsa.PrivateKey.ofNat? (Bytes.toNat b)
    | .error _ => none
  else none

/-- The key of a text. -/
def Ecdsa.PrivateKey.read? (cs : List Char) : Option Ecdsa.PrivateKey :=
  Ecdsa.PrivateKey.ofDigits? (Ecdsa.PrivateKey.unmarked (Text.trim cs))

/-- The 64 digits of a key. -/
def Ecdsa.PrivateKey.text (k : Ecdsa.PrivateKey) : String := Hex.encode k.bytes

def Ecdsa.PublicKey.address (k : Ecdsa.PublicKey) : Address := Address.ofPublicKeyBytes k.bytes

/-- The value `v` for a parity and a chain. -/
def ChainSignature.vFor (odd : Bool) (chain : Word64) : Except ClientError Word64 :=
  let v := chain.toNat * 2 + 35 + (if odd then 1 else 0)
  if v < UInt64.size then .ok (BitVec.ofNat 64 v)
  else .error (.signing ("chain id 过大: " ++ toString chain.toNat))

namespace Signer

def ofKey? (key : Ecdsa.PrivateKey) : Option Signer := key.publicKey?.map fun q => ⟨key, q.address⟩

def parse (s : String) : Except ClientError Signer :=
  match (Ecdsa.PrivateKey.read? s.toList).bind ofKey? with
  | some signer => .ok signer
  | none => .error .invalidPrivateKey

/-- A new signer: the first of random byte strings that is a key. -/
def ofRandom? (source : List Bytes) : Option Signer :=
  source.findSome? fun b => if b.length = 32 then (Ecdsa.PrivateKey.ofNat? (Bytes.toNat b)).bind ofKey? else none

/-- How a signer is shown: by its address, never by its key. -/
def shown (s : Signer) : String := "PrivateKeySigner \x7b address: " ++ Hex.encode0x s.address.toList ++ ", .. \x7d"

/-- A transaction with its signature in the form for one chain, if there is one. -/
def affix (tx : Draft) (chain : Word64) : Option Ecdsa.Signature → Except ClientError Legacy
  | none => .error (.signing "signature error")
  | some sig =>
    match ChainSignature.vFor sig.odd chain with
    | .error e => .error e
    | .ok v => .ok (tx.signed ⟨v, sig.r, sig.s⟩)

/-- Signs a transaction for one chain. -/
def sign (s : Signer) (tx : Draft) (chain : Word64) : Except ClientError Legacy :=
  affix tx chain (Ecdsa.sign? s.key (tx.signingHash chain))

end Signer
end EvmClient
