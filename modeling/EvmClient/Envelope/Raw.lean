import EvmClient.Address
import EvmClient.Curve.Ecdsa
import EvmClient.Envelope.DynamicFee

/-
Raw signed transactions: the envelopes that are told apart by their first byte, and their sender.

   A first byte from `c0` on opens a legacy list; `02` marks a dynamic-fee transaction; nothing else is
   read. The sender is recovered from the digest that the transaction's own fields give. -/
namespace EvmClient

/-- A decoded signed transaction. -/
inductive Envelope where
  | legacy (tx : Legacy)
  | dynamicFee (tx : DynamicFee)
deriving DecidableEq

/-- What is needed to recover the signer: the signed digest and the signature. -/
structure SignatureParts where
  digest : Hash
  odd : Bool
  r : Word256
  s : Word256
deriving DecidableEq

namespace Envelope

def hash : Envelope → Hash
  | .legacy t => t.hash
  | .dynamicFee t => t.hash

def raw : Envelope → Bytes
  | .legacy t => t.raw
  | .dynamicFee t => t.raw

def nonce : Envelope → Word64
  | .legacy t => t.draft.nonce
  | .dynamicFee t => t.nonce

def recipient : Envelope → Option Address
  | .legacy t => t.draft.recipient
  | .dynamicFee t => t.recipient

def value : Envelope → Word256
  | .legacy t => t.draft.value
  | .dynamicFee t => t.value

def signatureParts? : Envelope → Option SignatureParts
  | .legacy t => t.recovery?.map fun (digest, odd) => ⟨digest, odd, t.signature.r, t.signature.s⟩
  | .dynamicFee t =>
    if t.v.toNat ≤ 1 then some ⟨t.signingHash, t.v.toNat == 1, t.r, t.s⟩ else none

/-- Why bytes are no transaction. -/
inductive RawError where
  | empty
  | unsupportedType (type : UInt8)
  | rlp (cause : Rlp.DecodeError)
  | hex (cause : Hex.DecodeError)
deriving DecidableEq

def RawError.message : RawError → String
  | .empty => "Empty transaction data"
  | .unsupportedType type => "Transaction type " ++ toString type.toNat ++ " not supported"
  | .rlp cause => "RLP decode failed: " ++ cause.name
  | .hex cause => "invalid hex: " ++ cause.message

def ofRaw? (raw : Bytes) : Except RawError Envelope :=
  match raw with
  | [] => .error .empty
  | x :: rest =>
    if 0xc0 ≤ x then
      match Legacy.decode? raw with
      | .ok t => .ok (.legacy t)
      | .error e => .error (.rlp e)
    else if x = DynamicFee.typeByte then
      match DynamicFee.decode? rest with
      | .ok t => .ok (.dynamicFee t)
      | .error e => .error (.rlp e)
    else .error (.unsupportedType x)

/-- Reads a raw transaction from hexadecimal text; gives the bytes too. -/
def ofHex? (text : String) : Except RawError (Bytes × Envelope) :=
  match Hex.decode (Hex.utf8 (Hex.stripMarks (Text.trim text.toList))) with
  | .error e => .error (.hex e)
  | .ok raw =>
    match ofRaw? raw with
    | .error e => .error e
    | .ok t => .ok (raw, t)

end Envelope

/-- The address that signed a transaction. -/
def Envelope.sender? (t : Envelope) : Except ClientError Address :=
  match t.signatureParts? with
  | none => .error (.decode "invalid signature v")
  | some parts =>
    let sig : Ecdsa.Signature := ⟨parts.r, parts.s, parts.odd⟩
    if sig.inRange then
      match Ecdsa.recover? parts.digest sig with
      | some key => .ok (Address.ofPublicKeyBytes key.bytes)
      | none => .error (.decode "recover failed: signature error")
    else .error (.decode "invalid signature: signature error")

end EvmClient
