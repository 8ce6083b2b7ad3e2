import EvmClient.Wire.Forms

/-
A call to a contract that changes nothing: the parameter of reading and of gas estimation. -/
namespace EvmClient

structure CallRequest where
  sender : Option Address
  target : Address
  gas : Option Word64
  gasPrice : Option Word256
  value : Option Word256
  data : Option Bytes
deriving DecidableEq

namespace CallRequest

/-- A call with data and nothing else. -/
def ofData (target : Address) (data : Bytes) : CallRequest := ⟨none, target, none, none, none, some data⟩

def withSender (c : CallRequest) (sender : Address) : CallRequest := { c with sender := some sender }

def toJson (c : CallRequest) : Json :=
  .object (Json.memberIfSome "from" Wire.fixed c.sender ++ [("to", Wire.fixed c.target)] ++
    Json.memberIfSome "gas" Wire.quantity c.gas ++ Json.memberIfSome "gasPrice" Wire.quantity c.gasPrice ++
    Json.memberIfSome "value" Wire.quantity c.value ++ Json.memberIfSome "data" Wire.bytes c.data)

def fieldNames : List String := ["from", "to", "gas", "gasPrice", "value", "data"]

def ofJson? (j : Json) : Option CallRequest := do
  let f ← j.fields? fieldNames
  return {
    sender := ← f.optional "from" (Wire.fixed? 20)
    target := ← f.required "to" (Wire.fixed? 20)
    gas := ← f.optional "gas" (Wire.quantity? 64)
    gasPrice := ← f.optional "gasPrice" (Wire.quantity? 256)
    value := ← f.optional "value" (Wire.quantity? 256)
    data := ← f.optionalOrAbsent "data" Wire.bytes? }

end CallRequest
end EvmClient
