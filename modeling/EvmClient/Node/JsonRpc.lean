import EvmClient.Json.Reader
import EvmClient.Json.Writer
import EvmClient.Node

/-
Nodes that are asked by JSON-RPC over HTTP.

   Each query has a method and parameters, and one request carries one query. An answer is judged in this
   order: the medium, the status, the shape of the body, the error member, the presence of the result, the
   type of the result. Failures of a submission are told apart from all others, since what was submitted
   may have arrived. -/
namespace EvmClient

/-! ## Requests -/

namespace Query

def method : Query → String
  | .blockNumber => "eth_blockNumber"
  | .chain => "eth_chainId"
  | .balance _ => "eth_getBalance"
  | .pendingNonce _ => "eth_getTransactionCount"
  | .gasPrice => "eth_gasPrice"
  | .estimateGas _ => "eth_estimateGas"
  | .call _ => "eth_call"
  | .sendRaw _ => "eth_sendRawTransaction"
  | .receipt _ => "eth_getTransactionReceipt"
  | .transaction _ => "eth_getTransactionByHash"
  | .blockByHeight _ => "eth_getBlockByNumber"
  | .blockByHash _ => "eth_getBlockByHash"
  | .code _ => "eth_getCode"

def params : Query → List Json
  | .blockNumber | .chain | .gasPrice => []
  | .balance owner => [Wire.fixed owner, .string "latest"]
  | .pendingNonce owner => [Wire.fixed owner, .string "pending"]
  | .estimateGas request => [request.toJson]
  | .call request => [request.toJson, .string "latest"]
  | .sendRaw raw => [Wire.bytes raw]
  | .receipt hash | .transaction hash => [Wire.fixed hash]
  | .blockByHeight height => [.string (blockParameter height), .bool true]
  | .blockByHash hash => [Wire.fixed hash, .bool true]
  | .code account => [Wire.fixed account, .string "latest"]

/-- The request with a number of its own. -/
def request (id : Nat) (query : Query) : Json :=
  .object [("jsonrpc", .string "2.0"), ("method", .string query.method), ("params", .array query.params),
    ("id", Json.ofNat id)]

end Query

/-! ## Responses -/

/-- What came back over HTTP. -/
structure HttpResponse where
  status : Nat
  body : Bytes
deriving DecidableEq

/-- Why nothing came back. -/
inductive LinkFailure where
  | timeout
  | broken (reason : String)
deriving DecidableEq

/-- The members of a response that count. An absent result is told apart from a result `null`. -/
structure RpcReply where
  result? : Option Json
  error? : Option (Int × String)

namespace RpcReply

/-- A code of 64 bits. -/
def codeOf? : Json → Option Int
  | .number (.integer i) => if Int64.minValue.toInt ≤ i ∧ i ≤ Int64.maxValue.toInt then some i else none
  | _ => none

/-- The error member: a code and a message. -/
def errorOf? (j : Json) : Option (Int × String) := do
  let f ← j.fields? ["code", "message"]
  return (← f.required "code" codeOf?, ← f.required "message" Json.asString?)

/-- How deep a result may be nested. -/
def deepest : Nat := 126

def ofJson? (j : Json) : Option RpcReply := do
  let f ← j.fields? ["result", "error"]
  let result? := f.found.lookup "result"
  if result?.any (!·.isReadable deepest) then none
  return ⟨result?, ← f.optionalOrAbsent "error" errorOf?⟩

/-- What a byte that belongs to no character is read as. In a string that is an escape that denotes none, so the
string can be skipped and not read; elsewhere it is no JSON. -/
def strayByte : List Char := ['g', '\\', 'u', 'd', 'c', '0', '0']

/-- The character that bytes begin with. -/
def leadingChar? (b : Bytes) : Option Char :=
  [1, 2, 3, 4].findSome? fun n => (String.fromUTF8? ⟨(b.take n).toArray⟩).bind (·.toList.head?)

/-- The characters of bytes, as many bytes in front as given left out. -/
def lenientText : Nat → Bytes → List Char
  | _, [] => []
  | left + 1, _ :: rest => lenientText left rest
  | 0, x :: rest =>
    match leadingChar? (x :: rest) with
    | some c => c :: lenientText (c.utf8Size - 1) rest
    | none => strayByte ++ lenientText 0 rest

/-- Bytes that are no text may still hold a reply, if nothing that counts is read from those at fault. -/
def ofBody? (body : Bytes) : Option RpcReply := do
  let text := match String.fromUTF8? ⟨body.toArray⟩ with
    | some text => text.toList
    | none => lenientText 0 body
  ofJson? (← Json.read? text)

/-- The result of a reply. -/
def result (r : RpcReply) : Except RpcError Json :=
  match r.error?, r.result? with
  | some (code, reason), _ => .error (.node code reason)
  | none, some result => .ok result.lastWins
  | none, none => .error .missingResult

end RpcReply

/-- The result that came back. -/
def HttpResponse.result (r : HttpResponse) : Except RpcError Json :=
  if 200 ≤ r.status ∧ r.status < 300 then
    match RpcReply.ofBody? r.body with
    | some reply => reply.result
    | none => .error (.decode "error decoding response body")
  else .error (.httpStatus r.status)

namespace Query

/-- A result that has the wrong type. -/
def typed {α : Type} (read : Json → Option α) (result : Json) : Except RpcError α :=
  match read result with
  | some a => .ok a
  | none => .error (.serialization "the result has another type")

/-- As `typed`, but `null` means that there is no such thing. -/
def typedOrNull {α : Type} (read : Json → Option α) : Json → Except RpcError (Option α)
  | .null => .ok none
  | result => (typed read result).map some

/-- Bytes: a text of another type is told apart from a text that is not hexadecimal. -/
def typedBytes (result : Json) : Except RpcError Bytes := do
  match Wire.bytesOf (← typed Json.asString? result) with
  | .ok b => return b
  | .error e => throw (.decode e.message)

/-- Reads the result of a query. -/
def read (query : Query) (result : Json) : Except RpcError query.Answer :=
  match query with
  | .blockNumber | .chain | .pendingNonce _ | .estimateGas _ => typed (Wire.quantity? 64) result
  | .balance _ | .gasPrice => typed (Wire.quantity? 256) result
  | .call _ | .code _ => typedBytes result
  | .sendRaw _ => typed (Wire.fixed? 32) result
  | .receipt _ => typedOrNull Receipt.ofJson? result
  | .transaction _ => typedOrNull Transaction.ofJson? result
  | .blockByHeight _ | .blockByHash _ => typedOrNull Block.ofJson? result

/-- The error of an operation that asked the query. -/
def failure (query : Query) (e : RpcError) : ClientError :=
  match query with
  | .sendRaw _ => .submit e
  | _ => .rpc e

/-- The answer that a response gives to a query. -/
def answer (query : Query) (response : Except LinkFailure HttpResponse) : Except ClientError query.Answer :=
  let result : Except RpcError Json := match response with
    | .error .timeout => .error .timeout
    | .error (.broken reason) => .error (.transport reason)
    | .ok r => r.result
  match result.bind query.read with
  | .ok a => .ok a
  | .error e => .error (query.failure e)

end Query

/-! ## Nodes -/

/-- The medium: posts a body to an address. -/
class Link (κ : Type) where
  post : String → Json → κ → Except LinkFailure HttpResponse × κ
  /-- Why nothing can be posted at all, if that is so. -/
  refusal? : κ → Option String := fun _ => none
  /-- The question that a connection begins with was not answered in its time. -/
  overdue : κ → Bool := fun _ => false

/-- A node at an address. -/
structure HttpNode (κ : Type) where
  endpoint : String
  link : κ
  /-- The number of each connection's next request. -/
  nextIds : List Nat

namespace HttpNode
variable {κ : Type} [Link κ]

/-- A connection that nothing was asked over yet. -/
def newConnection (n : HttpNode κ) : Connection × HttpNode κ :=
  (n.nextIds.length, { n with nextIds := n.nextIds ++ [1] })

def ask (query : Query) (c : Connection) (n : HttpNode κ) : Except ClientError query.Answer × HttpNode κ :=
  let (response, link) := Link.post n.endpoint (query.request (n.nextIds.getD c 1)) n.link
  (query.answer response, { n with link, nextIds := n.nextIds.modify c (· + 1) })

/-- Connects, and asks for the chain to see whether the node answers. -/
def dial (n : HttpNode κ) : Except ClientError Connection × HttpNode κ :=
  match Link.refusal? n.link with
  | some reason => (.error (.dialFailed ("创建 HTTP 客户端失败: " ++ reason)), n)
  | none =>
    let (c, n) := n.newConnection
    let (r, n) := n.ask .chain c
    if Link.overdue n.link then (.error (.dialFailed (n.endpoint ++ ": 连接超时")), n)
    else
      match r with
      | .ok _ => (.ok c, n)
      | .error e => (.error (.dialFailed (n.endpoint ++ ": " ++ e.message)), n)

instance : Node (HttpNode κ) where
  dial := dial
  ask := ask
  close _ n := n

end HttpNode
end EvmClient
