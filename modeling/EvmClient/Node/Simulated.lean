import EvmClient.Envelope.Raw
import EvmClient.Node

/-
A node in memory, for tests and for development.

   All connections see one chain. Balances, nonces, code and the answers to calls are set from outside;
   blocks are added, and may be made to fail. A submitted transaction is decoded and remembered, and
   mined at once unless that is turned off. Receipts can follow a script: its answers are given in order,
   and then the registered receipt counts again. In the lists of pairs the first entry of a key counts. -/
namespace EvmClient

/-- One answer of a scripted receipt. -/
inductive ScriptedReceipt where
  | absent
  | failure
  | found (receipt : Receipt)
deriving DecidableEq

structure SimulatedNode where
  head : Word64
  chain : Word64
  gasPrice : Word256
  estimate : Word64
  balances : List (Address × Word256)
  nonces : List (Address × Word64)
  codes : List (Address × Bytes)
  /-- The answers to calls, by contract and selector. -/
  replies : List ((Address × Bytes) × Bytes)
  /-- The blocks by ascending height. -/
  blocks : List Block
  /-- The heights at which a look-up fails. -/
  failing : List Nat
  transactions : List (Hash × Transaction)
  receipts : List (Hash × Receipt)
  scripts : List (Hash × List ScriptedReceipt)
  /-- Whether a submitted transaction gets its receipt at once. -/
  autoMine : Bool
  /-- With this reason every submission is refused. -/
  refusal? : Option String
  /-- The transactions that were accepted, in order. -/
  sent : List Envelope
  receiptQueries : Nat
  /-- The heights that were asked for, in order. -/
  blockQueries : List Nat
  refusesDials : Bool
  /-- How many dials succeeded. -/
  dials : Nat
  /-- How many connections were closed. -/
  closed : Nat
deriving DecidableEq

namespace SimulatedNode

def initial : SimulatedNode where
  head := 0
  chain := 12306
  gasPrice := 1000000000
  estimate := 60000
  balances := []
  nonces := []
  codes := []
  replies := []
  blocks := []
  failing := []
  transactions := []
  receipts := []
  scripts := []
  autoMine := true
  refusal? := none
  sent := []
  receiptQueries := 0
  blockQueries := []
  refusesDials := false
  dials := 0
  closed := 0

/-! ## Settings -/

def setHead (head : Word64) (n : SimulatedNode) : SimulatedNode := { n with head }

def setChain (chain : Word64) (n : SimulatedNode) : SimulatedNode := { n with chain }

def setGasPrice (gasPrice : Word256) (n : SimulatedNode) : SimulatedNode := { n with gasPrice }

def setEstimate (estimate : Word64) (n : SimulatedNode) : SimulatedNode := { n with estimate }

def setBalance (owner : Address) (balance : Word256) (n : SimulatedNode) : SimulatedNode :=
  { n with balances := (owner, balance) :: n.balances }

def setNonce (owner : Address) (nonce : Word64) (n : SimulatedNode) : SimulatedNode :=
  { n with nonces := (owner, nonce) :: n.nonces }

def setCode (account : Address) (code : Bytes) (n : SimulatedNode) : SimulatedNode :=
  { n with codes := (account, code) :: n.codes }

/-- Sets the answer to calls of a contract whose data begins with the selector. -/
def setReply (contract : Address) (selector answer : Bytes) (n : SimulatedNode) : SimulatedNode :=
  { n with replies := ((contract, selector), answer) :: n.replies }

def setAutoMine (autoMine : Bool) (n : SimulatedNode) : SimulatedNode := { n with autoMine }

/-- From here on every submission is refused. -/
def refuseSubmissions (reason : String) (n : SimulatedNode) : SimulatedNode := { n with refusal? := some reason }

def setRefusesDials (refusesDials : Bool) (n : SimulatedNode) : SimulatedNode := { n with refusesDials }

/-! ## The chain -/

/-- A block whose hash follows from its height. -/
def blockOf (height : Word64) (transactions : List Transaction) : Block :=
  { (default : Block) with
    number := height
    hash := FixedBytes.ofNat 32 ((0xb000 + height.toNat) % UInt64.size)
    parentHash := FixedBytes.ofNat 32 ((0xb000 + (height.toNat - 1)) % UInt64.size)
    transactions := transactions }

/-- A plain transfer. -/
def transactionOf (hash : Nat) (sender recipient : Address) (value : Word256) : Transaction :=
  { (default : Transaction) with
    hash := FixedBytes.ofNat 32 hash
    sender := sender
    recipient := some recipient
    value := value
    gas := 21000 }

def receiptOf (hash : Hash) (height : Word64) (success : Bool) : Receipt :=
  { (default : Receipt) with
    transactionHash := hash
    blockNumber := some height
    status := some (if success then 1 else 0) }

/-- Puts a block in its place, in place of one of its height. -/
def insertBlock (b : Block) (bs : List Block) : List Block :=
  bs.filter (fun x => x.number.toNat < b.number.toNat) ++ b :: bs.filter (fun x => b.number.toNat < x.number.toNat)

/-- Adds a block and its transactions; the head moves up to it. -/
def addBlock (b : Block) (n : SimulatedNode) : SimulatedNode :=
  { n with
    transactions := (b.transactions.map fun t => (t.hash, t)).reverse ++ n.transactions
    blocks := insertBlock b n.blocks
    head := if n.head.toNat < b.number.toNat then b.number else n.head }

def failBlock (height : Nat) (n : SimulatedNode) : SimulatedNode := { n with failing := height :: n.failing }

def healBlock (height : Nat) (n : SimulatedNode) : SimulatedNode :=
  { n with failing := n.failing.filter (· ≠ height) }

def addTransaction (t : Transaction) (n : SimulatedNode) : SimulatedNode :=
  { n with transactions := (t.hash, t) :: n.transactions }

def setReceipt (r : Receipt) (n : SimulatedNode) : SimulatedNode :=
  { n with receipts := (r.transactionHash, r) :: n.receipts }

def scriptReceipts (hash : Hash) (script : List ScriptedReceipt) (n : SimulatedNode) : SimulatedNode :=
  { n with scripts := (hash, script) :: n.scripts }

/-! ## Answers -/

def error (reason : String) : RpcError := .node (-32000) reason

/-- The answer to a call, by the first four bytes of its data. -/
def reply (request : CallRequest) (n : SimulatedNode) : Except ClientError Bytes :=
  let data := request.data.getD []
  if data.length < 4 then .error (.rpc (error "execution reverted"))
  else
    match n.replies.lookup (request.target, data.take 4) with
    | some answer => .ok answer
    | none => .error (.rpc (error "execution reverted"))

/-- Takes in a raw transaction. -/
def accept (raw : Bytes) (n : SimulatedNode) : Except ClientError Hash × SimulatedNode :=
  match n.refusal? with
  | some reason => (.error (.submit (error reason)), n)
  | none =>
    match Envelope.ofRaw? raw with
    | .error e => (.error (.submit (.decode (ClientError.decode e.message).message)), n)
    | .ok tx =>
      let mined := if n.autoMine then n.setReceipt (receiptOf tx.hash (n.head + 1) true) else n
      (.ok tx.hash, { mined with sent := n.sent ++ [tx] })

def lookUpReceipt (hash : Hash) (n : SimulatedNode) : Except ClientError (Option Receipt) × SimulatedNode :=
  let asked := { n with receiptQueries := n.receiptQueries + 1 }
  match n.scripts.lookup hash with
  | some (first :: rest) =>
    let next := asked.scriptReceipts hash rest
    match first with
    | .absent => (.ok none, next)
    | .failure => (.error (.rpc (error "receipt lookup failed")), next)
    | .found receipt => (.ok (some receipt), next)
  | _ => (.ok (n.receipts.lookup hash), asked)

def lookUpBlock (height : Nat) (n : SimulatedNode) : Except ClientError (Option Block) × SimulatedNode :=
  let asked := { n with blockQueries := n.blockQueries ++ [height] }
  if n.failing.contains height then (.error (.rpc (error "block lookup failed")), asked)
  else (.ok (n.blocks.find? fun b => b.number.toNat == height), asked)

def ask (query : Query) (n : SimulatedNode) : Except ClientError query.Answer × SimulatedNode :=
  match query with
  | .blockNumber => (.ok n.head, n)
  | .chain => (.ok n.chain, n)
  | .balance owner => (.ok ((n.balances.lookup owner).getD 0), n)
  | .pendingNonce owner => (.ok ((n.nonces.lookup owner).getD 0), n)
  | .gasPrice => (.ok n.gasPrice, n)
  | .estimateGas _ => (.ok n.estimate, n)
  | .call request => (n.reply request, n)
  | .sendRaw raw => n.accept raw
  | .receipt hash => n.lookUpReceipt hash
  | .transaction hash => (.ok (n.transactions.lookup hash), n)
  | .blockByHeight height => n.lookUpBlock height
  | .blockByHash hash => (.ok (n.blocks.find? (·.hash == hash)), n)
  | .code account => (.ok ((n.codes.lookup account).getD []), n)

/-- Connects; a connection's number is the count of the dials before it. -/
def dial (n : SimulatedNode) : Except ClientError Connection × SimulatedNode :=
  if n.refusesDials then (.error (.dialFailed "mock: connection refused"), n)
  else (.ok n.dials, { n with dials := n.dials + 1 })

instance : Node SimulatedNode where
  dial := dial
  ask query _ := ask query
  close _ n := { n with closed := n.closed + 1 }

end SimulatedNode
end EvmClient
