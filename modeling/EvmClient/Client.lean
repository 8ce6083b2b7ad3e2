import EvmClient.Scan
import EvmClient.Transfer.Submission
import EvmClient.World

/-
The client: queries, transfers and scans in one place.

   Texts are read before a connection is held, so a text that cannot be read costs nothing. Every
   operation holds one connection for its time, and gives it back at its end. -/
namespace EvmClient

/-- A hash of 64 hexadecimal digits behind any number of marks `0x`. -/
def parseHash (s : String) : Except ClientError Hash :=
  let digits := Hex.utf8 (Hex.stripMarks (Text.trim s.toList))
  if digits.length = 64 then
    match Hex.decode digits with
    | .error e => .error (.decode ("invalid hash: " ++ e.message))
    | .ok b =>
      match FixedBytes.ofList? b with
      | some h => .ok h
      | none => .error (.decode ("invalid hash: " ++ s))
  else .error (.decode ("invalid hash: " ++ s))

namespace Client

/-! ## Connections -/

/-- A world for a checked configuration, with a pool that was filled as far as the node answered. -/
def connect {ν σ : Type} [Node ν] [CheckpointStore σ] (config : Config) (node : ν) (store : σ) :
    Except ClientError (Nat × World ν σ) := do
  config.validate
  let w := World.initial node config.poolSize store
  return (Lease.prewarm w.pool.capacity).run w

/-- Fills the pool; gives the number of connections that it kept. -/
def prewarm (config : Config) : Program Nat := Lease.prewarm (Pool.ofSize config.poolSize).capacity

def close : Program Unit := Lease.close

/-! ## Queries -/

def blockNumber : Action Word64 := Lease.withConnection fun c => Action.ask c .blockNumber

def balance (config : Config) (address : String) : Action TokenAmount := do
  let owner ← Address.parse address
  Lease.withConnection fun c => do return ⟨← Action.ask c (.balance owner), config.nativeDecimals⟩

def pendingNonce (address : String) : Action Word64 := do
  let owner ← Address.parse address
  Lease.withConnection fun c => Action.ask c (.pendingNonce owner)

def tokenBalance (address contract : String) : Action TokenAmount := do
  let owner ← Address.parse address
  let contract ← Address.parseContract (some contract)
  Lease.withConnection fun c => Token.amountOf c contract owner

def tokenSymbol (contract : String) : Action String := do
  let contract ← Address.parseContract (some contract)
  Lease.withConnection fun c => Token.symbol c contract

/-- An account with code is a contract. -/
def isContract (address : String) : Action Bool := do
  let account ← Address.parse address
  Lease.withConnection fun c => do return !(← Action.ask c (.code account)).isEmpty

def transaction (hash : String) : Action (Option Transaction) := do
  let hash ← parseHash hash
  Lease.withConnection fun c => Action.ask c (.transaction hash)

def receipt (hash : String) : Action (Option Receipt) := do
  let hash ← parseHash hash
  Lease.withConnection fun c => Action.ask c (.receipt hash)

def block (hash : String) : Action (Option Block) := do
  let hash ← parseHash hash
  Lease.withConnection fun c => Action.ask c (.blockByHash hash)

/-! ## Transfers -/

/-- Submits a request and waits for the outcome. -/
def send (config : Config) (ctx : Context) (request : SendRequest) : Action TransferReceipt :=
  Transfer.sendAndWait config ctx request

/-- Submits a request. -/
def submit (config : Config) (request : SendRequest) : Action Hash := Transfer.sendOnly config request

def sendNative (config : Config) (ctx : Context) (key payee amount : String) : Action TransferReceipt :=
  send config ctx ⟨key, payee, .native amount, .pending⟩

/-- Nonce zero stands for the pending one. -/
def submitNative (config : Config) (key payee amount : String) (nonce : Word64) : Action Hash :=
  submit config ⟨key, payee, .native amount, .explicit nonce⟩

def sendToken (config : Config) (ctx : Context) (key payee amount contract : String) : Action TransferReceipt :=
  send config ctx ⟨key, payee, .token amount (some contract), .pending⟩

/-- The nonce must be given, and must not be below the pending one. -/
def sendTokenGuarded (config : Config) (ctx : Context) (key payee amount contract : String) (nonce : Word64) :
    Action TransferReceipt :=
  send config ctx ⟨key, payee, .token amount (some contract), .guarded nonce⟩

/-- Nonce zero stands for the pending one. -/
def submitToken (config : Config) (key payee amount contract : String) (nonce : Word64) : Action Hash :=
  submit config ⟨key, payee, .token amount (some contract), .explicit nonce⟩

/-- Sends call data to a contract and waits for the outcome. -/
def sendCall (config : Config) (ctx : Context) (key contract : String) (data : Bytes) : Action TransferReceipt :=
  send config ctx ⟨key, contract, .rawCall data, .pending⟩

/-- Submits a raw transaction and waits for the outcome. -/
def sendRaw (config : Config) (ctx : Context) (text : String) : Action (TransferReceipt × Envelope) :=
  Transfer.sendRawAndWait config ctx text

/-- Submits a raw transaction. -/
def submitRaw (text : String) : Action (Hash × Envelope) := Transfer.sendRawOnly text

/-! ## Scans -/

/-- A scanner with the configured pause between blocks. -/
def scanner (config : Config) (lock start : Nat) (handler : Handler) : Except ClientError Scanner :=
  Scanner.ofStart lock start config.scan.blockDelay handler

/-- Scans with the store in the configured directory until the context is done. -/
def startScan (config : Config) (lock : Nat) (ctx : Context) (start period : Nat) (handler : Handler) (polls : Nat) :
    Action ScanEnd := do
  if start < 1 then throw .invalidStartHeight
  Action.openStore config.checkpointDir
  let s ← scanner config lock start handler
  s.run ctx period polls

end Client
end EvmClient
