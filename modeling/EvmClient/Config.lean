import EvmClient.Json.Reader
import EvmClient.Network
import EvmClient.Url

/-
The configuration of the client.

   Every field has a default, so a file or the environment states only what differs. A configuration is
   used after `validate` has accepted it. All durations are in milliseconds. -/
namespace EvmClient

/-- How the outcome of a transaction is waited for. -/
structure ConfirmationConfig where
  pollInterval : Nat
  /-- After so many questions the transaction is given up as unconfirmed. -/
  maxRetries : Nat
deriving DecidableEq

structure ScanConfig where
  /-- The height above which the first scan begins. -/
  startHeight : Nat
  pollInterval : Nat
  /-- The pause between two blocks. -/
  blockDelay : Nat
deriving DecidableEq

structure Config where
  endpoint : String
  /-- How many idle connections are kept; zero stands for the default. -/
  poolSize : Nat
  chain : Word64
  dialTimeout : Nat
  nativeDecimals : Nat
  nativeGasLimit : Word64
  confirmation : ConfirmationConfig
  scan : ScanConfig
  checkpointDir : String
  logLevel : String
deriving DecidableEq

namespace ConfirmationConfig

def standard : ConfirmationConfig := ⟨1000, 24⟩

def toJson (c : ConfirmationConfig) : Json :=
  .object [("poll_interval_ms", Json.ofNat c.pollInterval), ("max_retries", Json.ofNat c.maxRetries)]

def ofJson? (j : Json) : Option ConfirmationConfig := do
  let f ← j.fields? ["poll_interval_ms", "max_retries"]
  return {
    pollInterval := ← f.orDefault "poll_interval_ms" standard.pollInterval (Json.asNat? UInt64.size)
    maxRetries := ← f.orDefault "max_retries" standard.maxRetries (Json.asNat? UInt32.size) }

end ConfirmationConfig

namespace ScanConfig

def standard : ScanConfig := ⟨1, 1000, 1000⟩

def toJson (c : ScanConfig) : Json :=
  .object [("start_height", Json.ofNat c.startHeight), ("poll_interval_ms", Json.ofNat c.pollInterval),
    ("block_delay_ms", Json.ofNat c.blockDelay)]

def ofJson? (j : Json) : Option ScanConfig := do
  let f ← j.fields? ["start_height", "poll_interval_ms", "block_delay_ms"]
  return {
    startHeight := ← f.orDefault "start_height" standard.startHeight (Json.asNat? UInt64.size)
    pollInterval := ← f.orDefault "poll_interval_ms" standard.pollInterval (Json.asNat? UInt64.size)
    blockDelay := ← f.orDefault "block_delay_ms" standard.blockDelay (Json.asNat? UInt64.size) }

end ScanConfig

namespace Config

def forNetwork (n : Network) : Config where
  endpoint := n.endpoint
  poolSize := 0
  chain := n.chain
  dialTimeout := 10000
  nativeDecimals := Network.nativeDecimals
  nativeGasLimit := Network.nativeGasLimit
  confirmation := .standard
  scan := .standard
  checkpointDir := "."
  logLevel := "info"

def standard : Config := forNetwork .main

/-- The greatest chain for which every value `v` of a signature fits in 64 bits. -/
def maxChain : Nat := (UInt64.size - 1 - 36) / 2

/-- The checks in their order: the endpoint, the decimals, the chain, the gas limit. -/
def validate (c : Config) : Except ClientError Unit :=
  match Url.scheme c.endpoint with
  | .error e => .error (.config ("endpoint 不是合法 URL `" ++ c.endpoint ++ "`: " ++ e.message))
  | .ok scheme =>
    if scheme ≠ "http" ∧ scheme ≠ "https" then
      .error (.config ("endpoint 只支持 http(s)，实际为 `" ++ scheme ++ "`"))
    else if 77 < c.nativeDecimals then .error (.config ("native_decimals 超出范围: " ++ toString c.nativeDecimals))
    else if c.chain = 0 ∨ maxChain < c.chain.toNat then
      .error (.config ("chain_id 超出范围: " ++ toString c.chain.toNat))
    else if c.nativeGasLimit = 0 then .error (.config "native_gas_limit 不能为 0")
    else .ok ()

/-! ## Files -/

def toJson (c : Config) : Json :=
  .object [("endpoint", .string c.endpoint), ("pool_size", Json.ofNat c.poolSize),
    ("chain_id", Json.ofNat c.chain.toNat), ("dial_timeout_ms", Json.ofNat c.dialTimeout),
    ("native_decimals", Json.ofNat c.nativeDecimals), ("native_gas_limit", Json.ofNat c.nativeGasLimit.toNat),
    ("confirmation", c.confirmation.toJson), ("scan", c.scan.toJson), ("checkpoint_dir", .string c.checkpointDir),
    ("log_level", .string c.logLevel)]

def fieldNames : List String :=
  ["endpoint", "pool_size", "chain_id", "dial_timeout_ms", "native_decimals", "native_gas_limit", "confirmation",
   "scan", "checkpoint_dir", "log_level"]

def ofJson? (j : Json) : Option Config := do
  let word? (j : Json) : Option Word64 := (Json.asNat? UInt64.size j).map (BitVec.ofNat 64)
  let f ← j.fields? fieldNames
  return {
    endpoint := ← f.orDefault "endpoint" standard.endpoint Json.asString?
    poolSize := ← f.orDefault "pool_size" standard.poolSize (Json.asNat? UInt64.size)
    chain := ← f.orDefault "chain_id" standard.chain word?
    dialTimeout := ← f.orDefault "dial_timeout_ms" standard.dialTimeout (Json.asNat? UInt64.size)
    nativeDecimals := ← f.orDefault "native_decimals" standard.nativeDecimals (Json.asNat? 256)
    nativeGasLimit := ← f.orDefault "native_gas_limit" standard.nativeGasLimit word?
    confirmation := ← f.orDefault "confirmation" standard.confirmation ConfirmationConfig.ofJson?
    scan := ← f.orDefault "scan" standard.scan ScanConfig.ofJson?
    checkpointDir := ← f.orDefault "checkpoint_dir" standard.checkpointDir Json.asString?
    logLevel := ← f.orDefault "log_level" standard.logLevel Json.asString? }

/-- The configuration in a file, given by the file's bytes or by the reason why it cannot be read. -/
def ofFile (path : String) (content : Except String Bytes) : Except ClientError Config :=
  let text := content.bind fun b =>
    match String.fromUTF8? ⟨b.toArray⟩ with
    | some s => .ok s
    | none => .error "stream did not contain valid UTF-8"
  match text with
  | .error reason => .error (.config ("读取 " ++ path ++ " 失败: " ++ reason))
  | .ok s =>
    match (Json.ofText? s).bind ofJson? with
    | none => .error (.config ("解析 " ++ path ++ " 失败: the text is no configuration"))
    | some c =>
      match c.validate with
      | .error e => .error e
      | .ok () => .ok c

/-! ## Environment -/

/-- The names of the variables that have a say. -/
def settings : List String :=
  ["FIBO_NETWORK", "FIBO_ENDPOINT", "FIBO_POOL_SIZE", "FIBO_CHAIN_ID", "FIBO_CHECKPOINT_DIR", "FIBO_START_HEIGHT",
   "FIBO_LOG_LEVEL"]

/-- The value of a variable without the blanks around it; a blank one counts as unset. -/
def setting? (env : String → Option String) (key : String) : Option String :=
  match env key with
  | none => none
  | some v =>
    let trimmed := Text.trim v.toList
    if trimmed = [] then none else some (String.ofList trimmed)

/-- A number of at most 64 bits, or the default where the variable is unset. -/
def numberOf (env : String → Option String) (key : String) (default : Nat) : Except ClientError Nat :=
  match setting? env key with
  | none => .ok default
  | some raw =>
    match Decimal.unsigned? UInt64.size raw.toList with
    | some n => .ok n
    | none => .error (.config (key ++ " 不是合法数字: " ++ raw))

/-- The configuration that the environment states, the network first. -/
def ofEnvironment (env : String → Option String) : Except ClientError Config := do
  let network ← match setting? env "FIBO_NETWORK" with
    | some raw => Network.parse raw
    | none => .ok .main
  let base := forNetwork network
  let poolSize ← numberOf env "FIBO_POOL_SIZE" base.poolSize
  let chain ← numberOf env "FIBO_CHAIN_ID" base.chain.toNat
  let startHeight ← numberOf env "FIBO_START_HEIGHT" base.scan.startHeight
  let config := { base with
    endpoint := (setting? env "FIBO_ENDPOINT").getD base.endpoint
    poolSize := poolSize
    chain := BitVec.ofNat 64 chain
    scan := { base.scan with startHeight := startHeight }
    checkpointDir := (setting? env "FIBO_CHECKPOINT_DIR").getD base.checkpointDir
    logLevel := (setting? env "FIBO_LOG_LEVEL").getD base.logLevel }
  config.validate
  return config

end Config
end EvmClient
