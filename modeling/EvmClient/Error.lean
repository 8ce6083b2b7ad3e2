import EvmClient.Hex

/-
The errors of the client, by cause.

   `RpcError` is what one call to a node can end with, `ClientError` what an operation of the client
   can. `message` is the text shown to people, `name` the cause shown to programs, and `isRetryable`
   tells the failures that pass by themselves from those that the caller has to mend. -/
namespace EvmClient

/-- How a call to a node failed. -/
inductive RpcError where
  | transport (reason : String)
  | httpStatus (status : Nat)
  | node (code : Int) (reason : String)
  | decode (reason : String)
  | missingResult
  | timeout
  | serialization (reason : String)
deriving DecidableEq, Repr

def RpcError.message : RpcError → String
  | .transport reason => "HTTP 请求失败: " ++ reason
  | .httpStatus status => "HTTP 错误: " ++ toString status
  | .node code reason => "RPC 错误 [" ++ toString code ++ "]: " ++ reason
  | .decode reason => "解析响应失败: " ++ reason
  | .missingResult => "响应中缺少 result 字段"
  | .timeout => "请求超时"
  | .serialization reason => "序列化错误: " ++ reason

def RpcError.name : RpcError → String
  | .transport _ => "Transport"
  | .httpStatus _ => "HttpStatus"
  | .node _ _ => "Rpc"
  | .decode _ => "Decode"
  | .missingResult => "MissingResult"
  | .timeout => "Timeout"
  | .serialization _ => "Serialization"

/-- How an operation of the client failed. -/
inductive ClientError where
  | poolClosed
  | dialFailed (reason : String)
  | invalidAddress (text : String)
  | invalidAmount (text : String)
  | contractAddressRequired
  | nonceRequired
  | nonceTooSmall (given pending : Word64)
  | invalidPrivateKey
  | invalidStartHeight
  | insufficientGas (balance gasCost : Word256)
  | insufficientGasPlusAmount (balance gasCost amount : Word256)
  | insufficientTokenBalance (balance amount : Word256)
  | submit (cause : RpcError)
  | transactionFailed (hash : Hash)
  | receiptReadTimeout (hash : Hash)
  | blockNotFound (height : Nat)
  | rpc (cause : RpcError)
  | decode (reason : String)
  | abi (reason : String)
  | signing (reason : String)
  | checkpointCorrupt (reason : String)
  | io (reason : String)
  | config (reason : String)
deriving DecidableEq

namespace ClientError

def message : ClientError → String
  | .poolClosed => "连接池已关闭"
  | .dialFailed reason => "连接节点失败: " ++ reason
  | .invalidAddress text => "不是合法0x地址: " ++ text
  | .invalidAmount text => "金额有误: " ++ text
  | .contractAddressRequired => "合约地址不能为空"
  | .nonceRequired => "交易序号不能为空"
  | .nonceTooSmall given pending =>
    "交易序号太小: 指定 " ++ toString given.toNat ++ ", 节点 pending nonce " ++ toString pending.toNat
  | .invalidPrivateKey => "错误的私钥"
  | .invalidStartHeight => "起始区块号不能小于 1"
  | .insufficientGas balance gasCost =>
    "交易费不足: 余额 " ++ toString balance.toNat ++ ", gas 费用 " ++ toString gasCost.toNat
  | .insufficientGasPlusAmount balance gasCost amount =>
    "余额小于交易费+转账数量: 余额 " ++ toString balance.toNat ++ ", gas 费用 " ++ toString gasCost.toNat ++
      ", 转账数量 " ++ toString amount.toNat
  | .insufficientTokenBalance balance amount =>
    "代币余额不足: 余额 " ++ toString balance.toNat ++ ", 转账数量 " ++ toString amount.toNat
  | .submit cause => "交易提交失败: " ++ cause.message
  | .transactionFailed hash => "交易失败: " ++ Hex.encode0x hash.toList
  | .receiptReadTimeout hash => "读取交易信息超时: " ++ Hex.encode0x hash.toList
  | .blockNotFound height => "区块不存在: " ++ toString height
  | .rpc cause => "RPC 调用失败: " ++ cause.message
  | .decode reason => "交易解码失败: " ++ reason
  | .abi reason => "ABI 编解码失败: " ++ reason
  | .signing reason => "签名失败: " ++ reason
  | .checkpointCorrupt reason => "检查点数据损坏: " ++ reason
  | .io reason => "IO 错误: " ++ reason
  | .config reason => "配置错误: " ++ reason

/-- The name of the cause; a failed call names what it failed at, too. -/
def name : ClientError → String
  | .poolClosed => "PoolClosed"
  | .dialFailed _ => "DialFailed"
  | .invalidAddress _ => "InvalidAddress"
  | .invalidAmount _ => "InvalidAmount"
  | .contractAddressRequired => "ContractAddressRequired"
  | .nonceRequired => "NonceRequired"
  | .nonceTooSmall _ _ => "NonceTooSmall"
  | .invalidPrivateKey => "InvalidPrivateKey"
  | .invalidStartHeight => "InvalidStartHeight"
  | .insufficientGas _ _ => "InsufficientGas"
  | .insufficientGasPlusAmount _ _ _ => "InsufficientGasPlusAmount"
  | .insufficientTokenBalance _ _ => "InsufficientTokenBalance"
  | .submit cause => "Submit." ++ cause.name
  | .transactionFailed _ => "TransactionFailed"
  | .receiptReadTimeout _ => "ReceiptReadTimeout"
  | .blockNotFound _ => "BlockNotFound"
  | .rpc cause => "Rpc." ++ cause.name
  | .decode _ => "Decode"
  | .abi _ => "Abi"
  | .signing _ => "Signing"
  | .checkpointCorrupt _ => "CheckpointCorrupt"
  | .io _ => "Io"
  | .config _ => "Config"

/-- Whether the failure lies with the node or the medium and may pass by itself. -/
def isRetryable : ClientError → Bool
  | .dialFailed _ | .rpc _ | .receiptReadTimeout _ | .blockNotFound _ | .io _ => true
  | _ => false

end ClientError

/-- Of two steps the second one succeeds only if both do. -/
theorem bind_eq_ok_iff {ε α β : Type} {x : Except ε α} {f : α → Except ε β} {b : β} :
    (x >>= f) = .ok b ↔ ∃ a, x = .ok a ∧ f a = .ok b := by
  cases x with
  | error e => simp [bind, Except.bind]
  | ok a => simp [bind, Except.bind]

end EvmClient
