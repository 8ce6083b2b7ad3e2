import EvmClient.Address
import EvmClient.Amount
import EvmClient.Amount.Double
import EvmClient.Bytes
import EvmClient.Checkpoint
import EvmClient.Checkpoint.Directory
import EvmClient.Checkpoint.Files
import EvmClient.Checkpoint.Path
import EvmClient.Client
import EvmClient.Config
import EvmClient.Confirmation
import EvmClient.Context
import EvmClient.Context.Waiting
import EvmClient.Curve.Ecdsa
import EvmClient.Curve.Secp256k1
import EvmClient.Digest.Keccak
import EvmClient.Digest.Sha256
import EvmClient.Envelope.DynamicFee
import EvmClient.Envelope.Legacy
import EvmClient.Envelope.Raw
import EvmClient.Error
import EvmClient.FailedRecord
import EvmClient.Hex
import EvmClient.Json.Reader
import EvmClient.Json.Record
import EvmClient.Json.Value
import EvmClient.Json.Writer
import EvmClient.Lease
import EvmClient.Main
import EvmClient.Network
import EvmClient.Node
import EvmClient.Node.JsonRpc
import EvmClient.Node.Simulated
import EvmClient.Pool
import EvmClient.Program
import EvmClient.Proofs.AcceptedScans
import EvmClient.Proofs.Actions
import EvmClient.Proofs.AddressText
import EvmClient.Proofs.AmountText
import EvmClient.Proofs.AtomicWrites
import EvmClient.Proofs.CallLoad
import EvmClient.Proofs.ChainView
import EvmClient.Proofs.CheckpointSafety
import EvmClient.Proofs.ClosedPool
import EvmClient.Proofs.ConfigChecks
import EvmClient.Proofs.ConfirmationWait
import EvmClient.Proofs.ContextDone
import EvmClient.Proofs.Course
import EvmClient.Proofs.CurveGroup
import EvmClient.Proofs.CurvePrimes
import EvmClient.Proofs.DamagedHeight
import EvmClient.Proofs.Durability
import EvmClient.Proofs.Exchanges
import EvmClient.Proofs.FacadeCalls
import EvmClient.Proofs.FailureLog
import EvmClient.Proofs.FaultyFiles
import EvmClient.Proofs.FieldForms
import EvmClient.Proofs.Framing
import EvmClient.Proofs.FundsCheck
import EvmClient.Proofs.HeightWriters
import EvmClient.Proofs.HexText
import EvmClient.Proofs.InputErrors
import EvmClient.Proofs.Interleaving
import EvmClient.Proofs.JsonText
import EvmClient.Proofs.KeyText
import EvmClient.Proofs.Law
import EvmClient.Proofs.LeaseReturn
import EvmClient.Proofs.Numerals
import EvmClient.Proofs.PollTimes
import EvmClient.Proofs.PoolCalls
import EvmClient.Proofs.PoolQueue
import EvmClient.Proofs.PoolSafety
import EvmClient.Proofs.Prewarm
import EvmClient.Proofs.RawForms
import EvmClient.Proofs.RecordFields
import EvmClient.Proofs.RecordLines
import EvmClient.Proofs.RequestChecks
import EvmClient.Proofs.Retry
import EvmClient.Proofs.RpcAnswers
import EvmClient.Proofs.ScanOrder
import EvmClient.Proofs.ScanTrail
import EvmClient.Proofs.SenderRecovery
import EvmClient.Proofs.SignatureValue
import EvmClient.Proofs.SigningPayloads
import EvmClient.Proofs.StaleHeights
import EvmClient.Proofs.StoreRefinement
import EvmClient.Proofs.Submission
import EvmClient.Proofs.TickLock
import EvmClient.Proofs.TickProtocol
import EvmClient.Proofs.TickReport
import EvmClient.Proofs.TickSerial
import EvmClient.Proofs.TickTimes
import EvmClient.Proofs.Timeline
import EvmClient.Proofs.TimestampText
import EvmClient.Proofs.TokenCalls
import EvmClient.Proofs.TokenSymbols
import EvmClient.Proofs.TransferDecision
import EvmClient.Proofs.WireRecords
import EvmClient.Proofs.WireText
import EvmClient.Rlp
import EvmClient.Scan
import EvmClient.Signer
import EvmClient.Text.Blank
import EvmClient.Text.Combining
import EvmClient.Text.Composition
import EvmClient.Text.Decimal
import EvmClient.Text.Direction
import EvmClient.Text.Graphic
import EvmClient.Text.Joining
import EvmClient.Text.Lines
import EvmClient.Text.Mark
import EvmClient.Text.Normal
import EvmClient.Text.Parts
import EvmClient.Text.Printed
import EvmClient.Text.Quoted
import EvmClient.Text.Ranges
import EvmClient.Timestamp
import EvmClient.Token
import EvmClient.Token.Reading
import EvmClient.Transfer.Funds
import EvmClient.Transfer.Request
import EvmClient.Transfer.Submission
import EvmClient.Url
import EvmClient.Url.Domain
import EvmClient.Url.Host
import EvmClient.Url.Mapping
import EvmClient.Url.Punycode
import EvmClient.Wire.Block
import EvmClient.Wire.CallRequest
import EvmClient.Wire.Forms
import EvmClient.Wire.Receipt
import EvmClient.Wire.Transaction
import EvmClient.World
