import TokenBridge.Text.Hex
import TokenBridge.Text.Blank
import TokenBridge.Text.Base64
import TokenBridge.Text.Bech32
import TokenBridge.Number.Numeral
import TokenBridge.Number.Shortest
import TokenBridge.Text.Quoted
import TokenBridge.Crypto.Secp256k1
import TokenBridge.Report
import TokenBridge.Json.Printer
import TokenBridge.Json.Parser
import TokenBridge.Json.Record
import TokenBridge.Token
import TokenBridge.Channel
import TokenBridge.Intent
import TokenBridge.Abi.Types
import TokenBridge.Abi.Encoding
import TokenBridge.Abi.Decoding
import TokenBridge.Instruction
import TokenBridge.Instruction.Envelope
import TokenBridge.Abi.Function
import TokenBridge.Json.Form
import TokenBridge.Contract.Token
import TokenBridge.Contract.Bridge
import TokenBridge.Reader
import TokenBridge.Simulation.Reader
import TokenBridge.Order.Error
import TokenBridge.Order.Build
import TokenBridge.Batch
import TokenBridge.Dialogue
import TokenBridge.Transfer
import TokenBridge.Writer
import TokenBridge.Submission.Progress
import TokenBridge.Submission.Stage
import TokenBridge.Submission.Transition
import TokenBridge.Submission.Advance
import TokenBridge.Simulation.Writer
import TokenBridge.Simulation.Composing
import TokenBridge.Number.Literal
import TokenBridge.Secret
import TokenBridge.Forms
import TokenBridge.Text.Percent
import TokenBridge.Url
import TokenBridge.Number.RealNumeral
import TokenBridge.Environment
import TokenBridge.Config
import TokenBridge.Http
import TokenBridge.Polling
import TokenBridge.Crypto.Sha256
import TokenBridge.Wallet.Words
import TokenBridge.Text.ExactHex
import TokenBridge.Wallet.Key
import TokenBridge.Wallet.Mnemonic
import TokenBridge.Wallet.DerivationPath
import TokenBridge.Text.Pieces
import TokenBridge.Rpc
import TokenBridge.Rpc.Value
import TokenBridge.Rpc.View
import TokenBridge.Rpc.Signer
import TokenBridge.Lcd
import TokenBridge.Lcd.Query
import TokenBridge.Lcd.Account
import TokenBridge.Lcd.TxResult
import TokenBridge.Lcd.Signer
import TokenBridge.Proofs.Conversation
import TokenBridge.Proofs.Submission.History
import TokenBridge.Proofs.Submission.Lane
import TokenBridge.Proofs.Submission.ApprovalSafety
import TokenBridge.Proofs.Submission.SingleSend
import TokenBridge.Proofs.Simulation.Books
import TokenBridge.Proofs.Submission.Termination
import TokenBridge.Proofs.Submission.Deeds
import TokenBridge.Proofs.Submission.ExactlyOnce
import TokenBridge.Proofs.Abi.Words
import TokenBridge.Proofs.Text.Utf8
import TokenBridge.Proofs.Text.Hex
import TokenBridge.Proofs.Abi.Layout
import TokenBridge.Proofs.Abi.RoundTrip
import TokenBridge.Proofs.Instruction.RoundTrip
import TokenBridge.Proofs.Outcome
import TokenBridge.Proofs.Order.Build
import TokenBridge.Proofs.Batch.Composition
import TokenBridge.Proofs.Batch.Questions
import TokenBridge.Proofs.Abi.Canonical
import TokenBridge.Proofs.Instruction.Canonical
import TokenBridge.Proofs.Address.Evm
import TokenBridge.Proofs.Transfer
import TokenBridge.Proofs.Submission.Funding
import TokenBridge.Proofs.Order.Single
import TokenBridge.Proofs.Batch.Retry
import TokenBridge.Proofs.Batch.Timing
import TokenBridge.Proofs.Submission.Standing
import TokenBridge.Proofs.Submission.Turn
import TokenBridge.Proofs.Submission.Progression
import TokenBridge.Proofs.Submission.WriteAhead
import TokenBridge.Proofs.Submission.Duration
import TokenBridge.Proofs.Transfer.Refusal
import TokenBridge.Proofs.Rpc.Asking
import TokenBridge.Proofs.Rpc.Calldata
import TokenBridge.Proofs.Json.Number
import TokenBridge.Proofs.Json.String
import TokenBridge.Proofs.Json.Record
import TokenBridge.Proofs.Json.RoundTrip
import TokenBridge.Proofs.Lcd.Asking
import TokenBridge.Proofs.Lcd.Message
import TokenBridge.Proofs.Abi.Extension
import TokenBridge.Proofs.Instruction.Distinct
import TokenBridge.Proofs.ActsOnce
import TokenBridge.Proofs.HandedIn
import TokenBridge.Proofs.Text.Bech32
import TokenBridge.Proofs.Address.Cosmos
import TokenBridge.Proofs.Address.Mistyped
import TokenBridge.Proofs.Batch.Readiness
import TokenBridge.Proofs.Submission.ExchangedTransfer
import TokenBridge.Proofs.Forms
import TokenBridge.Proofs.Config.Secrecy
import TokenBridge.Proofs.Instruction.FirstFault
import TokenBridge.Proofs.Transfer.Aggregation
import TokenBridge.Proofs.Simulation.Composing
import TokenBridge.Proofs.Batch.Reads
import TokenBridge.Proofs.Text.Base64
import TokenBridge.Proofs.Url.Path
import TokenBridge.Proofs.Identifier
import TokenBridge.Proofs.Lcd.Query
import TokenBridge.Proofs.Lcd.Contract
import TokenBridge.Proofs.Channel
import TokenBridge.Proofs.Submission.FirstShort
import TokenBridge.Proofs.Token
import TokenBridge.Proofs.Number.Numeral
import TokenBridge.Proofs.Lcd.Account
import TokenBridge.Proofs.Polling
import TokenBridge.Proofs.Json.Table
import TokenBridge.Proofs.Json.Decoder
import TokenBridge.Proofs.Lcd.TxResult
import TokenBridge.Proofs.Receipts
