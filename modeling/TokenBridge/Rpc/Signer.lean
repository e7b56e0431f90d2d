import TokenBridge.Config
import TokenBridge.Instruction.Envelope
import TokenBridge.Polling
import TokenBridge.Rpc.Inclusion
import TokenBridge.Rpc.View
import TokenBridge.Wallet.Key
import TokenBridge.Writer

set_option autoImplicit false

/-! # Writing to an EVM chain

A signer hands in contract calls under the account of its key. Each transaction is filled from the
answers of the node, the nonce, the price of gas and the gas it needs, and then sent once; a failed
call is never made again. Whether a transaction was carried out is asked for separately.
-/

namespace TokenBridge.Rpc

structure Signer where
  node : Node
  account : EvmAddress
  chainId : UInt64
  timeoutHeight : UInt64
  timeoutTimestamp : UInt64
  receiptTimeoutSeconds : UInt64

namespace Signer

/-- The signer that a configuration describes. Without a key there is none. -/
def ofConfig (c : EvmConfig) : Except Report Signer := do
  let some secret := c.privateKey | throw (.of "EVM_PRIVATE_KEY is required for the EVM writer")
  let key ← (Wallet.Key.parse secret).mapError fun f => .of s!"Invalid private key: {f.message}"
  let node ← Node.ofUrl c.rpcUrl
  return ⟨node, key.account, c.chainId, c.timeoutHeight, c.timeoutTimestamp,
    c.receiptTimeoutSeconds⟩

/-! ## Transactions -/

/-- Puts a call to the node; `purpose` tells what for. -/
def ask {α : Type} (s : Signer) (purpose : String) (c : Call) (d : Json.Decoder α) :
    Talk Report α :=
  (s.node.call c d).adapt fun f => .under s!"Failed to {purpose}" f.report

/-- Fills a contract call, signs it and hands it in. -/
def send (s : Signer) (target : EvmAddress) (input : Bytes) : Talk Report TxHash := do
  let nonce ← s.ask "get nonce" (.transactionCount s.account) uint64
  let gasPrice ← s.ask "get gas price" .gasPrice price
  let t : Transaction := ⟨s.account, target, input, nonce, gasPrice, s.chainId⟩
  let gasLimit ← s.ask "estimate gas" (.estimateGas t) uint64
  let hash ← s.ask "send transaction" (.sendTransaction t gasLimit) hash
  return Hex.encodeMarked (wordBytes hash)

/-! ## Calls -/

def switchChain (s : Signer) : Talk Report Unit := do
  let found ← s.ask "get chain ID" .chainId uint64
  if found ≠ s.chainId then
    throw (.of s!"Signer RPC is on chain {found.toNat}, expected {s.chainId.toNat}")

def parseAddress (text : String) : Except Report EvmAddress :=
  (EvmAddress.parse text).mapError fun f => .of f.message

def allowance (s : Signer) (token spender : String) : Talk Report Amount := do
  let token ← parseAddress token
  let spender ← parseAddress spender
  let (amount, _) ← s.node.viewFor "get allowance" token Contract.Token.allowance
    (s.account, spender, ())
  return amount

def approve (s : Signer) (token spender : String) (amount : Amount) : Talk Report TxHash := do
  let token ← parseAddress token
  let spender ← parseAddress spender
  s.send token (Contract.Token.approve.call (spender, amount, ()))

/-- The bytes of the contract call for a request. -/
def sendInput (s : Signer) (request : SendRequest) (e : Envelope) : Bytes :=
  Contract.Bridge.send.call (request.endpoint.channel.toBitVec, s.timeoutHeight.toBitVec,
    s.timeoutTimestamp.toBitVec, request.salt, e.toFields, ())

/-- What is checked before anything is asked: there are no funds to attach, and the contract and the
envelope can be read. -/
def checkRequest (request : SendRequest) : Except Report (EvmAddress × Envelope) := do
  if !request.funds.isEmpty then throw (.of "EVM sends do not attach native funds")
  let bridge ← bridgeAddress request.endpoint.contract
  let e ← (Envelope.decode request.instruction).mapError fun f =>
    .of s!"Invalid instruction envelope: {f.message}"
  return (bridge, e)

def submit (s : Signer) (request : SendRequest) : Talk Report TxHash := do
  let (bridge, e) ← checkRequest request
  s.send bridge (s.sendInput request e)

/-! ## Receipts -/

/-- A span of time; none is written with the smallest unit. -/
def showSeconds (n : UInt64) : String := if n = 0 then "0ns" else s!"{n.toNat}s"

/-- What an answer to the question for a receipt decides, if it decides anything. -/
def decideReceipt (url : Url) (hash : TxHash) (o : Http.Outcome) : Option (Except Report Receipt) :=
  match Node.result url Inclusion.decoder o with
  | .error f => some (.error (.under "Failed to get transaction receipt" f.report))
  | .ok none => none
  | .ok (some i) =>
      if i.succeeded then some (.ok ⟨hash, i.block⟩)
      else some (.error (.of s!"Transaction {hash} reverted"))

/-- Half a second passes between two questions. -/
def patience (s : Signer) : Patience := ⟨1000 * s.receiptTimeoutSeconds.toNat, 500, 500⟩

def awaitReceipt (s : Signer) (hash : TxHash) : Talk Report Receipt := do
  let bs ← (ExactHex.decode 32 hash).mapError fun f =>
    Report.of s!"Invalid transaction hash {hash}: {f.message}"
  let late := Report.of
    s!"Transaction {hash} not confirmed after {showSeconds s.receiptTimeoutSeconds}"
  if s.receiptTimeoutSeconds = 0 then throw late
  let url ← s.node.url.mapError fun f =>
    Report.under "Failed to get transaction receipt" (Fault.transport f).report
  ExceptT.mk (.poll s.patience (.transactionReceipt (wordOfBytes bs)) (decideReceipt url hash)
    (.error late))

/-- Carries out a call. -/
def perform (s : Signer) : (c : WriterCall) → Dialogue Call.Answer c.Answer
  | .switchChain => s.switchChain
  | .allowance token spender => s.allowance token spender
  | .approve token spender amount => s.approve token spender amount
  | .submit request => s.submit request
  | .awaitReceipt hash => s.awaitReceipt hash

end Signer
end TokenBridge.Rpc
