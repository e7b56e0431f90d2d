import TokenBridge.Config
import TokenBridge.Contract.Bridge
import TokenBridge.Lcd.Account
import TokenBridge.Lcd.TxResult
import TokenBridge.Polling
import TokenBridge.Text.Bech32
import TokenBridge.Text.Quoted
import TokenBridge.Wallet.DerivationPath
import TokenBridge.Wallet.Mnemonic

set_option autoImplicit false

/-! # Writing to a Cosmos chain

A signer sends messages to contracts under the account that its wallet derives from a mnemonic. Each
transaction is numbered from what the server tells of the account, and then sent once; a failed one
is never sent again. Whether a transaction was carried out is asked for separately.
-/

namespace TokenBridge.Lcd

/-- Derives the address of an account, which starts with a given text. -/
abbrev Derivation := Wallet.Mnemonic → Wallet.DerivationPath → String → String

structure Signer where
  server : String
  address : String
  chainId : String
  feeDenom : String
  gasPrice : Binary64
  gasLimit : UInt64
  timeoutHeight : UInt64
  timeoutTimestamp : UInt64
  receiptTimeoutSeconds : UInt64

namespace Signer

/-- Addresses can start with such a text. -/
def isAddressPrefix (s : String) : Bool := s.toList.all fun c => c.isLower || c.isDigit

/-- The signer that a configuration describes. Without a mnemonic there is none. -/
def ofConfig (derive : Derivation) (c : CosmosConfig) : Except Report Signer := do
  let some secret := c.mnemonic | throw (.of "COSMOS_MNEMONIC is required for the Cosmos writer")
  let mnemonic ← (Wallet.Mnemonic.parse secret.expose).mapError fun f =>
    .of s!"Invalid mnemonic: {f.message}"
  let path ← (Wallet.DerivationPath.parse c.derivationPath).mapError fun f =>
    .of s!"Invalid derivation path: {f.message}"
  if !isAddressPrefix c.addressPrefix then
    throw (.under "Failed to get account ID"
      (.of "expected prefix to be lowercase alphanumeric characters only"))
  return {
    server := Config.dropSlashes c.lcdUrl
    address := derive mnemonic path c.addressPrefix
    chainId := c.chainId
    feeDenom := c.feeDenom
    gasPrice := c.gasPrice
    gasLimit := c.gasLimit
    timeoutHeight := c.timeoutHeight
    timeoutTimestamp := c.timeoutTimestamp
    receiptTimeoutSeconds := c.receiptTimeoutSeconds }

/-! ## What is checked before sending -/

/-- A denomination has 3 to 128 letters, digits or some signs. -/
def checkDenom (context denom : String) : Except Report Unit :=
  let isDenomChar (c : Char) : Bool := c.isAlphanum || "/:._-".toList.contains c
  if 3 ≤ denom.length ∧ denom.length ≤ 128 ∧ denom.toList.all isDenomChar then .ok ()
  else .error (.of s!"Invalid {context} denom '{denom}': invalid denomination: {Quoted.text denom}")

/-- The text in lower case, if it is written in one case throughout. -/
def ofOneCase (s : String) : Option (List Char) :=
  let cs := s.toList
  if cs.any Char.isUpper && cs.any Char.isLower then none else some (cs.map Char.toLower)

/-- The address of a contract, in lower case. Its check sum is of the first kind. -/
def contractAddress (contract : String) : Except Report String :=
  let text? : Option String := do
    let text ← ofOneCase contract
    let (hrp, data) ← Bech32.splitLast text
    let symbols ← data.mapM Bech32.symbol?
    guard (6 ≤ symbols.length ∧ Bech32.residue (Bech32.expand hrp ++ symbols) = 1)
    let bs ← Bech32.payload? (symbols.take (symbols.length - 6))
    guard (bs.length ≤ 255)
    return String.ofList text
  match text? with
  | some text => .ok text
  | none => .error (.of s!"Invalid contract address: invalid bech32: '{contract}'")

/-- A chain is named by 1 to 50 letters, digits or some signs. -/
def checkChainId (chainId : String) : Except Report Unit :=
  let isIdChar (c : Char) : Bool := c.isAlphanum || "-_.".toList.contains c
  if 1 ≤ chainId.length ∧ chainId.length ≤ 50 ∧ chainId.toList.all isIdChar then .ok ()
  else .error (.of "Invalid chain ID")

/-- The price of all the gas, rounded up. -/
def feeAmount (s : Signer) : BitVec 128 :=
  BitVec.ofNat 128
    (((Binary64.ofNat s.gasLimit.toNat).mul s.gasPrice).ceilClamped (Nat.pow 2 128 - 1))

/-! ## Transactions -/

/-- The transaction that carries a message to a contract. -/
def transaction (s : Signer) (account : AccountInfo) (contract message : String)
    (funds : List Funds) : Except Report Transaction := do
  funds.forM fun f => checkDenom "coin" f.denom
  let contract ← contractAddress contract
  checkDenom "fee" s.feeDenom
  checkChainId s.chainId
  return {
    sender := s.address
    contract := contract
    message := message
    funds := funds
    chainId := s.chainId
    accountNumber := account.number
    sequence := account.sequence
    fee := ⟨s.feeDenom, s.feeAmount⟩
    gasLimit := s.gasLimit }

/-- What stands for the answer to a broadcast that cannot be read. -/
def unreadable : Json := .object [("error", .string "Failed to parse response")]

/-- The hash of a transaction that was taken. -/
def acceptedHash (r : Http.Response) : Except Report TxHash :=
  let answer := (r.json.toOption).getD unreadable
  if !r.isSuccess then
    .error (.of s!"Broadcast failed (HTTP {Http.showStatus r.status}): {answer.print}")
  else
    match TxResult.ofAnswer? answer with
    | none => .error (.of s!"Missing tx_response in broadcast result: {answer.print}")
    | some t =>
        if t.code ≠ 0 then
          .error (.of s!"Transaction rejected (code {t.code.toNat}): {t.log}")
        else if t.hash = "" then
          .error (.of s!"Broadcast result has no txhash: {answer.print}")
        else .ok t.hash

def broadcast (s : Signer) (t : Transaction) : Talk Report TxHash := do
  let r ← (put s.server "/cosmos/tx/v1beta1/txs" fun url => .broadcast url t).adapt fun f =>
    Report.under "Failed to broadcast transaction" f.report
  acceptedHash r

/-- Sends a message to a contract. -/
def execute (s : Signer) (contract message : String) (funds : List Funds) : Talk Report TxHash := do
  let account ← accountInfo s.server s.address
  let t ← s.transaction account contract message funds
  s.broadcast t

/-! ## Calls -/

def switchChain (s : Signer) : Talk Report Unit := do
  let info ← getJson s.server "/cosmos/base/tendermint/v1beta1/node_info" "node info"
  let network := (info.field? "default_node_info").bind fun node => node.field? "network"
  match network.bind Json.string? with
  | none => throw (.of "Missing network in node info")
  | some found =>
      if found ≠ s.chainId then
        throw (.of s!"LCD serves chain {found}, expected {s.chainId}")

/-- The message for a request. -/
def message (s : Signer) (request : SendRequest) : Contract.SendMessage where
  channel := request.endpoint.channel
  timeoutHeight := s.timeoutHeight
  timeoutTimestamp := s.timeoutTimestamp
  salt := Hex.encodeMarked (wordBytes request.salt)
  instruction := Hex.encodeMarked request.instruction

def submit (s : Signer) (request : SendRequest) : Talk Report TxHash :=
  s.execute request.endpoint.contract (Contract.SendMessage.form.print (s.message request))
    request.funds

/-- Pauses of half a second at first, and of three seconds at most. -/
def patience (s : Signer) : Patience := ⟨1000 * s.receiptTimeoutSeconds.toNat, 500, 3000⟩

def awaitReceipt (s : Signer) (hash : TxHash) : Talk Report Receipt := do
  let late := Report.of s!"Timeout waiting for transaction {hash} to be confirmed"
  if s.receiptTimeoutSeconds = 0 then throw late
  let url ← (Http.resolve s.server s!"/cosmos/tx/v1beta1/txs/{hash}").mapError fun f =>
    Report.under "Failed to query transaction status" f.report
  ExceptT.mk (.poll s.patience (.get url) (TxResult.decide hash url) (.error late))

/-- Carries out a call. -/
def perform (s : Signer) : (c : WriterCall) → Dialogue Request.Answer c.Answer
  | .switchChain => s.switchChain
  | .allowance .. => return .error (noAllowances .cosmos)
  | .approve .. => return .error (noAllowances .cosmos)
  | .submit request => s.submit request
  | .awaitReceipt hash => s.awaitReceipt hash

end Signer
end TokenBridge.Lcd
