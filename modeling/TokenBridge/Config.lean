import TokenBridge.Environment
import TokenBridge.Number.Numeral
import TokenBridge.Number.RealNumeral
import TokenBridge.Report
import TokenBridge.Secret
import TokenBridge.Token
import TokenBridge.Url

set_option autoImplicit false

/-! # Configuration

Which chains can be reached, and how. A chain is configured when its endpoint is; everything that
has a usual value may be left out. What is given must be usable as a whole.
-/

namespace TokenBridge

structure EvmConfig where
  rpcUrl : String
  chainId : UInt64
  privateKey : Option Secret
  receiptTimeoutSeconds : UInt64
  timeoutHeight : UInt64
  /-- In nanoseconds. -/
  timeoutTimestamp : UInt64
  deriving DecidableEq, Repr

structure CosmosConfig where
  lcdUrl : String
  chainId : String
  mnemonic : Option Secret
  addressPrefix : String
  derivationPath : String
  feeDenom : String
  gasPrice : Binary64
  gasLimit : UInt64
  /-- Coins whose metadata is known, and which are attached to messages. -/
  nativeDenoms : List String
  timeoutHeight : UInt64
  timeoutTimestamp : UInt64
  receiptTimeoutSeconds : UInt64
  deriving DecidableEq, Repr

structure Config where
  evm : Option EvmConfig
  cosmos : Option CosmosConfig
  deriving DecidableEq, Repr

namespace Config

/-! ## Reading -/

/-- A 64-bit number, if the name has a value. -/
def readUInt64 (e : Environment) (name : String) : Except Report (Option UInt64) :=
  match e.get? name with
  | none => .ok none
  | some text =>
      match Numeral.readUInt64 (Blank.trim text) with
      | .ok n => .ok (some n)
      | .error f => .error (.under s!"{name} must be a valid u64" (.of f.message))

def required {α : Type} (name : String) : Option α → Except Report α
  | some a => .ok a
  | none => .error (.of s!"{name} environment variable is required")

def readEvm (e : Environment) (rpcUrl : String) : Except Report EvmConfig := do
  let chainId ← required "EVM_CHAIN_ID" (← readUInt64 e "EVM_CHAIN_ID")
  let receiptTimeout ← readUInt64 e "EVM_RECEIPT_TIMEOUT_SECS"
  let timeoutHeight ← readUInt64 e "EVM_TIMEOUT_HEIGHT"
  let timeoutTimestamp ← readUInt64 e "EVM_TIMEOUT_TIMESTAMP"
  return {
    rpcUrl := rpcUrl
    chainId := chainId
    privateKey := (e.get? "EVM_PRIVATE_KEY").map Secret.mk
    receiptTimeoutSeconds := receiptTimeout.getD 120
    timeoutHeight := timeoutHeight.getD 0
    timeoutTimestamp := timeoutTimestamp.getD 1000000000000 }

/-- The price of one unit of gas. -/
def readGasPrice (e : Environment) : Except Report (Option Binary64) :=
  match e.get? "COSMOS_GAS_PRICE" with
  | none => .ok none
  | some text =>
      match RealNumeral.read (Blank.trim text) with
      | .ok x => .ok (some x)
      | .error f => .error (.under "COSMOS_GAS_PRICE must be a number" (.of f.message))

/-- The entries of a list with commas between them; empty ones do not count. -/
def readList (text : String) : List String :=
  ((Pieces.cut (· = ',') text.toList).map fun cs => Blank.trim (String.ofList cs)).filter (· ≠ "")

/-- A URL without the slashes at its end. -/
def dropSlashes (url : String) : String :=
  String.ofList (url.toList.reverse.dropWhile (· = '/')).reverse

def readCosmos (e : Environment) (lcdUrl : String) : Except Report CosmosConfig := do
  let chainId ← required "COSMOS_CHAIN_ID" (e.get? "COSMOS_CHAIN_ID")
  let gasPrice ← readGasPrice e
  let gasLimit ← readUInt64 e "COSMOS_GAS_LIMIT"
  let timeoutHeight ← readUInt64 e "COSMOS_TIMEOUT_HEIGHT"
  let timeoutTimestamp ← readUInt64 e "COSMOS_TIMEOUT_TIMESTAMP"
  let receiptTimeout ← readUInt64 e "COSMOS_RECEIPT_TIMEOUT_SECS"
  return {
    lcdUrl := dropSlashes lcdUrl
    chainId := chainId
    mnemonic := (e.get? "COSMOS_MNEMONIC").map Secret.mk
    addressPrefix := (e.get? "COSMOS_BECH32_PREFIX").getD "union"
    derivationPath := (e.get? "COSMOS_DERIVATION_PATH").getD "m/44'/118'/0'/0/0"
    feeDenom := (e.get? "COSMOS_FEE_DENOM").getD "muno"
    gasPrice := gasPrice.getD (Binary64.ofDecimal false 25 (-3))
    gasLimit := gasLimit.getD 500000
    nativeDenoms := ((e.get? "COSMOS_NATIVE_DENOMS").map readList).getD ["ubbn", "muno"]
    timeoutHeight := timeoutHeight.getD 10000000
    timeoutTimestamp := timeoutTimestamp.getD 0
    receiptTimeoutSeconds := receiptTimeout.getD 120 }

/-- The configuration that an environment gives, unchecked. -/
def read (e : Environment) : Except Report Config := do
  let evm ← (e.get? "EVM_RPC_URL").mapM (readEvm e)
  let cosmos ← (e.get? "COSMOS_LCD_URL").mapM (readCosmos e)
  return ⟨evm, cosmos⟩

/-! ## Checking -/

def ensure (condition : Bool) (message : String) : Except Report Unit :=
  if condition then .ok () else .error (.of message)

/-- An endpoint must be a URL that is reached by the protocol of the web. -/
def checkUrl (url name : String) : Except Report Unit :=
  match Url.parse url with
  | .error f => .error (.of s!"{name} must be a valid URL: {f.message}")
  | .ok u =>
      ensure (u.scheme = "http" || u.scheme = "https")
        s!"{name} must use http:// or https:// scheme, got {u.scheme}"

/-- A key is 64 digits after their mark; that they are digits is seen when the key is used. -/
def checkKey (key : Secret) : Except Report Unit :=
  ensure (key.expose.utf8ByteSize = 66 && "0x".isPrefixOf key.expose)
    "EVM_PRIVATE_KEY must be 66 chars (0x + 64 hex chars)"

def checkEvm (c : EvmConfig) : Except Report Unit := do
  checkUrl c.rpcUrl "EVM_RPC_URL"
  ensure (c.chainId ≠ 0) "EVM_CHAIN_ID cannot be 0"
  if let some key := c.privateKey then checkKey key
  ensure (c.timeoutHeight ≠ 0 || c.timeoutTimestamp ≠ 0)
    "EVM send needs a timeout height or timestamp"

def checkDenom (denom context : String) : Except Report Unit :=
  (Denom.validate denom).mapError fun f => .under context (.of f.message)

def checkCosmos (c : CosmosConfig) : Except Report Unit := do
  checkUrl c.lcdUrl "COSMOS_LCD_URL"
  ensure (c.chainId ≠ "") "COSMOS_CHAIN_ID cannot be empty"
  if let some mnemonic := c.mnemonic then
    ensure (12 ≤ (Blank.words mnemonic.expose).length)
      "COSMOS_MNEMONIC must have at least 12 words"
  ensure (c.addressPrefix ≠ "") "COSMOS_BECH32_PREFIX cannot be empty"
  ensure (c.gasPrice.isFinite && c.gasPrice.isPositive) "COSMOS_GAS_PRICE must be positive"
  checkDenom c.feeDenom "Invalid COSMOS_FEE_DENOM"
  c.nativeDenoms.forM fun d => checkDenom d s!"Invalid entry in COSMOS_NATIVE_DENOMS: {d}"
  ensure (c.timeoutHeight ≠ 0 || c.timeoutTimestamp ≠ 0)
    "Cosmos send needs a timeout height or timestamp"

def check (c : Config) : Except Report Unit := do
  if let some evm := c.evm then checkEvm evm
  if let some cosmos := c.cosmos then checkCosmos cosmos

/-! ## Loading -/

/-- The configuration that an environment gives. -/
def ofEnvironment (e : Environment) : Except Report Config := do
  let c ← read e
  check c
  return c

/-- The configuration that an environment and the settings of a file give, if there is a file. -/
def load (e : Environment) (file : Option String) : Except Report Config :=
  match file with
  | none => ofEnvironment e
  | some text =>
      match e.load text with
      | .ok e => ofEnvironment e
      | .error b => .error (.under "Failed to load .env file from .env" (.of b.message))

end Config
end TokenBridge
