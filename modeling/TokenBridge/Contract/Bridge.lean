import TokenBridge.Abi.Function
import TokenBridge.Instruction.Envelope
import TokenBridge.Json.Form

set_option autoImplicit false

/-! # Bridge contracts

The contract at the end of a channel takes an instruction to be carried out on the other side, and
tells which token will stand there for one that is sent to it. On EVM chains it is called with
contract data, on Cosmos chains with data texts.
-/

namespace TokenBridge.Contract

/-! ## Calls -/

namespace Bridge

open Abi

/-- Takes the channel, the height and the time at which the transfer lapses, a salt, and an
envelope. -/
def send : Function :=
  ⟨"send", .of [.uint 32, .uint 64, .uint 64, .bytes32, .tuple Envelope.fields], .nil⟩

/-- Takes a path of channels, a channel, and a token. -/
def predictWrappedToken : Function :=
  ⟨"predictWrappedToken", .of [.uint 256, .uint 32, .bytes], .of [.address, .bytes32]⟩

end Bridge

/-! ## Messages -/

/-- Asks a contract to send an instruction. -/
structure SendMessage where
  channel : UInt32
  timeoutHeight : UInt64
  timeoutTimestamp : UInt64
  salt : String
  instruction : String
  deriving DecidableEq, Repr

/-- Asks which token will stand for another one. -/
structure PredictQuery where
  path : String
  channel : UInt32
  token : String
  deriving DecidableEq, Repr

/-- Asks a token contract how its token is shown. -/
structure TokenInfoQuery where
  deriving DecidableEq, Repr

/-- The counterpart of a token that comes straight through a channel. -/
def PredictQuery.direct (channel : UInt32) (baseToken : Bytes) : PredictQuery :=
  ⟨"0", channel, Hex.encodeMarked baseToken⟩

structure PredictedToken where
  wrappedToken : String
  deriving DecidableEq, Repr

structure TokenInfo where
  name : String
  symbol : String
  decimals : UInt8
  totalSupply : Option String
  deriving DecidableEq, Repr

namespace PredictedToken

inductive Fault
  | unmarked (text : String)
  | badHex (fault : Hex.Fault)
  deriving DecidableEq, Repr

def Fault.message : Fault → String
  | unmarked s => s!"wrapped_token is not 0x-prefixed: {s}"
  | badHex f => s!"Invalid hex in wrapped_token: {f.message}"

/-- The bytes of the predicted token; the mark must be there. -/
def bytes (p : PredictedToken) : Except Fault Bytes :=
  match p.wrappedToken.toList with
  | '0' :: 'x' :: digits => (Hex.decodeText (String.ofList digits)).mapError .badHex
  | _ => .error (.unmarked p.wrappedToken)

end PredictedToken

/-! ## Forms -/

open Json

def SendMessage.read (j : Json) : Except Mismatch SendMessage := do
  let fields ← asRecord "a message with arguments" [
    field "channel_id" (asUnsigned 32) .refused,
    field "timeout_height" (asUnsigned 64) .refused,
    field "timeout_timestamp" (asUnsigned 64) .refused,
    field "salt" asString .refused,
    field "instruction" asString .refused] j
  return {
    channel := UInt32.ofNat (← readField fields "channel_id" (asUnsigned 32))
    timeoutHeight := UInt64.ofNat (← readField fields "timeout_height" (asUnsigned 64))
    timeoutTimestamp := UInt64.ofNat (← readField fields "timeout_timestamp" (asUnsigned 64))
    salt := ← readField fields "salt" asString
    instruction := ← readField fields "instruction" asString }

/-- A message is an object that names what is asked, with its arguments. -/
def readCase {α : Type} (name : String) (read : Json → Except Mismatch α) (j : Json) :
    Except Mismatch α := do
  match ← asVariant j with
  | (found, some content) => if found = name then read content else throw .noCase
  | (_, none) => throw .noCase

def SendMessage.form : Form SendMessage where
  shape := .choice [
    ("send", .flat ["channel_id", "timeout_height", "timeout_timestamp", "salt", "instruction"])]
  read := readCase "send" SendMessage.read
  write := fun m => .object [("send", .object [
    ("channel_id", ofNat m.channel.toNat),
    ("timeout_height", ofNat m.timeoutHeight.toNat),
    ("timeout_timestamp", ofNat m.timeoutTimestamp.toNat),
    ("salt", .string m.salt),
    ("instruction", .string m.instruction)])]

def PredictQuery.read (j : Json) : Except Mismatch PredictQuery := do
  let fields ← asRecord "a query with arguments" [
    field "path" asString .refused,
    field "channel" (asUnsigned 32) .refused,
    field "token" asString .refused] j
  return {
    path := ← readField fields "path" asString
    channel := UInt32.ofNat (← readField fields "channel" (asUnsigned 32))
    token := ← readField fields "token" asString }

def PredictQuery.form : Form PredictQuery where
  shape := .choice [("predict_wrapped_token", .flat ["path", "channel", "token"])]
  read := readCase "predict_wrapped_token" PredictQuery.read
  write := fun q => .object [("predict_wrapped_token", .object [
    ("path", .string q.path), ("channel", ofNat q.channel.toNat), ("token", .string q.token)])]

def TokenInfoQuery.form : Form TokenInfoQuery where
  shape := .choice [("token_info", .flat [])]
  read := readCase "token_info" fun j => do
    let _ ← asRecord "a query without arguments" [] j
    return ⟨⟩
  write := fun _ => .object [("token_info", .object [])]

def PredictedToken.form : Form PredictedToken where
  shape := .flat ["wrapped_token"]
  read := fun j => do
    let fields ← asRecord "struct PredictWrappedTokenResponse"
      [field "wrapped_token" asString .refused] j
    return ⟨← readField fields "wrapped_token" asString⟩
  write := fun p => .object [("wrapped_token", .string p.wrappedToken)]

def TokenInfo.form : Form TokenInfo where
  shape := .flat ["name", "symbol", "decimals", "total_supply"]
  read := fun j => do
    let fields ← asRecord "struct TokenInfoResponse" [
      field "name" asString .refused,
      field "symbol" asString .refused,
      field "decimals" (asUnsigned 8) .refused,
      field "total_supply" (asOptional asString) .defaulted] j
    return {
      name := ← readField fields "name" asString
      symbol := ← readField fields "symbol" asString
      decimals := UInt8.ofNat (← readField fields "decimals" (asUnsigned 8))
      totalSupply := ← readField fields "total_supply" (asOptional asString) }
  write := fun t => .object [
    ("name", .string t.name), ("symbol", .string t.symbol), ("decimals", ofNat t.decimals.toNat),
    ("total_supply", (t.totalSupply.map Json.string).getD .null)]

end TokenBridge.Contract
