import TokenBridge.Batch
import TokenBridge.Json.Form
import TokenBridge.Number.Literal
import TokenBridge.Writer

set_option autoImplicit false

/-! # Forms of requests and receipts

How requests, channels, tokens and receipts stand in data texts. Amounts are written as strings of
hexadecimal digits; they are read from literals of any base, and from numbers of up to 64 bits.
-/

namespace TokenBridge

open Json

/-! ## Single values -/

namespace ChainFamily

/-- A family is written as its name; an object that names it with nothing else is read as well. -/
def form : Form ChainFamily where
  shape := .all
  read := fun j => do
    match ← asVariant j with
    | (name, none) | (name, some .null) =>
        match ofName? name with
        | some f => return f
        | none => throw .noCase
    | _ => throw .noCase
  write := fun f => .string f.name

end ChainFamily

def CosmosAddress.form : Form CosmosAddress :=
  Form.string.via (fun s => (parse s).toOption) CosmosAddress.text

def TxHash.form : Form TxHash := Form.string

namespace Amount

def read (j : Json) : Except Mismatch Amount :=
  match j with
  | .string s =>
      match Literal.read s with
      | some n =>
          if n < Nat.pow 2 256 then .ok (BitVec.ofNat 256 n) else .error (.unfit "too large")
      | none => .error (.unfit "no number")
  | other => (asUnsigned 64 other).map fun n => BitVec.ofNat 256 n

def form : Form Amount := ⟨.all, read, fun a => .string (Hex.quantity a.toNat)⟩

end Amount

/-! ## Records -/

def TokenMetadata.form : Form TokenMetadata where
  shape := .flat ["symbol", "name", "decimals"]
  read := fun j => do
    let fields ← asRecord "struct TokenMetadata" [
      field "symbol" asString .refused,
      field "name" asString .refused,
      field "decimals" (asUnsigned 8) .refused] j
    return {
      symbol := ← readField fields "symbol" asString
      name := ← readField fields "name" asString
      decimals := UInt8.ofNat (← readField fields "decimals" (asUnsigned 8)) }
  write := fun m => .object [
    ("symbol", .string m.symbol), ("name", .string m.name), ("decimals", ofNat m.decimals.toNat)]

def Channel.form : Form Channel where
  shape := .flat
    ["source_channel_id", "destination_channel_id", "source_port_id", "destination_port_id"]
  read := fun j => do
    let fields ← asRecord "struct Channel" [
      field "source_channel_id" (asUnsigned 32) .refused,
      field "destination_channel_id" (asUnsigned 32) .refused,
      field "source_port_id" asString .refused,
      field "destination_port_id" asString .refused] j
    return {
      sourceId := UInt32.ofNat (← readField fields "source_channel_id" (asUnsigned 32))
      destinationId := UInt32.ofNat (← readField fields "destination_channel_id" (asUnsigned 32))
      sourcePort := ← readField fields "source_port_id" asString
      destinationPort := ← readField fields "destination_port_id" asString }
  write := fun c => .object [
    ("source_channel_id", ofNat c.sourceId.toNat),
    ("destination_channel_id", ofNat c.destinationId.toNat),
    ("source_port_id", .string c.sourcePort),
    ("destination_port_id", .string c.destinationPort)]

def Endpoint.form : Form Endpoint where
  shape := .flat ["channel_id", "contract"]
  read := fun j => do
    let fields ← asRecord "struct Endpoint" [
      field "channel_id" (asUnsigned 32) .refused,
      field "contract" asString .refused] j
    return {
      channel := UInt32.ofNat (← readField fields "channel_id" (asUnsigned 32))
      contract := ← readField fields "contract" asString }
  write := fun e => .object [
    ("channel_id", ofNat e.channel.toNat), ("contract", .string e.contract)]

def Receipt.form : Form Receipt where
  shape := .flat ["tx_hash", "height"]
  read := fun j => do
    let fields ← asRecord "struct Receipt" [
      field "tx_hash" asString .refused,
      field "height" (asOptional (asUnsigned 64)) .optional] j
    return {
      hash := ← readField fields "tx_hash" asString
      height := (← readField fields "height" (asOptional (asUnsigned 64))).map UInt64.ofNat }
  write := fun r => .object [
    ("tx_hash", .string r.hash),
    ("height", (r.height.map fun h => ofNat h.toNat).getD .null)]

def Funds.form : Form Funds where
  shape := .flat ["denom", "amount"]
  read := fun j => do
    let fields ← asRecord "struct Funds" [
      field "denom" asString .refused,
      field "amount" (asUnsigned 128) .refused] j
    return {
      denom := ← readField fields "denom" asString
      amount := BitVec.ofNat 128 (← readField fields "amount" (asUnsigned 128)) }
  write := fun f => .object [("denom", .string f.denom), ("amount", ofNat f.amount.toNat)]

def Intent.form : Form Intent where
  shape := .flat ["sender", "receiver", "baseToken", "baseAmount", "quoteAmount"]
  read := fun j => do
    let fields ← asRecord "struct Intent" [
      field "sender" asString .refused,
      field "receiver" asString .refused,
      field "baseToken" asString .refused,
      field "baseAmount" Amount.read .refused,
      field "quoteAmount" Amount.read .refused] j
    return {
      sender := ← readField fields "sender" asString
      receiver := ← readField fields "receiver" asString
      baseToken := ← readField fields "baseToken" asString
      baseAmount := ← readField fields "baseAmount" Amount.read
      quoteAmount := ← readField fields "quoteAmount" Amount.read }
  write := fun i => .object [
    ("sender", .string i.sender), ("receiver", .string i.receiver),
    ("baseToken", .string i.baseToken), ("baseAmount", Amount.form.write i.baseAmount),
    ("quoteAmount", Amount.form.write i.quoteAmount)]

def BatchRequest.form : Form BatchRequest where
  shape := .record [
    ("source_chain", .all), ("destination_chain", .all), ("channel", Channel.form.shape),
    ("bridge_address", .all), ("intents", Intent.form.list.shape)]
  read := fun j => do
    let fields ← asRecord "struct BatchRequest" [
      field "source_chain" ChainFamily.form.optional.read .optional,
      field "destination_chain" ChainFamily.form.optional.read .optional,
      field "channel" Channel.form.optional.read .optional,
      field "bridge_address" Form.string.optional.read .optional,
      field "intents" Intent.form.list.read .refused] j
    return {
      source? := ← readField fields "source_chain" ChainFamily.form.optional.read
      destination? := ← readField fields "destination_chain" ChainFamily.form.optional.read
      channel? := ← readField fields "channel" Channel.form.optional.read
      bridge? := ← readField fields "bridge_address" Form.string.optional.read
      intents := ← readField fields "intents" Intent.form.list.read }
  write := fun r => .object [
    ("source_chain", ChainFamily.form.optional.write r.source?),
    ("destination_chain", ChainFamily.form.optional.write r.destination?),
    ("channel", Channel.form.optional.write r.channel?),
    ("bridge_address", Form.string.optional.write r.bridge?),
    ("intents", Intent.form.list.write r.intents)]

end TokenBridge
