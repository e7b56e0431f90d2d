import TokenBridge.Address.Evm
import TokenBridge.Dialogue
import TokenBridge.Http
import TokenBridge.Json.Printer
import TokenBridge.Rpc.Reply
import TokenBridge.Text.Hex

set_option autoImplicit false

/-! # Calls to the node of an EVM chain

A node answers calls, each with a method and parameters, at one URL. It answers with a result or
says why it refuses. A transaction goes out signed, as one text of bytes; here it is kept as its
fields, since what is signed is decided by them and the signer's key.
-/

namespace TokenBridge.Rpc

/-! ## Calls -/

/-- A contract call that is to be carried out on the chain. -/
structure Transaction where
  sender : EvmAddress
  target : EvmAddress
  input : Bytes
  nonce : UInt64
  gasPrice : BitVec 128
  chainId : UInt64
  deriving DecidableEq, Repr

inductive Call
  | chainId
  /-- How many transactions an account has sent. -/
  | transactionCount (account : EvmAddress)
  | gasPrice
  /-- How much gas a transaction will need. -/
  | estimateGas (t : Transaction)
  /-- Hands in a transaction, signed by its sender. -/
  | sendTransaction (t : Transaction) (gasLimit : UInt64)
  | transactionReceipt (hash : Word)
  /-- Carries out a contract call without any effect on the chain. -/
  | view (contract : EvmAddress) (input : Bytes)
  deriving DecidableEq, Repr

namespace Call

def method : Call → String
  | chainId => "eth_chainId"
  | transactionCount _ => "eth_getTransactionCount"
  | gasPrice => "eth_gasPrice"
  | estimateGas _ => "eth_estimateGas"
  | sendTransaction .. => "eth_sendRawTransaction"
  | transactionReceipt _ => "eth_getTransactionReceipt"
  | view .. => "eth_call"

end Call

open Json

def numberText (n : Nat) : Json := .string (Hex.quantity n)

namespace Transaction

/-- The transaction in a call that leaves its gas open. -/
def draft (t : Transaction) : Json := .object [
  ("from", .string t.sender.plain), ("to", .string t.target.plain),
  ("gasPrice", numberText t.gasPrice.toNat), ("input", .string (Hex.encodeMarked t.input)),
  ("nonce", numberText t.nonce.toNat), ("chainId", numberText t.chainId.toNat)]

/-- The fields that are signed. The transaction sends no value, and is of the oldest type. -/
def signed (t : Transaction) (gasLimit : UInt64) : Json := .object [
  ("type", ofNat 0), ("nonce", .string (toString t.nonce.toNat)),
  ("gas_price", .string (toString t.gasPrice.toNat)),
  ("gas_limit", .string (toString gasLimit.toNat)), ("to", .string t.target.plain),
  ("value", .string "0"), ("input", .string (Hex.encodeMarked t.input)),
  ("chain_id", .string (toString t.chainId.toNat)), ("from", .string t.sender.plain)]

end Transaction

/-- The parameters of a call, in their order. -/
def Call.params : Call → List Json
  | chainId | gasPrice => []
  | transactionCount account => [.string account.plain, .string "latest"]
  | estimateGas t => [t.draft, .string "pending"]
  | sendTransaction t gasLimit => [t.signed gasLimit]
  | transactionReceipt hash => [.string (Hex.encodeMarked (wordBytes hash))]
  | view contract input =>
      [.object [("to", .string contract.plain), ("input", .string (Hex.encodeMarked input))],
        .string "latest"]

/-- What comes back for a call. -/
def Call.Answer (_ : Call) : Type := Http.Outcome

/-- A talk with a node, that may fail. -/
abbrev Talk (ε α : Type) := ExceptT ε (Dialogue Call.Answer) α

/-! ## Failures -/

inductive Fault
  | transport (fault : Http.Fault)
  /-- The body of the answer ended too early. -/
  | brokenOff
  | status (status : Nat) (body : String)
  /-- The node refuses. -/
  | refusal (r : Refusal)
  /-- The text is not what was asked for. -/
  | unreadable (reason : String)
  deriving DecidableEq, Repr

namespace Fault

def message : Fault → String
  | transport f => f.report.message
  | brokenOff => "error decoding response body"
  | status code body => s!"HTTP error {code} with body: {body}"
  | refusal r => s!"server returned an error response: {r.text}"
  | unreadable reason => s!"deserialization error: {reason}"

/-- The failure with its causes. One in the exchange itself is its own first cause. -/
def report (f : Fault) : Report :=
  ⟨f.message, match f with
    | transport g => f.message :: g.report.causes
    | brokenOff => f.message :: Http.Response.breakOff
    | status .. => [f.message]
    | refusal _ => []
    | unreadable reason => [reason]⟩

end Fault

/-! ## Answers -/

/-- Reads a text. One that is not what was asked for may still tell why the node refuses. -/
def readText {α : Type} (d : Decoder α) (text : String) : Except Fault α :=
  match d.parse text with
  | .ok a => .ok a
  | .error reason =>
      match Refusal.decoder.parse text with
      | .ok r => .error (.refusal r)
      | .error _ => .error (.unreadable reason)

/-- The result in the body of an answer. -/
def readBody {α : Type} (d : Decoder α) (body : String) : Except Fault α := do
  match ← readText Reply.alone body with
  | .ok result => readText d result
  | .error r => throw (.refusal r)

/-- The result in an answer. A body that breaks off is noticed before a bad status. -/
def readResponse {α : Type} (d : Decoder α) (r : Http.Response) : Except Fault α :=
  if !r.complete then .error .brokenOff
  else if r.status ≠ 200 then .error (.status r.status r.body)
  else readBody d r.body

/-! ## Nodes -/

/-- A node is known by its URL. Whether anything can be sent there shows with the first call. -/
structure Node where
  url : Except Http.Fault Url

namespace Node

/-- The node at a URL. -/
def ofUrl (text : String) : Except Report Node :=
  match Url.parse text with
  | .ok u => .ok ⟨Http.checkScheme u⟩
  | .error f => .error (.of s!"Invalid RPC URL: {f.message}")

/-- The value of the result, if a call brought one. -/
def result {α : Type} (url : Url) (d : Decoder α) (o : Http.Outcome) : Except Fault α :=
  match o.response url with
  | .error f => .error (.transport f)
  | .ok r => readResponse d r

/-- Puts a call to the node and reads its result. -/
def call {α : Type} (n : Node) (c : Call) (d : Decoder α) : Talk Fault α :=
  match n.url with
  | .error f => throw (.transport f)
  | .ok url => ExceptT.mk do return result url d (← Dialogue.put c)

end Node
end TokenBridge.Rpc
