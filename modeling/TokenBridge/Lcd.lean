import TokenBridge.Dialogue
import TokenBridge.Http
import TokenBridge.Transfer

set_option autoImplicit false

/-! # Requests to the server of a Cosmos chain

A server answers questions at paths below one URL, and takes transactions. A transaction goes out
signed, as one text of bytes; here it is kept as its fields, since what is signed is decided by them
and the signer's key.
-/

namespace TokenBridge.Lcd

/-! ## Requests -/

/-- A message to a contract, which its sender signs and pays for. -/
structure Transaction where
  sender : String
  contract : String
  /-- The text of the message. -/
  message : String
  /-- What is sent along to the contract. -/
  funds : List Funds
  chainId : String
  accountNumber : UInt64
  sequence : UInt64
  fee : Funds
  gasLimit : UInt64
  deriving DecidableEq, Repr

inductive Request
  | get (url : Url)
  /-- Hands in a transaction, signed by its sender. -/
  | broadcast (url : Url) (t : Transaction)
  deriving DecidableEq, Repr

def Request.url : Request → Url
  | get url => url
  | broadcast url _ => url

/-- What comes back for a request. -/
def Request.Answer (_ : Request) : Type := Http.Outcome

/-- A talk with a server, that may fail. -/
abbrev Talk (ε α : Type) := ExceptT ε (Dialogue Request.Answer) α

/-! ## Transactions -/

open Json

def coinsJson (coins : List Funds) : Json :=
  .array (coins.map fun f => .object [
    ("denom", .string f.denom), ("amount", .string (toString f.amount.toNat))])

/-- The fields that are signed, and how the server is to answer: as soon as the transaction has been
checked. There is no note, and no height at which the transaction lapses. -/
def Transaction.fields (t : Transaction) : Json := .object [
  ("mode", .string "BROADCAST_MODE_SYNC"),
  ("messages", .array [.object [
    ("sender", .string t.sender), ("contract", .string t.contract), ("msg", .string t.message),
    ("funds", coinsJson t.funds)]]),
  ("memo", .string ""),
  ("timeout_height", .string "0"),
  ("signatures", ofNat 1),
  ("sequences", .array [.string (toString t.sequence.toNat)]),
  ("fee", .object [
    ("amount", coinsJson [t.fee]), ("gas_limit", .string (toString t.gasLimit.toNat))])]

/-! ## Talks -/

/-- Makes a request at a path of the server. -/
def put (server path : String) (request : Url → Request) : Talk Http.Fault Http.Response := do
  let url ← Http.resolve server path
  ExceptT.mk do
    let o : Http.Outcome ← Dialogue.put (request url)
    return o.response url

/-- Asks for what stands at a path. -/
def get (server path : String) : Talk Http.Fault Http.Response := put server path .get

/-- The value at a path; `what` names it. -/
def getJson (server path what : String) : Talk Report Json := do
  let r ← (get server path).adapt fun f => Report.under s!"Failed to query {what}" f.report
  if !r.isSuccess then
    throw (.of s!"{what} query failed: {Http.showStatus r.status} - {r.text}")
  r.json

end TokenBridge.Lcd
