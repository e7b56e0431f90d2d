import TokenBridge.Address.Cosmos
import TokenBridge.Contract.Bridge
import TokenBridge.Lcd
import TokenBridge.Reader
import TokenBridge.Text.Base64

set_option autoImplicit false

/-! # Reading from a Cosmos chain

Contracts are asked by a query text, which stands in base 64 at the end of the path; the path also
names the contract. What contracts answer tells how a token is shown, and which token stands for
another one at the end of a channel.
-/

namespace TokenBridge.Lcd

/-! ## Queries -/

/-- The last part of the path of a query. -/
def querySegment (query : String) : String := Base64.encode (Utf8.encode query)

/-- The path at which a contract answers a query. -/
def queryPath (contract query : String) : String :=
  s!"/cosmwasm/wasm/v1/contract/{contract}/smart/{querySegment query}"

/-- What a contract answers to a query. -/
def query {α : Type} (server contract query : String) (read : Json → Except Json.Mismatch α) :
    Talk Report α := do
  let r ← (get server (queryPath contract query)).adapt fun f =>
    Report.under "Failed to query contract" f.report
  if !r.isSuccess then throw (.of s!"Query failed: {Http.showStatus r.status} - {r.text}")
  match (← r.json).field? "data" with
  | none => throw (.of "Missing 'data' field in response")
  | some data =>
      (read data).mapError fun m =>
        Report.under "Failed to parse query response" (.of m.message)

/-! ## Tokens -/

open Contract

/-- How the token of a contract is shown. -/
def tokenMetadata (server token : String) : Talk Report TokenMetadata := do
  let _ ← (CosmosAddress.decode token).mapError fun f =>
    Report.under s!"{token} is neither a native denom nor a CW20 contract" (.of f.message)
  let info ← (query server token (TokenInfoQuery.form.print ⟨⟩) TokenInfo.form.read).adapt fun r =>
    .under "Failed to query CW20 token info" r
  return ⟨info.symbol, info.name, info.decimals⟩

/-- The text of the question for the counterpart of a token. -/
def quoteQuery (channel : UInt32) (baseToken : Bytes) : String :=
  PredictQuery.form.print (.direct channel baseToken)

/-- The token that stands for a base token which comes straight through the channel. -/
def quoteToken (server : String) (endpoint : Endpoint) (baseToken : Bytes) : Talk Report Bytes := do
  let predicted ← (query server endpoint.contract (quoteQuery endpoint.channel baseToken)
    PredictedToken.form.read).adapt fun r => .under "Failed to predict wrapped token" r
  predicted.bytes.mapError fun f => Report.of f.message

end TokenBridge.Lcd
