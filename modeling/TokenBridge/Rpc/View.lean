import TokenBridge.Contract.Bridge
import TokenBridge.Contract.Token
import TokenBridge.Reader
import TokenBridge.Rpc
import TokenBridge.Rpc.Value

set_option autoImplicit false

/-! # Reading from an EVM chain

What contracts answer without any effect on the chain: how a token is shown, and which token stands
for another one at the end of a channel.
-/

namespace TokenBridge.Rpc

/-- What is reported of a call that brought nothing: the failure itself, without its causes. -/
inductive ViewFault
  | call (fault : Fault)
  | results (fault : Abi.Fault)

def ViewFault.message : ViewFault → String
  | call f => f.message
  | results f => f.message

/-- The address of the bridge contract at an end of a channel. -/
def bridgeAddress (contract : String) : Except Report EvmAddress :=
  (EvmAddress.parse contract).mapError fun f =>
    .under "Invalid zkgm contract address" (.of f.message)

namespace Node

/-- Asks a function of a contract. -/
def view (n : Node) (contract : EvmAddress) (f : Abi.Function) (args : f.inputs.Value) :
    Talk ViewFault f.outputs.Value := do
  let bs ← (n.call (.view contract (f.call args)) bytes).adapt ViewFault.call
  ExceptT.mk (pure ((f.results bs).mapError ViewFault.results))

/-- Asks a function of a contract; `purpose` tells what for. -/
def viewFor (n : Node) (purpose : String) (contract : EvmAddress) (f : Abi.Function)
    (args : f.inputs.Value) : Talk Report f.outputs.Value :=
  (n.view contract f args).adapt fun fault => .of s!"Failed to {purpose}: {fault.message}"

/-- How a token is shown. All three questions are put before an answer counts. -/
def tokenMetadata (n : Node) (token : String) : Talk Report TokenMetadata := do
  let contract ← (EvmAddress.parse token).mapError fun f => Report.of f.message
  ExceptT.mk do
    let name ← (n.viewFor "get name" contract Contract.Token.name ()).run
    let symbol ← (n.viewFor "get symbol" contract Contract.Token.symbol ()).run
    let decimals ← (n.viewFor "get decimals" contract Contract.Token.decimals ()).run
    return do
      let (name, _) ← name
      let (symbol, _) ← symbol
      let (decimals, _) ← decimals
      return ⟨symbol, name, UInt8.ofBitVec decimals⟩

/-- The token that stands for a base token which comes straight through the channel. -/
def quoteToken (n : Node) (endpoint : Endpoint) (baseToken : Bytes) : Talk Report Bytes := do
  let bridge ← bridgeAddress endpoint.contract
  let (token, _) ← n.viewFor "predict wrapped token" bridge Contract.Bridge.predictWrappedToken
    ((0 : Word), endpoint.channel.toBitVec, baseToken, ())
  return EvmAddress.toBytes token

end Node
end TokenBridge.Rpc
