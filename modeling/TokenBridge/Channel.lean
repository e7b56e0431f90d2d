import TokenBridge.Address.Cosmos
import TokenBridge.Address.Evm
import TokenBridge.Chain
import TokenBridge.Identifier

set_option autoImplicit false

/-! # Channels

A channel joins two chains. On each of them it has a number and a port, the hexadecimal identifier
of the contract that serves it.
-/

namespace TokenBridge

structure Channel where
  sourceId : UInt32
  destinationId : UInt32
  sourcePort : String
  destinationPort : String
  deriving DecidableEq, Repr

/-- One end of a channel: its number there, and the contract that serves it, written as that chain
writes it. -/
structure Endpoint where
  channel : UInt32
  contract : String
  deriving DecidableEq, Repr

/-! ## Ports -/

namespace Port

inductive Fault
  | identifier (fault : Identifier.Fault)
  | notAnAddress (bytes : Nat)
  | address (fault : CosmosAddress.Fault)
  deriving DecidableEq, Repr

def Fault.message : Fault → String
  | identifier f => f.message
  | notAnAddress n => s!"EVM port id must be a 20-byte address, got {n} bytes"
  | address f => f.message

/-- The contract that a port names. On EVM chains the identifier is its address, on Cosmos chains
the text of its address, and elsewhere it stands for itself. -/
def contract (family : ChainFamily) (port : String) : Except Fault String :=
  match family with
  | .evm => do
      let bytes ← (Identifier.toBytes port).mapError .identifier
      if bytes.length ≠ 20 then throw (.notAnAddress bytes.length)
      return (EvmAddress.ofBytes bytes).checksum
  | .cosmos => do
      let text ← (Identifier.toText port).mapError .identifier
      let _ ← (CosmosAddress.decode text).mapError .address
      return text
  | .aptos => (Identifier.toBytes port).map Hex.encodeMarked |>.mapError .identifier

end Port

namespace Channel

def source (c : Channel) (family : ChainFamily) : Except Port.Fault Endpoint :=
  (Port.contract family c.sourcePort).map fun contract => ⟨c.sourceId, contract⟩

def destination (c : Channel) (family : ChainFamily) : Except Port.Fault Endpoint :=
  (Port.contract family c.destinationPort).map fun contract => ⟨c.destinationId, contract⟩

end Channel
end TokenBridge
