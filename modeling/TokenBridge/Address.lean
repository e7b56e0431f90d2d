import TokenBridge.Address.Cosmos
import TokenBridge.Address.Evm
import TokenBridge.Chain

set_option autoImplicit false

/-! # Addresses of the families that can be served -/

namespace TokenBridge

inductive Address
  | evm (a : EvmAddress)
  | cosmos (a : CosmosAddress)
  deriving DecidableEq, Repr

namespace Address

inductive Fault
  | evm (fault : EvmAddress.Fault)
  | cosmos (fault : CosmosAddress.Fault)
  deriving DecidableEq, Repr

def Fault.message : Fault → String
  | evm f => f.message
  | cosmos f => f.message

/-- The families that have addresses here. -/
inductive Kind
  | evm
  | cosmos
  deriving DecidableEq, Repr

def Kind.family : Kind → ChainFamily
  | evm => .evm
  | cosmos => .cosmos

def family : Address → ChainFamily
  | evm _ => .evm
  | cosmos _ => .cosmos

def parse (kind : Kind) (s : String) : Except Fault Address :=
  match kind with
  | .evm => (EvmAddress.parse s).map Address.evm |>.mapError Fault.evm
  | .cosmos => (CosmosAddress.parse s).map Address.cosmos |>.mapError Fault.cosmos

/-- How the address is shown. -/
def display : Address → String
  | evm a => a.checksum
  | cosmos a => a.text

/-- The bytes that stand for the address in an instruction. -/
def wire : Address → Bytes
  | evm a => a.toBytes
  | cosmos a => a.toBytes

end Address
end TokenBridge
