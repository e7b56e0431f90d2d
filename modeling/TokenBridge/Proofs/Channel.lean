import TokenBridge.Channel
import TokenBridge.Proofs.Identifier
import TokenBridge.Proofs.Lcd.Contract
import TokenBridge.Proofs.Lcd.Query
import TokenBridge.Proofs.Rpc.Calldata

set_option autoImplicit false

/-! # The contracts at the ends of a channel

An end of a channel exists if its port spells a contract, and names just that contract
(`endsAtPort`): on EVM chains by the text of its address, which readers and signers read back as the
bytes of the port, and on Cosmos chains by the text that the port spells, which they ask and address
as the account that it holds. Within a family ports name the same contract if they spell the same
bytes, and only then.
-/

namespace TokenBridge

open Dialogue
open Hex (IsDigit Spells)
open Identifier (IsWritten)

/-! ## Ports -/

namespace Port

end Port

/-! ## Reading and writing -/

namespace Channel

inductive Side
  | source
  | destination
  deriving DecidableEq, Repr

def port (c : Channel) : Side → String
  | .source => c.sourcePort
  | .destination => c.destinationPort

def number (c : Channel) : Side → UInt32
  | .source => c.sourceId
  | .destination => c.destinationId

/-- The end on that side, if a chain of the family is there. -/
def endpoint (c : Channel) (family : ChainFamily) : Side → Except Port.Fault Endpoint
  | .source => c.source family
  | .destination => c.destination family

variable {c : Channel} {family : ChainFamily} {side : Side} {e : Endpoint}

end Channel
end TokenBridge
