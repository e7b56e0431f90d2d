import TokenBridge.Channel
import TokenBridge.Intent
import TokenBridge.Report
import TokenBridge.Token

set_option autoImplicit false

/-! # Why an order cannot be built -/

namespace TokenBridge

inductive OrderError
  /-- The base amount is zero. -/
  | invalidAmount
  /-- No transfers are possible between these families. -/
  | unsupportedPair (source destination : ChainFamily)
  /-- The source chain did not tell how the token is shown. -/
  | metadataResolution (token : String) (cause : Report)
  /-- The destination chain did not tell what will stand for the token. -/
  | quotePrediction (token : Bytes) (cause : Report)
  | invalidAddress (address : Intent.BadAddress)
  | invalidToken (family : ChainFamily) (token : String) (fault : Token.Fault)
  | invalidChannel (fault : Port.Fault)
  /-- A reader serves another family than the order needs. -/
  | capabilityMismatch (expected actual : ChainFamily)
  deriving DecidableEq, Repr

namespace OrderError

def message : OrderError → String
  | invalidAmount => "Invalid amount: base amount must be greater than zero"
  | unsupportedPair s d => s!"Unsupported chain pair: {s.name} -> {d.name}"
  | metadataResolution token _ => s!"Failed to resolve metadata for token {token}"
  | quotePrediction token _ => s!"Failed to predict quote token for {Hex.encodeMarked token}"
  | invalidAddress a => s!"Invalid {a.family.name} address {a.text}: {a.fault.message}"
  | invalidToken f token fault => s!"Invalid {f.name} token {token}: {fault.message}"
  | invalidChannel fault => s!"Invalid channel: {fault.message}"
  | capabilityMismatch e a => s!"Capability mismatch: expected {e.name} client, got {a.name}"

/-- What a chain answered that could not be asked. -/
def cause? : OrderError → Option Report
  | metadataResolution _ cause | quotePrediction _ cause => some cause
  | _ => none

/-- The same order may be built later: only a chain failed to answer. -/
def isRetryable (e : OrderError) : Bool := e.cause?.isSome

end OrderError
end TokenBridge
