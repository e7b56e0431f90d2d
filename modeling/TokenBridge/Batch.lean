import TokenBridge.Instruction
import TokenBridge.Order.Build

set_option autoImplicit false

/-! # Composing batches

A request is turned into one batch of orders once all its parts are there. Which addresses the
orders carry and how many of them a batch may have depends on the two families.
-/

namespace TokenBridge

/-! ## Routes -/

/-- How transfers between two families are made. -/
structure Route where
  source : Address.Kind
  destination : Address.Kind
  maxOrders : Nat
  deriving DecidableEq, Repr

/-- All possible transfers. -/
def Route.table : List Route :=
  [⟨.evm, .cosmos, 2⟩, ⟨.evm, .evm, 2⟩, ⟨.cosmos, .evm, 1⟩, ⟨.cosmos, .cosmos, 1⟩]

def Route.joins (r : Route) (source destination : ChainFamily) : Bool :=
  r.source.family = source && r.destination.family = destination

def Route.find (source destination : ChainFamily) : Except OrderError Route :=
  match Route.table.find? fun r => r.joins source destination with
  | some r => .ok r
  | none => .error (.unsupportedPair source destination)

/-! ## Requests -/

/-- A request as far as it has been filled in. -/
structure BatchRequest where
  source? : Option ChainFamily
  destination? : Option ChainFamily
  channel? : Option Channel
  /-- The bridge on the source chain. It must be known, but the contracts that are asked and called
  are those of the channel. -/
  bridge? : Option String
  intents : List Intent
  deriving DecidableEq, Repr

/-- A request with all its parts. -/
structure CompleteRequest where
  source : ChainFamily
  destination : ChainFamily
  channel : Channel
  intents : List Intent
  deriving DecidableEq, Repr

/-- The request, if nothing is missing: both families, the channel, a bridge, and an intent. -/
def BatchRequest.complete? (r : BatchRequest) : Option CompleteRequest :=
  match r.source?, r.destination?, r.channel?, r.bridge? with
  | some source, some destination, some channel, some bridge =>
      if bridge.isEmpty ∨ r.intents.isEmpty then none
      else some ⟨source, destination, channel, r.intents⟩
  | _, _, _, _ => none

namespace CompleteRequest

/-- The intents that a route serves, with their addresses, and the end of the channel at which they
arrive. -/
def plan (r : CompleteRequest) : Except OrderError (Endpoint × List AddressedIntent) := do
  let route ← Route.find r.source r.destination
  let endpoint ← (r.channel.destination r.destination).mapError .invalidChannel
  let intents ← (r.intents.take route.maxOrders).mapM fun i =>
    (i.address route.source route.destination).mapError .invalidAddress
  return (endpoint, intents)

/-- The orders of the request, with the questions that were put: those about metadata to the
source chain, the others to the destination chain. -/
def orders (r : CompleteRequest) (source destination : LiveReader) :
    Except OrderError (List Order) × List Question :=
  match r.plan with
  | .error e => (.error e, [])
  | .ok (endpoint, intents) => buildOrders source destination endpoint intents

end CompleteRequest

/-- The batch that a request asks for, if the request is complete, with the questions that were
put. -/
def BatchRequest.compose (r : BatchRequest) (source destination : LiveReader) :
    Except OrderError (Option Instruction) × List Question :=
  match r.complete? with
  | none => (.ok none, [])
  | some c =>
      let (orders, asked) := c.orders source destination
      (orders.map fun os => some (.batch (os.map .order)), asked)

end TokenBridge
