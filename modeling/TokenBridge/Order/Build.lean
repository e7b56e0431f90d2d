import TokenBridge.Instruction
import TokenBridge.Order.Error
import TokenBridge.Reader

set_option autoImplicit false

/-! # Building orders

An order is built from an intent with the metadata of its token, which the source chain tells, and
the counterpart of its token, which the destination chain tells. The orders of one request are
started one after the other, and no question is put before the intent itself has been found good.
An answer that takes its time does not hold up the questions that follow; the first failure in time
ends them all.
-/

namespace TokenBridge

/-! ## Questions to the chains -/

namespace Reader

/-- How a token is shown. Native coins are known without a question. -/
def resolve (r : Reader) (token : String) : Except OrderError TokenMetadata :=
  match r.native? token with
  | some m => .ok m
  | none => (r.metadata token).mapError (.metadataResolution token)

/-- The questions that `resolve` puts. -/
def resolveQuestions (r : Reader) (token : String) : List Question :=
  if (r.native? token).isSome then [] else [.metadata token]

/-- How long `resolve` takes. -/
def resolveDelay (r : Reader) (token : String) : Nat :=
  if (r.native? token).isSome then 0 else r.delay token

/-- What will stand for a token. -/
def predict (r : Reader) (e : Endpoint) (token : Bytes) : Except OrderError Bytes :=
  (r.quote e token).mapError (.quotePrediction token)

end Reader

/-! ## One order -/

/-- A reader must serve the family that the order needs. -/
def checkFamily (actual expected : ChainFamily) : Except OrderError Unit :=
  if actual = expected then .ok () else .error (.capabilityMismatch expected actual)

/-- What can be checked before any question is put, by readers of the families `source` and
`destination`; the result is the base token in its canonical bytes. -/
def AddressedIntent.check (i : AddressedIntent) (source destination : ChainFamily) :
    Except OrderError Bytes := do
  if i.baseAmount = 0 then throw .invalidAmount
  checkFamily source i.sender.family
  checkFamily destination i.receiver.family
  (Token.canonical i.sender.family i.baseToken).mapError
    (.invalidToken i.sender.family i.baseToken)

/-- The order that fulfils an intent. -/
def AddressedIntent.order (i : AddressedIntent) (baseToken : Bytes) (m : TokenMetadata)
    (quoteToken : Bytes) : Order where
  sender := i.sender.wire
  receiver := i.receiver.wire
  baseToken := baseToken
  baseAmount := i.baseAmount
  symbol := m.symbol
  name := m.name
  decimals := m.decimals
  path := 0
  quoteToken := quoteToken
  quoteAmount := i.quoteAmount

/-- An answer that is waited for, and how long it takes. -/
structure Pending (α : Type) where
  delay : Nat
  result : Except OrderError α

namespace Pending

variable {α β : Type}

def map (f : α → β) (p : Pending α) : Pending β := ⟨p.delay, p.result.map f⟩

/-- The failure of an answer that has come at once. -/
def failure? (p : Pending α) : Option OrderError :=
  match p.delay, p.result with
  | 0, .error e => some e
  | _, _ => none

/-- Waits for both answers, but no longer than up to the first failure; of two failures at the same
time the second answer's counts. -/
def both (p : Pending α) (q : Pending β) : Pending (α × β) :=
  match p.result, q.result with
  | .ok a, .ok b => ⟨max p.delay q.delay, .ok (a, b)⟩
  | .error e, .ok _ => ⟨p.delay, .error e⟩
  | .ok _, .error f => ⟨q.delay, .error f⟩
  | .error e, .error f =>
      if p.delay < q.delay then ⟨p.delay, .error e⟩ else ⟨q.delay, .error f⟩

end Pending

/-- Starts an order: asks for the metadata, and, unless that fails at once, for the counterpart,
which must not fail at once either. -/
def AddressedIntent.start (i : AddressedIntent) (source destination : Reader)
    (endpoint : Endpoint) : Except OrderError (Pending Order) × List Question :=
  match i.check source.family destination.family with
  | .error e => (.error e, [])
  | .ok baseToken =>
      let metadata : Pending TokenMetadata :=
        ⟨source.resolveDelay i.baseToken, source.resolve i.baseToken⟩
      let asked := source.resolveQuestions i.baseToken
      match metadata.failure? with
      | some e => (.error e, asked)
      | none =>
          let quote : Pending Bytes :=
            ⟨destination.quoteDelay endpoint baseToken, destination.predict endpoint baseToken⟩
          let asked := asked ++ [.quote endpoint.channel baseToken]
          match quote.failure? with
          | some e => (.error e, asked)
          | none => (.ok ((metadata.both quote).map fun (m, q) => i.order baseToken m q), asked)

/-! ## Several orders -/

/-- Starts orders up to the first that fails to start. The first intent is the one at place `k`. -/
def startOrders (source destination : LiveReader) (endpoint : Endpoint) :
    Nat → List AddressedIntent → Except OrderError (List (Pending Order)) × List Question
  | _, [] => (.ok [], [])
  | k, i :: rest =>
      match i.start (source.view k) (destination.view k) endpoint with
      | (.error e, asked) => (.error e, asked)
      | (.ok started, asked) =>
          let (others, more) := startOrders source destination endpoint (k + 1) rest
          (others.map (started :: ·), asked ++ more)

/-- The failure that comes first, with its time: of two at the same time, that of the earlier
order. -/
def firstFailure : List (Pending Order) → Option (Nat × OrderError)
  | [] => none
  | s :: rest =>
      match s.result, firstFailure rest with
      | .ok _, later => later
      | .error e, none => some (s.delay, e)
      | .error e, some (t, f) => if t < s.delay then some (t, f) else some (s.delay, e)

/-- The orders that have been started, when all answers have come. -/
def finishOrders (started : List (Pending Order)) : Except OrderError (List Order) :=
  match firstFailure started with
  | some (_, e) => .error e
  | none => .ok (started.filterMap fun s => s.result.toOption)

/-- Builds the orders of a list of intents, with the questions that were put. -/
def buildOrders (source destination : LiveReader) (endpoint : Endpoint)
    (intents : List AddressedIntent) : Except OrderError (List Order) × List Question :=
  let (started, asked) := startOrders source destination endpoint 0 intents
  (started.bind finishOrders, asked)

end TokenBridge
