import TokenBridge.Reader

set_option autoImplicit false

/-! # Simulated readers

A reader whose answers are tables. A token that stands in no table is not found.
-/

namespace TokenBridge.Simulation

structure ReaderTables where
  family : ChainFamily
  tokens : List (String × TokenMetadata)
  native : List String
  quotes : List (Bytes × Bytes)
  /-- The counterpart of every other token. -/
  defaultQuote? : Option Bytes
  /-- How many milliseconds the answer about metadata takes. Counterparts are told at once. -/
  delays : List (String × Nat)
  deriving Repr

def ReaderTables.reader (t : ReaderTables) : Reader where
  family := t.family
  native? := nativeAmong t.native
  metadata := fun token =>
    match t.tokens.lookup token with
    | some m => .ok m
    | none => .error (.of s!"token {token} not found")
  delay := fun token => (t.delays.lookup token).getD 0
  quote := fun _ token =>
    match (t.quotes.lookup token).or t.defaultQuote? with
    | some q => .ok q
    | none => .error (.of s!"no wrapped token for {Hex.encodeMarked token}")
  quoteDelay := fun _ _ => 0

end TokenBridge.Simulation
