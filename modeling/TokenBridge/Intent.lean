import TokenBridge.Address

set_option autoImplicit false

/-! # Transfer intents

What a user wants: so much of a token of the source chain for so much of its counterpart on the
destination chain.
-/

namespace TokenBridge

structure Intent where
  sender : String
  receiver : String
  baseToken : String
  baseAmount : Amount
  quoteAmount : Amount
  deriving DecidableEq, Repr

/-- An intent whose addresses have been read. -/
structure AddressedIntent where
  sender : Address
  receiver : Address
  baseToken : String
  baseAmount : Amount
  quoteAmount : Amount
  deriving DecidableEq, Repr

/-- An address text that its family does not accept. -/
structure Intent.BadAddress where
  family : ChainFamily
  text : String
  fault : Address.Fault
  deriving DecidableEq, Repr

def Intent.readAddress (kind : Address.Kind) (text : String) : Except BadAddress Address :=
  (Address.parse kind text).mapError fun f => ⟨kind.family, text, f⟩

/-- Reads the sender as an address of the source family, and then the receiver as one of the
destination family. -/
def Intent.address (source destination : Address.Kind) (i : Intent) :
    Except BadAddress AddressedIntent := do
  let sender ← readAddress source i.sender
  let receiver ← readAddress destination i.receiver
  return ⟨sender, receiver, i.baseToken, i.baseAmount, i.quoteAmount⟩

end TokenBridge
