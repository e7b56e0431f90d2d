import TokenBridge.Address.Evm
import TokenBridge.Crypto.Secp256k1
import TokenBridge.Secret
import TokenBridge.Text.ExactHex

set_option autoImplicit false

/-! # Secret keys

A secret key is a number below the order of the group, and not zero. Transactions are signed with
it; whoever holds it is known on the chain by an account that follows from it.
-/

namespace TokenBridge.Wallet

structure Key where
  secret : Nat
  isSecret : Secp256k1.isSecret secret = true

namespace Key

inductive Fault
  | badHex (fault : ExactHex.Fault)
  /-- The number is zero or too large. -/
  | outOfRange
  deriving DecidableEq, Repr

def Fault.message : Fault → String
  | badHex f => f.message
  | outOfRange => "signature error"

/-- The key that 64 digits spell. -/
def parse (s : Secret) : Except Fault Key :=
  match ExactHex.decode 32 s.expose with
  | .error f => .error (.badHex f)
  | .ok bs =>
      let n := ofBigEndian bs
      if h : Secp256k1.isSecret n = true then .ok ⟨n, h⟩ else .error .outOfRange

/-- The account of the holder. -/
def account (k : Key) : EvmAddress := Secp256k1.account k.secret

end Key
end TokenBridge.Wallet
