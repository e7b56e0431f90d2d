import TokenBridge.Report
import TokenBridge.Transfer

set_option autoImplicit false

/-! # Writing to a chain

What a submission asks of a chain on behalf of its signer, and what is answered.
-/

namespace TokenBridge

abbrev TxHash := String

/-- A transaction that has been carried out. -/
structure Receipt where
  hash : TxHash
  height : Option UInt64
  deriving DecidableEq, Repr

/-- What is reported where spenders take tokens only by messages of their owners. -/
def noAllowances (family : ChainFamily) : Report :=
  .of s!"{family.name} chains have no allowance model"

inductive WriterCall
  /-- Makes sure that the chain is the one that is meant. -/
  | switchChain
  /-- How much a spender may still take of the signer's token. -/
  | allowance (token spender : String)
  /-- Lets a spender take up to an amount. -/
  | approve (token spender : String) (amount : Amount)
  | submit (request : SendRequest)
  /-- Waits until a transaction has been carried out. -/
  | awaitReceipt (hash : TxHash)
  deriving DecidableEq, Repr

namespace WriterCall

/-- What a call brings back if it succeeds. -/
def Result : WriterCall → Type
  | switchChain => Unit
  | allowance .. => Amount
  | approve .. => TxHash
  | submit _ => TxHash
  | awaitReceipt _ => Receipt

def Answer (c : WriterCall) : Type := Except Report c.Result

end WriterCall
end TokenBridge
