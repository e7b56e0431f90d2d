import TokenBridge.Dialogue
import TokenBridge.Submission.Progress
import TokenBridge.Writer

set_option autoImplicit false

/-! # Stages of a submission

A submission switches to its chain, does what the family of the chain needs before a transfer, sends
the transfer, and waits for its receipt. What is done in between is the type `A` of stages of its
own: approvals on EVM chains, nothing on Cosmos chains.
-/

namespace TokenBridge.Submission

/-! ## Approvals -/

/-- An approval that was sent for the requirement at `index`. Any word of the machine may stand
there, also one behind the list. -/
structure SubmittedApproval where
  index : Nat
  hash : TxHash
  deriving DecidableEq, Repr

/-- The stages between switching and sending on EVM chains. -/
inductive Approval
  /-- Looks for a requirement that is not met, from that index on. -/
  | submit (p : Progress Nat (Option SubmittedApproval))
  | receipt (p : Progress SubmittedApproval Receipt)
  deriving DecidableEq, Repr

/-! ## All stages -/

inductive Stage (A : Type)
  | filling
  | switchChain (p : Progress Unit Unit)
  | before (a : A)
  | transferSubmit (p : Progress Salt TxHash)
  | transferReceipt (p : Progress TxHash Receipt)
  deriving DecidableEq, Repr

/-- A submission on a chain of one of the families, or none. -/
inductive State
  | empty
  | evm (s : Stage Approval)
  | cosmos (s : Stage Empty)
  deriving DecidableEq, Repr

/-! ## Effects -/

/-- What a submission asks of its surroundings. -/
inductive Effect
  | call (c : WriterCall)
  /-- A salt that was never used. -/
  | drawSalt
  /-- Tells the caller the state that has been reached. -/
  | publish (s : State)
  deriving DecidableEq, Repr

def Effect.Answer : Effect → Type
  | call c => c.Answer
  | drawSalt => Salt
  | publish _ => Unit

abbrev Talk (α : Type) := Dialogue Effect.Answer α

def call (c : WriterCall) : Talk c.Answer := .put (Effect.call c)

def drawSalt : Talk Salt := .put Effect.drawSalt

def publish (s : State) : Talk Unit := .put (Effect.publish s)

end TokenBridge.Submission
