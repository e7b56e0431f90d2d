import TokenBridge.Submission.Transition

set_option autoImplicit false

/-! # Advancing a submission

A submission is advanced until it is complete or a step has failed. Every state is published before
the next transition is made, so that whoever keeps the last published state can go on from it. A
state of another family than that of the transfer is given up for a new submission.
-/

namespace TokenBridge.Submission

/-- The state from which a transfer from a chain of that family goes on. -/
def State.enter (family : ChainFamily) (s : State) : Option State :=
  match family, s with
  | .evm, evm stage => some (evm stage)
  | .evm, _ => some (evm .filling)
  | .cosmos, cosmos stage => some (cosmos stage)
  | .cosmos, _ => some (cosmos .filling)
  | .aptos, _ => none

/-- Gives a submission up. -/
def abandon : Talk (Option State) := do
  publish .empty
  return none

/-- Makes at most `fuel` steps, up to a state that is complete or failed. -/
def drive (t : Transfer) : Nat → State → Talk (Option State)
  | 0, s => return some s
  | fuel + 1, s => do
      match ← s.step t with
      | none => abandon
      | some next =>
          publish next
          if next.isComplete || next.isFailed then return some next else drive t fuel next

/-- No submission takes more steps: twelve of its own, and six for each approval. -/
def maxSteps (t : Transfer) : Nat := 12 + 6 * t.approvals.length

/-- Advances a submission on a chain of the family `writer`. There is no state to return when the
submission has been given up. -/
def advance (writer : ChainFamily) (t : Transfer) (s : State) : Talk (Option State) :=
  if writer ≠ t.source then abandon
  else
    match s.enter t.source with
    | none => abandon
    | some s => if s.isComplete then return some s else drive t (maxSteps t) s

end TokenBridge.Submission
