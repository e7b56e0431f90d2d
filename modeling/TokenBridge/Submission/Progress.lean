import TokenBridge.Report

set_option autoImplicit false

/-! # Progress of a step

A step starts with a context, such as the hash whose receipt it waits for, and keeps it to its end.
A step that has failed can be taken up again with the same context.
-/

namespace TokenBridge.Submission

structure StepFailure where
  step : String
  reason : String
  deriving DecidableEq, Repr

def StepFailure.text (f : StepFailure) : String := s!"{f.step} failed: {f.reason}"

inductive Progress (C R : Type)
  | notStarted (context : C)
  | inProgress (context : C)
  | complete (context : C) (result : R)
  | failed (context : C) (reason : StepFailure)
  deriving DecidableEq, Repr

namespace Progress

variable {C R : Type}

def context : Progress C R → C
  | notStarted c | inProgress c | complete c _ | failed c _ => c

def isComplete : Progress C R → Bool
  | complete .. => true
  | _ => false

def isFailed : Progress C R → Bool
  | failed .. => true
  | _ => false

/-- A failed step, taken up again. -/
def resume? : Progress C R → Option (Progress C R)
  | failed c _ => some (inProgress c)
  | _ => none

/-- A step that was in progress, after its outcome. -/
def settle (step : String) (context : C) : Except Report R → Progress C R
  | .ok result => complete context result
  | .error e => failed context ⟨step, e.text⟩

end Progress
end TokenBridge.Submission
