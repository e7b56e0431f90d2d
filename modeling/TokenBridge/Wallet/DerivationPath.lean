import TokenBridge.Number.Numeral
import TokenBridge.Text.Pieces

set_option autoImplicit false

/-! # Derivation paths

From one secret many keys are derived, each at the end of a path of steps from a master key. A step
has a number below `2 ^ 31`, and may be marked as one that only the holder of the secret can make.
-/

namespace TokenBridge.Wallet

structure Step where
  number : Nat
  isHardened : Bool
  deriving DecidableEq, Repr

/-- The steps from the master key. -/
structure DerivationPath where
  steps : List Step
  deriving DecidableEq, Repr

namespace DerivationPath

inductive Fault
  /-- The path does not start at the master key. -/
  | noMaster
  | badStep
  deriving DecidableEq, Repr

def Fault.message : Fault → String
  | noMaster => "Decode"
  | badStep => "ChildNumber"

/-- The digits of a step, and whether they are marked. -/
def splitMark (s : String) : String × Bool :=
  match s.toList.reverse with
  | mark :: rest =>
      if mark = '\'' ∨ mark = 'h' then (String.ofList rest.reverse, true) else (s, false)
  | [] => (s, false)

def readStep (s : String) : Except Fault Step :=
  let (digits, isHardened) := splitMark s
  match Numeral.read (Nat.pow 2 31) digits with
  | .ok n => .ok ⟨n, isHardened⟩
  | .error _ => .error .badStep

/-- Reads steps between slashes, after the sign of the master key. -/
def parse (s : String) : Except Fault DerivationPath :=
  match (Pieces.cut (· = '/') s.toList).map String.ofList with
  | "m" :: steps => (steps.mapM readStep).map DerivationPath.mk
  | _ => .error .noMaster

end DerivationPath
end TokenBridge.Wallet
