import TokenBridge.Dialogue

set_option autoImplicit false

/-! # Polling

The same question is put again and again, with a pause each time, until an answer decides or the
patience is used up. Time is counted by the pauses; the answers themselves take none.
-/

namespace TokenBridge

/-- How long one waits, in milliseconds. -/
structure Patience where
  limit : Nat
  /-- The first pause; each pause is twice the one before. -/
  pause : Nat
  /-- No pause is longer than that. -/
  longest : Nat
  deriving DecidableEq, Repr

namespace Patience

/-- The patience for what comes after a pause. -/
def afterPause (p : Patience) : Patience := { p with pause := min (2 * p.pause) p.longest }

end Patience

namespace Dialogue

variable {Q : Type} {Answer : Q → Type} {α : Type}

/-- Puts the question until `decide` finds an answer decisive; `late` is the result when the
patience is used up, of which a part has been `waited` already. A pause takes at least a
millisecond. -/
def pollFrom (p : Patience) (q : Q) (decide : Answer q → Option α) (late : α) (waited : Nat) :
    Dialogue Answer α :=
  if waited < p.limit then
    ask q fun r =>
      match decide r with
      | some a => done a
      | none => pollFrom p.afterPause q decide late (waited + max 1 p.pause)
  else done late
termination_by p.limit - waited
decreasing_by simp only [Patience.afterPause]; omega

def poll (p : Patience) (q : Q) (decide : Answer q → Option α) (late : α) : Dialogue Answer α :=
  pollFrom p q decide late 0

/-- Without patience nothing is asked. -/
theorem poll_of_limit_zero (p : Patience) (h : p.limit = 0) (q : Q) (decide : Answer q → Option α)
    (late : α) : poll p q decide late = done late := by
  rw [poll, pollFrom, h]
  simp

/-- An answer that decides ends the polling. -/
theorem pollFrom_of_left (p : Patience) (q : Q) (decide : Answer q → Option α) (late : α)
    (waited : Nat) (h : waited < p.limit) :
    pollFrom p q decide late waited = ask q fun r =>
      match decide r with
      | some a => done a
      | none => pollFrom p.afterPause q decide late (waited + max 1 p.pause) := by
  rw [pollFrom, if_pos h]

end Dialogue
end TokenBridge
