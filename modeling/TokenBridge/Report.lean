set_option autoImplicit false

/-! # Reports

What a failed operation tells its caller: a message, and below it the messages of what caused it,
from the outside in. An operation that fails because another one did puts its own message on top.
-/

namespace TokenBridge

/-- A message and its causes, the nearest first. -/
structure Report where
  message : String
  causes : List String
  deriving DecidableEq, Repr

namespace Report

def of (message : String) : Report := ⟨message, []⟩

/-- The report with `message` on top. -/
def under (message : String) (r : Report) : Report := ⟨message, r.message :: r.causes⟩

/-- All messages in one line. -/
def text (r : Report) : String := r.causes.foldl (fun line cause => line ++ ": " ++ cause) r.message

@[simp] theorem text_of (message : String) : (of message).text = message := rfl

end Report
end TokenBridge
