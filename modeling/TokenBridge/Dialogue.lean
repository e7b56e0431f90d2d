set_option autoImplicit false

/-! # Dialogues

A computation that puts questions and goes on according to the answers. It is a value, so that one
can say what it asks under any answers whatever, and run it against different partners.
-/

namespace TokenBridge

/-- Questions of type `Q`, each with its own type of answers, and a result at the end. -/
inductive Dialogue {Q : Type} (Answer : Q → Type) (α : Type)
  | done (a : α)
  | ask (q : Q) (next : Answer q → Dialogue Answer α)

namespace Dialogue

variable {Q : Type} {Answer : Q → Type} {α β : Type}

def bind : Dialogue Answer α → (α → Dialogue Answer β) → Dialogue Answer β
  | done a, f => f a
  | ask q next, f => ask q fun r => (next r).bind f

instance : Monad (Dialogue Answer) where
  pure := done
  bind := bind

/-- Puts one question and gives its answer. -/
def put (q : Q) : Dialogue Answer (Answer q) := ask q done

/-- The result under a partner with a state of its own, and the state that is left. -/
def run {σ : Type} (partner : σ → (q : Q) → Answer q × σ) : σ → Dialogue Answer α → α × σ
  | s, done a => (a, s)
  | s, ask q next =>
      let (r, s) := partner s q
      run partner s (next r)

@[simp] theorem run_done {σ : Type} (partner : σ → (q : Q) → Answer q × σ) (s : σ) (a : α) :
    run partner s (done a : Dialogue Answer α) = (a, s) := rfl

theorem run_ask {σ : Type} (partner : σ → (q : Q) → Answer q × σ) (s : σ) (q : Q)
    (next : Answer q → Dialogue Answer α) :
    run partner s (ask q next) =
      run partner (partner s q).2 (next (partner s q).1) := rfl

/-- A dialogue that goes on after another one runs against the state that the first one leaves. -/
theorem run_bind {σ : Type} (partner : σ → (q : Q) → Answer q × σ) (s : σ)
    (d : Dialogue Answer α) (f : α → Dialogue Answer β) :
    run partner s (d.bind f) = run partner (run partner s d).2 (f (run partner s d).1) := by
  induction d generalizing s with
  | done a => rfl
  | ask q next ih => exact ih _ _

end Dialogue
end TokenBridge
