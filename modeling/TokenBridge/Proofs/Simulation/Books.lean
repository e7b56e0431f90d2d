import Mathlib
import TokenBridge.Proofs.Outcome
import TokenBridge.Simulation.Writer

set_option autoImplicit false

/-! # The books of a simulated writer

What a simulated writer does when a call does not fail depends only on its books: the allowances and
the number of the next hash. A call either does that, or it fails, uses up one of the failures that
are to come, and leaves the books as they are (`Writer.answer_cases`).
-/

namespace TokenBridge.Simulation

open Submission

/-! ## Calls that do not fail -/

structure Books where
  allowances : List (String × Amount)
  nextHash : Nat

namespace Books

def allowance (b : Books) (token : String) : Amount := (b.allowances.lookup token).getD 0

def grant (b : Books) (token : String) (amount : Amount) : Books :=
  { b with allowances := (token, amount) :: b.allowances.filter fun a => a.1 ≠ token }

/-- The hash that is given out next. -/
def hash (b : Books) : TxHash := Writer.hashText b.nextHash

def turn (b : Books) : Books := { b with nextHash := b.nextHash + 1 }

def result (b : Books) : (c : WriterCall) → c.Result
  | .switchChain => ()
  | .allowance token _ => b.allowance token
  | .approve .. => b.hash
  | .submit _ => b.hash
  | .awaitReceipt hash => (⟨hash, some 100⟩ : Receipt)

/-- The books after a call that did not fail. -/
def after (b : Books) : WriterCall → Books
  | .switchChain | .allowance .. | .awaitReceipt _ => b
  | .approve token _ amount => (b.grant token amount).turn
  | .submit _ => b.turn

end Books

namespace Writer

def books (w : Writer) : Books := ⟨w.allowances, w.nextHash⟩

/-- The failures that are still to come. -/
def failuresLeft (w : Writer) : Nat := (w.failures.map (·.2)).sum

/-- The writer after it was told of all those failures, one after another. -/
def scripted (w : Writer) (script : List (Operation × Nat)) : Writer :=
  script.foldl (fun w f => w.failNext f.1 f.2) w

/-! ## Failures -/

theorem sum_filter_le (failures : List (Operation × Nat)) (op : Operation) :
    ((failures.filter fun f => f.1 ≠ op).map (·.2)).sum ≤ (failures.map (·.2)).sum :=
  (List.filter_sublist.map _).sum_le_sum fun _ _ => Nat.zero_le _

/-- What is told to fail comes instead of what was told of the same calls before. -/
theorem failuresLeft_failNext_le (w : Writer) (op : Operation) (times : Nat) :
    (w.failNext op times).failuresLeft ≤ w.failuresLeft + times := by
  have hle := sum_filter_le w.failures op
  simp only [failuresLeft, failNext, List.map_cons, List.sum_cons]
  omega

/-- Telling a writer to fail changes nothing else, and adds no more failures than that. -/
theorem scripted_keeps (w : Writer) (script : List (Operation × Nat)) :
    (w.scripted script).family = w.family ∧ (w.scripted script).books = w.books ∧
      (w.scripted script).hasAllowances = w.hasAllowances ∧
      (w.scripted script).failuresLeft ≤ w.failuresLeft + (script.map (·.2)).sum := by
  induction script generalizing w with
  | nil => exact ⟨rfl, rfl, rfl, Nat.le_refl _⟩
  | cons f script ih =>
      obtain ⟨hfamily, hbooks, hallowances, hleft⟩ := ih (w.failNext f.1 f.2)
      refine ⟨hfamily, hbooks, hallowances, hleft.trans ?_⟩
      have hle := w.failuresLeft_failNext_le f.1 f.2
      rw [List.map_cons, List.sum_cons]
      omega

/-- A call that fails uses up one of the failures. -/
theorem failuresLeft_failNext_lt {w : Writer} {op : Operation} {times : Nat}
    (h : w.failures.lookup op = some (times + 1)) :
    (w.failNext op times).failuresLeft < w.failuresLeft := by
  simp only [failuresLeft, failNext, List.map_cons, List.sum_cons]
  generalize w.failures = failures at h
  induction failures with
  | nil => cases h
  | cons f failures ih =>
      obtain ⟨k, n⟩ := f
      rw [List.lookup_cons] at h
      by_cases hop : op = k
      · obtain rfl : n = times + 1 := by simpa [hop] using h
        have hle := sum_filter_le failures op
        simp only [List.filter_cons, hop, ne_eq, not_true_eq_false, decide_false,
          Bool.false_eq_true, if_false, List.map_cons, List.sum_cons] at hle ⊢
        omega
      · have hne : k ≠ op := fun heq => hop heq.symm
        have hlt := ih (by simpa [beq_false_of_ne hop] using h)
        simp only [List.filter_cons, hne, ne_eq, not_false_eq_true, decide_true, if_true,
          List.map_cons, List.sum_cons] at hlt ⊢
        omega

/-! ## Answers -/

/-- A call fails for one of the failures that are to come. -/
structure Fails (w w' : Writer) : Prop where
  books : w'.books = w.books
  hasAllowances : w'.hasAllowances = true
  failuresLeft : w'.failuresLeft < w.failuresLeft

/-- A call does what the books say. -/
structure Does (w : Writer) (c : WriterCall) (w' : Writer) : Prop where
  books : w'.books = w.books.after c
  hasAllowances : w'.hasAllowances = true
  failuresLeft : w'.failuresLeft = w.failuresLeft

theorem record_cases {w : Writer} (hw : w.hasAllowances = true) (c : WriterCall) :
    (∃ e, (w.record c).1 = .error e ∧ w.Fails (w.record c).2) ∨
      w.record c = (.ok (), { w with calls := w.calls ++ [c] }) := by
  rw [record]
  cases htimes : (w.failures.lookup (Operation.of c)).getD 0 with
  | zero => exact .inr rfl
  | succ times =>
      have hlookup : w.failures.lookup (Operation.of c) = some (times + 1) := by
        cases hlookup : w.failures.lookup (Operation.of c) with
        | none => simp [hlookup] at htimes
        | some n => simpa [hlookup] using htimes
      refine .inl ⟨_, rfl, rfl, hw, ?_⟩
      exact failuresLeft_failNext_lt (w := { w with calls := w.calls ++ [c] }) hlookup

theorem answer_cases {w : Writer} (hw : w.hasAllowances = true) (c : WriterCall) :
    (∃ e, (w.answer c).1 = .error e ∧ w.Fails (w.answer c).2) ∨
      (w.answer c).1 = .ok (w.books.result c) ∧ w.Does c (w.answer c).2 := by
  rcases hrecord : w.record c with ⟨x, w'⟩
  rcases record_cases hw c with ⟨e, hx, hfails⟩ | hdone
  · rw [hrecord] at hx hfails
    obtain rfl : x = .error e := hx
    refine .inl ⟨e, ?_⟩
    cases c with
    | switchChain =>
        rw [answer, hrecord]
        exact ⟨rfl, hfails⟩
    | allowance | approve | submit | awaitReceipt =>
        simp only [answer, hw, Bool.not_true, Bool.false_eq_true, if_false, hrecord]
        exact ⟨rfl, hfails⟩
  · refine .inr ?_
    cases c with
    | switchChain =>
        rw [answer, hdone]
        exact ⟨rfl, rfl, hw, rfl⟩
    | allowance | approve | submit | awaitReceipt =>
        simp only [answer, hw, Bool.not_true, Bool.false_eq_true, if_false, hdone]
        exact ⟨rfl, rfl, rfl, rfl⟩

/-! ## Books under any writer -/

theorem record_books (w : Writer) (c : WriterCall) :
    (∃ e, (w.record c).1 = .error e ∧ (w.record c).2.books = w.books) ∨
      w.record c = (.ok (), { w with calls := w.calls ++ [c] }) := by
  rw [record]
  cases (w.failures.lookup (Operation.of c)).getD 0 with
  | zero => exact .inr rfl
  | succ times => exact .inl ⟨_, rfl, rfl⟩

/-- Whether allowances are known or not, a call that fails leaves the books as they are, and one
that succeeds does what they say. -/
theorem answer_books (w : Writer) (c : WriterCall) :
    (∃ e, (w.answer c).1 = .error e ∧ (w.answer c).2.books = w.books) ∨
      (w.answer c).1 = .ok (w.books.result c) ∧ (w.answer c).2.books = w.books.after c := by
  cases hw : w.hasAllowances with
  | true =>
      rcases answer_cases hw c with ⟨e, he, hfails⟩ | ⟨hok, hdoes⟩
      · exact .inl ⟨e, he, hfails.books⟩
      · exact .inr ⟨hok, hdoes.books⟩
  | false =>
      cases c with
      | allowance | approve =>
          rw [answer, hw]
          exact .inl ⟨_, rfl, rfl⟩
      | switchChain | submit | awaitReceipt =>
          rcases hrecord : w.record _ with ⟨x, w'⟩
          rcases record_books w _ with ⟨e, hx, hbooks⟩ | hdone
          · rw [hrecord] at hx hbooks
            obtain rfl : x = .error e := hx
            rw [answer, hrecord]
            exact .inl ⟨e, rfl, hbooks⟩
          · rw [answer, hdone]
            exact .inr ⟨rfl, rfl⟩

end Writer

/-! ## Allowances -/

namespace Books

theorem allowance_grant (b : Books) (token token' : String) (amount : Amount) :
    (b.grant token amount).allowance token' =
      if token' = token then amount else b.allowance token' := by
  rw [allowance, grant, List.lookup_cons]
  by_cases h : token' = token
  · rw [if_pos h, h, beq_self_eq_true]
    rfl
  · rw [if_neg h, beq_false_of_ne h]
    have hpass : decide (token' ≠ token) = true := decide_eq_true h
    exact congrArg (·.getD 0)
      (Outcome.lookup_filter (p := fun t => decide (t ≠ token)) hpass b.allowances)

/-- Only an approval of a token changes its allowance. -/
theorem allowance_after (b : Books) (c : WriterCall) (token : String) :
    (b.after c).allowance token = match c with
      | .approve token' _ amount => if token = token' then amount else b.allowance token
      | _ => b.allowance token := by
  cases c with
  | approve token' spender amount => exact b.allowance_grant token' token amount
  | switchChain | allowance | submit | awaitReceipt => rfl

end Books
end TokenBridge.Simulation
