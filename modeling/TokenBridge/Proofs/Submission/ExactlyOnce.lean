import TokenBridge.Proofs.Submission.Deeds

set_option autoImplicit false

/-! # Everything is done once

A caller that advances a submission again whenever it has failed brings it to its end, as soon as no
failures are left. All in all exactly that is done which would have been done without failures.
-/

namespace TokenBridge.Submission

open Dialogue Simulation

/-! ## Trying again and again -/

/-- Advances a submission `n` times, each time from the state that came back. -/
def attempts (writer : ChainFamily) (t : Transfer) : Nat → State → Talk (Option State)
  | 0, s => return some s
  | n + 1, s => do
      match ← advance writer t s with
      | none => return none
      | some s => attempts writer t n s

theorem Stage.isFailed_of_isComplete {A : Type} (flow : Flow A) {s : Stage A}
    (hs : s.isComplete = true) : s.isFailed flow = false := by
  cases s with
  | transferReceipt p =>
      cases p with
      | complete => rfl
      | notStarted | inProgress | failed => cases hs
  | filling | switchChain | before | transferSubmit => cases hs

/-- When a transfer is complete, nothing is left to be done. -/
theorem Stage.todo_of_isComplete {A : Type} {flow : Flow A} {t : Transfer}
    {todo : A → Books → List Deed} {s : Stage A} (hs : s.isComplete = true) (b : Books) :
    s.todo flow t todo b = [] := by
  cases s with
  | transferReceipt p =>
      cases p with
      | complete => rfl
      | notStarted | inProgress | failed => cases hs
  | filling | switchChain | before | transferSubmit => cases hs

theorem Lane.attempts_of_isComplete {family : ChainFamily} {A : Type} {flow : Flow A}
    {wrap : Stage A → State} (lane : Lane family flow wrap) {t : Transfer} (ht : t.source = family)
    {s : Stage A} (hs : s.isComplete = true) (n : Nat) :
    attempts family t n (wrap s) = return some (wrap s) := by
  induction n with
  | zero => rfl
  | succ n ih =>
      rw [attempts, lane.advance_eq ht (lane.enter_wrap s), if_pos hs]
      exact ih

namespace Trial

variable {T : Trial} {family : ChainFamily} {A : Type} {flow : Flow A} {wrap : Stage A → State}
  {t : Transfer} {left : A → Nat} {before : A → Books → List Deed} {n : Nat} {h : Log}

/-- An advance ends with a submission that is complete, or with one that has used up a failure. -/
theorem plays_advance (lane : Lane family flow wrap) (ends : flow.Ends t left)
    (plans : Plans flow t before) (ht : t.source = family) {s : State} {stage : Stage A}
    (hs : s.enter family = some (wrap stage)) (hd : T.Due (stage.todo flow t before) false n h) :
    T.Plays (fun r h => ∃ s', r = some (wrap s') ∧ s'.isSettled flow = true ∧
      T.Due (s'.todo flow t before) (s'.isFailed flow) n h) (advance family t s) h := by
  rw [lane.advance_eq ht hs]
  by_cases hcomplete : stage.isComplete = true
  · rw [if_pos hcomplete]
    refine plays_pure ⟨stage, rfl, ?_, ?_⟩
    · rw [Stage.isSettled, hcomplete, Bool.true_or]
    · rwa [Stage.isFailed_of_isComplete flow hcomplete]
  · rw [if_neg hcomplete]
    have hopen : stage.isComplete = false := by simpa using hcomplete
    refine (lane.obeys_drive_settled ends
      (fun s h => T.Answered h → T.Due (s.todo flow t before) false n h)
      (fun s h => T.Answered h → T.Due (s.todo flow t before) (s.isFailed flow) n h)
      ?_ (fun _ => hd) hopen).mono (fun _ _ hx => hx) ?_
    · -- That there is a next stage does not depend on the answers, but what is due then does.
      intro s h hs hopen
      have hplays : T.Plays _ (s.next flow t) h :=
        plays_of_answeredBy fun hh => plays_stage plans hopen (hs hh)
      refine ((ends.obeys_next_nearer hopen h).and hplays).mono (fun _ _ _ => trivial) ?_
      rintro r h' ⟨⟨s', rfl, -⟩, hr⟩
      have hdue : T.Answered (h' ++ [published (wrap s')]) →
          T.Due (s'.todo flow t before) (s'.isFailed flow) n (h' ++ [published (wrap s')]) := by
        intro hh
        obtain ⟨_, ⟨rfl⟩, hd'⟩ := hr (lawful_snoc.1 hh).1
        exact hd'.publish _
      refine ⟨s', rfl, trivial, ?_⟩
      by_cases hsettled : s'.isSettled flow = true
      · rwa [if_pos hsettled]
      · rw [if_neg hsettled]
        have hgoing : s'.isFailed flow = false := by simp_all [Stage.isSettled]
        rwa [hgoing] at hdue
    · rintro r h' ⟨s', rfl, hsettled, hd'⟩ hh
      exact ⟨s', rfl, hsettled, hd' hh⟩

/-- With more attempts than there are failures, everything is done. -/
theorem plays_attempts (lane : Lane family flow wrap) (ends : flow.Ends t left)
    (plans : Plans flow t before) (ht : t.source = family) {s : State} {stage : Stage A} {k : Nat}
    (hs : s.enter family = some (wrap stage)) (hd : T.Due (stage.todo flow t before) false k h)
    (hk : k < n) :
    T.Plays (fun r h => ∃ s', r = some s' ∧ s'.isComplete = true ∧ deedsOf h = T.plan)
      (attempts family t n s) h := by
  induction n generalizing s stage k h with
  | zero => exact absurd hk (Nat.not_lt_zero k)
  | succ n ih =>
      rw [attempts]
      refine plays_bind ((plays_advance lane ends plans ht hs hd).mono ?_)
      rintro _ h' ⟨s', rfl, hsettled, hd'⟩
      by_cases hcomplete : s'.isComplete = true
      · show T.Plays _ (attempts family t n (wrap s')) h'
        rw [lane.attempts_of_isComplete ht hcomplete]
        refine plays_pure ⟨_, rfl, by rw [lane.isComplete_wrap, hcomplete], ?_⟩
        rw [← hd'.plan, Stage.todo_of_isComplete hcomplete, List.append_nil]
      · -- A failure was used up, so there are still more attempts than failures.
        have hfailed : s'.isFailed flow = true := by simp_all [Stage.isSettled]
        have hless := hd'.failures
        rw [hfailed, Bool.toNat_true] at hless
        have hretry : T.Due (s'.todo flow t before) false (k - 1) h' :=
          ⟨hd'.plan, by rw [Bool.toNat_false]; omega, hd'.hasAllowances⟩
        exact ih (lane.enter_wrap s') hretry (by omega)

end Trial

/-! ## Simulated submissions -/

/-- The state after `n` attempts with a simulated writer, and all that was done. -/
def simulate (salts : Nat → Salt) (w : Writer) (t : Transfer) (n : Nat) :
    Option State × List Deed :=
  let d := attempts w.family t n .empty
  ((d.run (World.partner salts) ⟨w, 0, []⟩).1,
    deedsOf (d.transcript (World.partner salts) ⟨w, 0, []⟩))

/-- What is to be done for a transfer in all, told from the books of the writer. -/
def planOf (t : Transfer) (b : Books) : List Deed :=
  match t.source with
  | .evm => approvalsTodo t t.approvals b
  | .cosmos | .aptos => transferTodo t b

theorem simulate_eq_planOf {t : Transfer} (served : t.source = .evm ∨ t.source = .cosmos)
    {w : Writer} (hfamily : w.family = t.source) (hw : w.hasAllowances = true)
    (salts : Nat → Salt) {n : Nat} (hn : w.failuresLeft < n) :
    ∃ s, simulate salts w t n = (some s, planOf t w.books) ∧ s.isComplete = true := by
  let T : Trial := ⟨salts, ⟨w, 0, []⟩, planOf t w.books⟩
  have hplays : T.Plays (fun r h => ∃ s, r = some s ∧ s.isComplete = true ∧
      deedsOf h = planOf t w.books) (attempts w.family t n .empty) [] := by
    rw [hfamily]
    rcases served with ht | ht
    · have hplan : planOf t w.books = approvalsTodo t t.approvals w.books := by rw [planOf, ht]
      have hd : T.Due (Stage.filling.todo evmFlow t (Approval.todo t)) false w.failuresLeft [] :=
        ⟨hplan.symm, Nat.le_refl _, hw⟩
      rw [ht]
      exact T.plays_attempts evmLane (evmFlow_ends t) (Trial.plans_evmFlow t) ht rfl hd hn
    · have hplan : planOf t w.books = transferTodo t w.books := by rw [planOf, ht]
      have hd : T.Due (Stage.filling.todo cosmosFlow t noTodo) false w.failuresLeft [] :=
        ⟨hplan.symm, Nat.le_refl _, hw⟩
      rw [ht]
      exact T.plays_attempts cosmosLane (cosmosFlow_ends t) (Trial.plans_cosmosFlow t) ht rfl hd hn
  obtain ⟨s, hs, hcomplete, hdeeds⟩ := hplays.run (lawful_nil _)
  exact ⟨s, Prod.ext hs hdeeds, hcomplete⟩

/-- Whatever calls of a simulated writer are told to fail, and how often, a caller that advances a
submission once more than calls can fail brings it to its end. The approvals, the transfer and the
receipts that succeeded on the way are exactly those of a single advance on the same writer without
failures, in the same order; the salts may be different ones. -/
theorem done_exactly_once {t : Transfer} (served : t.source = .evm ∨ t.source = .cosmos)
    (allowances : List (String × Amount)) (script : List (Operation × Nat))
    (salts salts' : Nat → Salt) {n : Nat} (hn : (script.map (·.2)).sum < n) :
    ∃ deeds s s',
      (simulate salts ((Writer.new t.source allowances true).scripted script) t n =
        (some s, deeds) ∧ s.isComplete = true) ∧
      (simulate salts' (Writer.new t.source allowances true) t 1 = (some s', deeds) ∧
        s'.isComplete = true) := by
  obtain ⟨hfamily, hbooks, hallowances, hleft⟩ :=
    (Writer.new t.source allowances true).scripted_keeps script
  have hnone : (Writer.new t.source allowances true).failuresLeft = 0 := rfl
  obtain ⟨s, hs⟩ := simulate_eq_planOf (n := n) served hfamily hallowances salts (by omega)
  obtain ⟨s', hs'⟩ := simulate_eq_planOf (w := Writer.new t.source allowances true) (n := 1)
    served rfl rfl salts' (by omega)
  rw [hbooks] at hs
  exact ⟨_, s, s', hs, hs'⟩

/-- Two approvals, the transfer, and their receipts, in spite of four failures. -/
theorem sample_done_exactly_once :
    ∃ deeds s s', deeds.length = 6 ∧
      (simulate (fun _ => 9) ((Writer.new .evm [] true).scripted
        [(.allowance, 1), (.awaitReceipt, 2), (.submit, 1)]) sample 5 = (some s, deeds) ∧
          s.isComplete = true) ∧
      (simulate (fun _ => 8) (Writer.new .evm [] true) sample 1 = (some s', deeds) ∧
        s'.isComplete = true) := by
  obtain ⟨deeds, s, s', hfaulty, hclean⟩ := done_exactly_once (t := sample) (.inl rfl) []
    [(.allowance, 1), (.awaitReceipt, 2), (.submit, 1)] (fun _ => 9) (fun _ => 8) (n := 5)
    (by decide)
  have hlength : (simulate (fun _ => 8) (Writer.new .evm [] true) sample 1).2.length = 6 := rfl
  rw [show simulate (fun _ => 8) (Writer.new .evm [] true) sample 1 = _ from hclean.1] at hlength
  exact ⟨deeds, s, s', hlength, hfaulty, hclean⟩

end TokenBridge.Submission
