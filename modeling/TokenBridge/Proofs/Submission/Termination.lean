import TokenBridge.Proofs.Submission.Lane

set_option autoImplicit false

/-! # Submissions settle

Every transition that does not fail brings a submission nearer to its end, so that an advance ends
with a state that is complete or failed, and never because its steps are used up.
`Lane.obeys_drive_settled` is the rule for the loop that follows from it, in which steps are not
counted any more.
-/

namespace TokenBridge.Submission

open Dialogue

/-! ## What is left to be done -/

/-- The transitions up to the end of a step. -/
def Progress.left {C R : Type} : Progress C R → Nat
  | .notStarted _ | .failed .. => 2
  | .inProgress _ => 1
  | .complete .. => 0

/-- The transitions for the approvals, if all requirements from an index on have to be approved: six
for each, and three to find that none is left. -/
def Approval.left (t : Transfer) : Approval → Nat
  | .submit (.complete _ none) => 1
  | .submit (.complete _ (some s)) => 7 + 6 * (t.approvals.length - indexAfter t s.index)
  | .submit p => 1 + p.left + 6 * (t.approvals.length - p.context)
  | .receipt p => 4 + p.left + 6 * (t.approvals.length - indexAfter t p.context.index)

/-- The transitions from one of the stages before the transfer, or from the transfer itself. -/
def onward {A : Type} (left : A → Nat) : Option A → Nat
  | none => 5
  | some a => 5 + left a

def Stage.left {A : Type} (flow : Flow A) (left : A → Nat) : Stage A → Nat
  | .filling => onward left flow.first + 4
  | .switchChain p => onward left flow.first + 1 + p.left
  | .before a => onward left (some a)
  | .transferSubmit p => 3 + p.left
  | .transferReceipt p => p.left

/-! ## Flows that come to an end -/

/-- Before the transfer, each transition fails or leaves less to be done, and all of it can be done
in the steps that there are. -/
structure Flow.Ends {A : Type} (flow : Flow A) (t : Transfer) (left : A → Nat) : Prop where
  next : ∀ a h, (flow.next t a).Obeys (fun _ _ => True) (fun r _ =>
    (∃ a', r = some a' ∧ flow.isFailed a' = true) ∨ onward left r < onward left (some a)) h
  first_le : onward left flow.first + 4 ≤ maxSteps t
  stage_le : ∀ a, onward left (some a) ≤ maxSteps t

theorem evmFlow_ends (t : Transfer) : evmFlow.Ends t (Approval.left t) where
  next a h := by
    rcases a with p | p <;> cases p
    case submit.notStarted | submit.failed | receipt.notStarted | receipt.failed |
        receipt.complete =>
      refine .inr ?_
      simp only [onward, Approval.left, Progress.left, Progress.context]
      omega
    case receipt.inProgress s =>
      refine obeys_bind.2 fun x => ⟨trivial, ?_⟩
      cases x with
      | error e => exact .inl ⟨_, rfl, rfl⟩
      | ok receipt =>
          refine .inr ?_
          simp only [Progress.settle, onward, Approval.left, Progress.left, Progress.context]
          omega
    case submit.complete cursor sent =>
      refine .inr ?_
      cases sent with
      | none => simp [onward, Approval.left]
      | some s =>
          simp only [onward, Approval.left, Progress.left, Progress.context, Option.map_some]
          omega
    case submit.inProgress cursor =>
      refine obeys_bind.2 ((obeys_approveFirstShort _ _ cursor h).mono (fun _ _ _ => trivial) ?_)
      intro o h' ho
      match o, ho with
      | .error e, _ => exact .inl ⟨_, rfl, rfl⟩
      | .ok none, _ =>
          refine .inr ?_
          simp only [Progress.settle, onward, Approval.left, Progress.left, Progress.context]
          omega
      | .ok (some s), ⟨hle, r, hr, _⟩ =>
          -- The requirement that was approved is one behind the cursor.
          have hlt : s.index < t.approvals.length := (List.getElem?_eq_some_iff.1 hr).1
          refine .inr ?_
          simp only [Progress.settle, onward, Approval.left, Progress.left, Progress.context,
            indexAfter_of_lt hlt]
          omega
  first_le := by
    simp only [evmFlow, onward, Approval.left, Progress.left, Progress.context, maxSteps]
    omega
  stage_le a := by
    have hleft : a.left t ≤ 7 + 6 * t.approvals.length := by
      rcases a with p | p <;> cases p
      case submit.complete cursor sent =>
        cases sent with
        | none => simp only [Approval.left]; omega
        | some s => simp only [Approval.left]; omega
      all_goals
        simp only [Approval.left, Progress.left, Progress.context]
        omega
    simp only [onward, maxSteps]
    omega

theorem cosmosFlow_ends (t : Transfer) : cosmosFlow.Ends t (fun a => nomatch a) where
  next a := nomatch a
  first_le := by
    simp only [cosmosFlow, onward, maxSteps]
    omega
  stage_le a := nomatch a

section Loop

variable {family : ChainFamily} {A : Type} {flow : Flow A} {wrap : Stage A → State} {t : Transfer}
  {left : A → Nat}

theorem Stage.left_le {bound : Nat} (hfirst : onward left flow.first + 4 ≤ bound)
    (hbefore : ∀ a, onward left (some a) ≤ bound) (s : Stage A) : s.left flow left ≤ bound := by
  have hfive : 5 ≤ onward left flow.first := by
    cases flow.first with
    | none => exact Nat.le_refl 5
    | some a => exact Nat.le_add_right 5 _
  cases s with
  | filling => exact hfirst
  | before a => exact hbefore a
  | switchChain p | transferSubmit p | transferReceipt p =>
      cases p <;> simp only [Stage.left, Progress.left] <;> omega

theorem Flow.Ends.left_le (ends : flow.Ends t left) (s : Stage A) :
    s.left flow left ≤ maxSteps t :=
  s.left_le ends.first_le ends.stage_le

theorem Stage.isComplete_of_left_eq_zero {s : Stage A} (hs : s.left flow left = 0) :
    s.isComplete = true := by
  cases s with
  | transferReceipt p =>
      cases p with
      | complete => rfl
      | notStarted | inProgress | failed => cases hs
  | filling | switchChain p | transferSubmit p =>
      simp only [Stage.left] at hs
      omega
  | before a =>
      simp only [Stage.left, onward] at hs
      omega

/-- A transition leads to a stage that has failed, or from which less than `n` is left. -/
def Nearer (flow : Flow A) (left : A → Nat) (n : Nat) (r : Option (Stage A)) (_ : Log) : Prop :=
  ∃ s', r = some s' ∧ (s'.isFailed flow = true ∨ s'.left flow left < n)

/-- Entering a stage before the transfer, or the transfer, does not change what is left. -/
theorem obeys_enter_nearer {r : Option A} {n : Nat} (h : Log)
    (hr : (∃ a, r = some a ∧ flow.isFailed a = true) ∨ onward left r < n) :
    (Stage.enter r).Obeys (fun _ _ => True) (Nearer flow left n) h := by
  cases r with
  | some a =>
      rcases hr with ⟨_, ⟨rfl⟩, hfailed⟩ | hlt
      · exact ⟨_, rfl, .inl hfailed⟩
      · exact ⟨_, rfl, .inr hlt⟩
  | none =>
      have hlt : onward left none < n := hr.resolve_left fun ⟨_, heq, _⟩ => nomatch heq
      exact obeys_bind.2 fun salt => ⟨trivial, _, rfl, .inr hlt⟩

/-- A step that is carried out, when `base` is left after it. -/
theorem Progress.obeys_next_nearer {C R : Type} {stage : Progress C R → Stage A} {name : String}
    {act : C → Talk (Except Report R)} {after : C → R → Talk (Option (Stage A))}
    {p : Progress C R} {h : Log} (base : Nat)
    (hleft : ∀ p, (stage p).left flow left = base + p.left)
    (hfailed : ∀ p, (stage p).isFailed flow = p.isFailed)
    (hact : ∀ c, (act c).Obeys (fun _ _ => True) (fun _ _ => True) h)
    (hafter : ∀ c r, p = .complete c r →
      (after c r).Obeys (fun _ _ => True) (Nearer flow left base) h) :
    (p.next stage name act after).Obeys (fun _ _ => True)
      (Nearer flow left ((stage p).left flow left)) h := by
  rw [hleft]
  cases p with
  | notStarted c | failed c _ =>
      refine ⟨_, rfl, .inr ?_⟩
      rw [hleft]
      exact Nat.lt_succ_self _
  | inProgress c =>
      refine obeys_bind.2 ((hact c).mono (fun _ _ hx => hx) ?_)
      rintro (e | r) h' -
      · exact ⟨_, rfl, .inl (hfailed _)⟩
      · refine ⟨_, rfl, .inr ?_⟩
        rw [hleft]
        exact Nat.lt_succ_self _
  | complete c r => exact hafter c r rfl

/-- Each transition fails or leaves less to be done. -/
theorem Flow.Ends.obeys_next_nearer (ends : flow.Ends t left) {s : Stage A}
    (hopen : s.isComplete = false) (h : Log) :
    (s.next flow t).Obeys (fun _ _ => True) (Nearer flow left (s.left flow left)) h := by
  cases s with
  | filling => exact ⟨_, rfl, .inr (Nat.lt_succ_self _)⟩
  | before a =>
      refine obeys_bind.2 ((ends.next a h).mono (fun _ _ hx => hx) ?_)
      exact fun r h' hr => obeys_enter_nearer h' hr
  | switchChain p =>
      refine Progress.obeys_next_nearer (onward left flow.first + 1) (fun _ => rfl) (fun _ => rfl)
        (fun _ _ => ⟨trivial, trivial⟩) ?_
      exact fun _ _ _ => obeys_enter_nearer h (.inr (Nat.lt_succ_self _))
  | transferSubmit p =>
      refine Progress.obeys_next_nearer 3 (fun _ => rfl) (fun _ => rfl)
        (fun _ _ => ⟨trivial, trivial⟩) ?_
      exact fun _ _ _ => ⟨_, rfl, .inr (Nat.lt_succ_self _)⟩
  | transferReceipt p =>
      refine Progress.obeys_next_nearer 0 (fun p => (Nat.zero_add p.left).symm) (fun _ => rfl)
        (fun _ _ => ⟨trivial, trivial⟩) ?_
      rintro hash receipt rfl
      cases hopen

/-! ## The loop -/

/-- The loop ends at a settled stage with `post` if every transition leads to such a one or back to
`inv`. -/
theorem Lane.obeys_drive_settled (lane : Lane family flow wrap) (ends : flow.Ends t left)
    {law : Law Effect.Answer} (inv post : Stage A → Log → Prop)
    (step : ∀ s h, inv s h → s.isComplete = false → (s.next flow t).Obeys law
      (fun r h => ∃ s', r = some s' ∧ law h (published (wrap s')) ∧
        if s'.isSettled flow then post s' (h ++ [published (wrap s')])
        else inv s' (h ++ [published (wrap s')])) h)
    {s : Stage A} {h : Log} (hs : inv s h) (hopen : s.isComplete = false) :
    (drive t (maxSteps t) (wrap s)).Obeys law
      (fun r h => ∃ s', r = some (wrap s') ∧ s'.isSettled flow = true ∧ post s' h) h := by
  refine lane.obeys_drive
    (fun n s h => inv s h ∧ s.isComplete = false ∧ s.left flow left ≤ n)
    (fun s h => s.isSettled flow = true ∧ post s h) ?_ ?_ _ ⟨hs, hopen, ends.left_le s⟩
  · -- With no transition left the transfer would be complete.
    rintro s h ⟨-, hopen, hleft⟩
    rw [Stage.isComplete_of_left_eq_zero (Nat.le_zero.1 hleft)] at hopen
    cases hopen
  · rintro n s h ⟨hs, hopen, hleft⟩
    refine ((step s h hs hopen).and (ends.obeys_next_nearer hopen h)).mono (fun _ _ hx => hx.1) ?_
    rintro r h' ⟨⟨s', rfl, hlaw, hs'⟩, _, ⟨rfl⟩, hless⟩
    refine ⟨s', rfl, hlaw, ?_⟩
    by_cases hsettled : s'.isSettled flow = true
    · rw [if_pos hsettled] at hs' ⊢
      exact ⟨hsettled, hs'⟩
    · rw [if_neg hsettled] at hs' ⊢
      obtain ⟨hcomplete, hfailed⟩ : s'.isComplete = false ∧ s'.isFailed flow = false := by
        simpa [Stage.isSettled] using hsettled
      rcases hless with hless | hless
      · rw [hfailed] at hless
        cases hless
      · exact ⟨hs', hcomplete, by omega⟩

theorem Lane.obeys_advance_settled (lane : Lane family flow wrap) (ends : flow.Ends t left)
    (ht : t.source = family) {s : State} {stage : Stage A}
    (hs : s.enter family = some (wrap stage)) (h : Log) :
    (advance family t s).Obeys (fun _ _ => True)
      (fun r _ => ∃ s', r = some s' ∧ (s'.isComplete = true ∨ s'.isFailed = true)) h := by
  rw [lane.advance_eq ht hs]
  by_cases hcomplete : stage.isComplete = true
  · rw [if_pos hcomplete]
    exact ⟨_, rfl, .inl (by rw [lane.isComplete_wrap, hcomplete])⟩
  · rw [if_neg hcomplete]
    refine (lane.obeys_drive_settled ends (fun _ _ => True) (fun _ _ => True) ?_ trivial
      (by simpa using hcomplete)).mono (fun _ _ hx => hx) ?_
    · intro s h _ hopen
      refine (ends.obeys_next_nearer hopen h).mono (fun _ _ _ => trivial) ?_
      rintro r h' ⟨s', rfl, -⟩
      exact ⟨s', rfl, trivial, by split <;> trivial⟩
    · rintro r h' ⟨s', rfl, hsettled, -⟩
      refine ⟨_, rfl, ?_⟩
      rw [lane.isComplete_wrap, lane.isFailed_wrap]
      simpa [Stage.isSettled] using hsettled

end Loop

/-- On a chain that can be served, every advance comes to its end with a submission that is complete
or whose last step has failed, whatever state it starts from and whatever the chain answers. -/
theorem advance_settles {t : Transfer} (served : t.source = .evm ∨ t.source = .cosmos) (s : State)
    (h : Log) :
    (advance t.source t s).Obeys (fun _ _ => True)
      (fun r _ => ∃ s', r = some s' ∧ (s'.isComplete = true ∨ s'.isFailed = true)) h := by
  rcases served with ht | ht
  · rw [ht]
    obtain ⟨stage, hstage⟩ : ∃ stage, s.enter .evm = some (.evm stage) := by
      cases s <;> exact ⟨_, rfl⟩
    exact evmLane.obeys_advance_settled (evmFlow_ends t) ht hstage h
  · rw [ht]
    obtain ⟨stage, hstage⟩ : ∃ stage, s.enter .cosmos = some (.cosmos stage) := by
      cases s <;> exact ⟨_, rfl⟩
    exact cosmosLane.obeys_advance_settled (cosmosFlow_ends t) ht hstage h

end TokenBridge.Submission
