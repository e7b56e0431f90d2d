import TokenBridge.Proofs.Submission.Scan

set_option autoImplicit false

/-! # One family's submissions

The submissions of a family go through the stages of its flow. A `Lane` says how these stages stand
among all states, so that what is proved of stages with any flow holds for each family that can be
served. To show that something holds of a whole history, it is enough to look at one transition
(`Lane.invariant`), and for that at what carries out each step and at what comes after it
(`Progress.obeys_next`).
-/

namespace TokenBridge.Submission

open Dialogue

/-! ## Lanes -/

/-- The stages of `flow`, as states of the submissions on chains of a family. Before the transfer
nothing is sent. -/
structure Lane (family : ChainFamily) {A : Type} (flow : Flow A) (wrap : Stage A → State) :
    Prop where
  enter_empty : State.enter family .empty = some (wrap .filling)
  enter_wrap : ∀ s, State.enter family (wrap s) = some (wrap s)
  isComplete_wrap : ∀ s, (wrap s).isComplete = s.isComplete
  isFailed_wrap : ∀ s, (wrap s).isFailed = s.isFailed flow
  step_wrap : ∀ t s, (wrap s).step t = do return (← s.next flow t).map wrap
  before_prepares : ∀ t a h,
    (flow.next t a).Obeys (fun _ e => Preparation e) (fun _ _ => True) h

/-- Taking a failed stage up again is what its next transition does anyway. -/
theorem Stage.step_eq_next {A : Type} {flow : Flow A} {t : Transfer} (s : Stage A)
    (hflow : ∀ a, flow.isFailed a = true → flow.next t a = return flow.resume? a)
    (hresume : ∀ a, flow.isFailed a = true → (flow.resume? a).isSome) :
    s.step flow t = s.next flow t := by
  rw [step]
  split
  · next hfailed =>
      cases s with
      | filling => cases hfailed
      | switchChain p | transferSubmit p | transferReceipt p =>
          cases p with
          | notStarted | inProgress | complete => cases hfailed
          | failed c r => rfl
      | before a =>
          obtain ⟨a', ha'⟩ := Option.isSome_iff_exists.1 (hresume a hfailed)
          have hnext : (before a).next flow t = flow.next t a >>= enter := rfl
          rw [hnext, hflow a hfailed, resume?, ha']
          rfl
  · rfl

theorem Approval.next_of_isFailed (t : Transfer) {a : Approval} (ha : a.isFailed = true) :
    a.next t = return a.resume? := by
  rcases a with p | p <;> cases p
  case submit.failed | receipt.failed => rfl
  all_goals cases ha

theorem Approval.resume?_isSome {a : Approval} (ha : a.isFailed = true) : a.resume?.isSome := by
  rcases a with p | p <;> cases p
  case submit.failed | receipt.failed => rfl
  all_goals cases ha

theorem evmLane : Lane .evm evmFlow .evm where
  enter_empty := rfl
  enter_wrap _ := rfl
  isComplete_wrap _ := rfl
  isFailed_wrap _ := rfl
  step_wrap t s := by
    have hstep : s.step evmFlow t = s.next evmFlow t :=
      s.step_eq_next (fun _ => Approval.next_of_isFailed t) (fun _ => Approval.resume?_isSome)
    rw [State.step, hstep]
  before_prepares := Approval.obeys_next_preparation

theorem cosmosLane : Lane .cosmos cosmosFlow .cosmos where
  enter_empty := rfl
  enter_wrap _ := rfl
  isComplete_wrap _ := rfl
  isFailed_wrap _ := rfl
  step_wrap t s := by
    have hstep : s.step cosmosFlow t = s.next cosmosFlow t :=
      s.step_eq_next (fun a => nomatch a) (fun a => nomatch a)
    rw [State.step, hstep]
  before_prepares := fun _ a => nomatch a

/-! ## The transition of a step -/

/-- Of a step that is complete `settled` holds, and of any other one `pending`. -/
def Progress.Holds {C R : Type} (pending : C → Log → Prop) (settled : C → R → Log → Prop) :
    Progress C R → Log → Prop
  | .complete c r, h => settled c r h
  | .notStarted c, h | .inProgress c, h | .failed c _, h => pending c h

/-- The transition of a step keeps to the law if what carries the step out does so, and what comes
after it. -/
theorem Progress.obeys_next {C R S : Type} {stage : Progress C R → S} {name : String}
    {act : C → Talk (Except Report R)} {after : C → R → Talk (Option S)} {p : Progress C R}
    {law : Law Effect.Answer} {post : Option S → Log → Prop} {h : Log}
    {pending : C → Log → Prop} {settled : C → R → Log → Prop}
    (hp : p.Holds pending settled h)
    (hstage : ∀ p h, p.Holds pending settled h → post (some (stage p)) h)
    (hact : ∀ c, pending c h →
      (act c).Obeys law (fun o h => (settle name c o).Holds pending settled h) h)
    (hafter : ∀ c r, p = .complete c r → settled c r h → (after c r).Obeys law post h) :
    (p.next stage name act after).Obeys law post h := by
  cases p with
  | notStarted c | failed c _ => exact hstage (.inProgress c) h hp
  | inProgress c =>
      refine obeys_bind.2 ((hact c hp).mono (fun _ _ hx => hx) ?_)
      intro o h' ho
      exact hstage _ h' ho
  | complete c r => exact hafter c r rfl hp

/-! ## The loop -/

section Loop

variable {family : ChainFamily} {A : Type} {flow : Flow A} {wrap : Stage A → State}

/-- `inv` holds of the stage that a state stands for; a submission that is still to be made stands
for its first stage. -/
def Held (wrap : Stage A → State) (inv : Stage A → Log → Prop) (s : State) (h : Log) : Prop :=
  (s = .empty ∧ inv .filling h) ∨ ∃ stage, s = wrap stage ∧ inv stage h

theorem Lane.enter_of_held (lane : Lane family flow wrap) {inv : Stage A → Log → Prop} {s : State}
    {h : Log} (hs : Held wrap inv s h) : ∃ stage, s.enter family = some (wrap stage) ∧
      inv stage h := by
  rcases hs with ⟨rfl, hinv⟩ | ⟨stage, rfl, hinv⟩
  · exact ⟨.filling, lane.enter_empty, hinv⟩
  · exact ⟨stage, lane.enter_wrap stage, hinv⟩

/-- A stage at which the loop ends. -/
def Stage.isSettled (flow : Flow A) (s : Stage A) : Bool := s.isComplete || s.isFailed flow

/-- The loop ends with `post` if every transition leads to it or back to `inv`, where `inv` may
depend on how many more transitions can be made. -/
theorem Lane.obeys_drive (lane : Lane family flow wrap) {t : Transfer} {law : Law Effect.Answer}
    (inv : Nat → Stage A → Log → Prop) (post : Stage A → Log → Prop)
    (stop : ∀ s h, inv 0 s h → post s h)
    (step : ∀ n s h, inv (n + 1) s h → (s.next flow t).Obeys law
      (fun r h => ∃ s', r = some s' ∧ law h (published (wrap s')) ∧
        if s'.isSettled flow then post s' (h ++ [published (wrap s')])
        else inv n s' (h ++ [published (wrap s')])) h)
    (fuel : Nat) {s : Stage A} {h : Log} (hs : inv fuel s h) :
    (drive t fuel (wrap s)).Obeys law (fun r h => ∃ s', r = some (wrap s') ∧ post s' h) h := by
  induction fuel generalizing s h with
  | zero => exact ⟨s, rfl, stop s h hs⟩
  | succ fuel ih =>
      rw [drive, lane.step_wrap, obeys_bind, obeys_bind]
      refine (step fuel s h hs).mono (fun _ _ hx => hx) ?_
      rintro r h' ⟨s', rfl, hlaw, hs'⟩
      rw [obeys_pure]
      show Obeys law _ (publish (wrap s') >>= _) h'
      rw [obeys_bind, obeys_publish, lane.isComplete_wrap, lane.isFailed_wrap]
      refine ⟨hlaw, ?_⟩
      -- The loop ends here with `post`, or goes on with `inv`.
      rw [← Stage.isSettled]
      by_cases hsettled : s'.isSettled flow = true
      · rw [if_pos hsettled] at hs' ⊢
        exact ⟨s', rfl, hs'⟩
      · rw [if_neg hsettled] at hs' ⊢
        exact ih hs'

/-- Advancing a submission makes transitions from where it stands, if it is not complete. -/
theorem Lane.advance_eq (lane : Lane family flow wrap) {t : Transfer} (ht : t.source = family)
    {s : State} {stage : Stage A} (hs : s.enter family = some (wrap stage)) :
    advance family t s =
      if stage.isComplete then return some (wrap stage) else drive t (maxSteps t) (wrap stage) := by
  rw [advance, if_neg (by rw [ht]; exact fun h => h rfl), ht, hs]
  show (if (wrap stage).isComplete then _ else _) = _
  rw [lane.isComplete_wrap]

/-- A transition publishes nothing; the loop does so after it. -/
theorem Lane.next_unpublished (lane : Lane family flow wrap) (t : Transfer) (s : Stage A)
    (h : Log) :
    (s.next flow t).Obeys (fun _ e => ∀ s, e ≠ published s) (fun _ _ => True) h := by
  -- All that is asked are calls of the chain and a salt.
  have hask : ∀ (c : WriterCall) (x : c.Answer) (s : State), answered c x ≠ published s := by
    intro c x s heq
    cases heq
  have henter : ∀ (r : Option A) (h : Log),
      (Stage.enter r).Obeys (fun _ e => ∀ s, e ≠ published s) (fun _ _ => True) h := by
    intro r h
    cases r with
    | some a => exact trivial
    | none => exact obeys_bind.2 fun salt => ⟨fun _ heq => (nomatch heq), trivial⟩
  cases s with
  | filling => exact trivial
  | switchChain p =>
      cases p with
      | inProgress c => exact obeys_bind.2 fun x => ⟨hask _ x, trivial⟩
      | complete c r => exact henter _ _
      | notStarted | failed => exact trivial
  | before a =>
      refine obeys_bind.2 ((lane.before_prepares t a h).mono ?_ fun r h _ => henter r h)
      rintro _ _ ⟨c, x, rfl, -⟩ s
      exact hask c x s
  | transferSubmit p | transferReceipt p =>
      cases p with
      | inProgress c => exact obeys_bind.2 fun x => ⟨hask _ x, trivial⟩
      | notStarted | failed | complete => exact trivial

/-- What every transition keeps, an advance keeps. Of a stage that was reached `reached` holds until
it is published, and then `inv`. -/
theorem Lane.obeys_advance (lane : Lane family flow wrap) {t : Transfer} {law : Law Effect.Answer}
    (inv reached : Stage A → Log → Prop) (ht : t.source = family)
    (announce : ∀ s h, reached s h →
      law h (published (wrap s)) ∧ inv s (h ++ [published (wrap s)]))
    (next : ∀ s h, inv s h → s.isComplete = false →
      (s.next flow t).Obeys law (fun r h => ∃ s', r = some s' ∧ reached s' h) h)
    {s : State} {stage : Stage A} {h : Log} (hs : s.enter family = some (wrap stage))
    (hinv : inv stage h) :
    (advance family t s).Obeys (keeping (Held wrap inv) law)
      (fun r h => ∃ s', r = some (wrap s') ∧ inv s' h) h := by
  rw [lane.advance_eq ht hs]
  by_cases hcomplete : stage.isComplete = true
  · rw [if_pos hcomplete]
    exact ⟨stage, rfl, hinv⟩
  · rw [if_neg hcomplete]
    refine lane.obeys_drive (fun _ s h => inv s h ∧ s.isComplete = false) inv
      (fun _ _ hs => hs.1) ?_ _ ⟨hinv, by simpa using hcomplete⟩
    rintro n s h ⟨hs, hopen⟩
    refine ((next s h hs hopen).and (lane.next_unpublished t s h)).mono ?_ ?_
    · intro h e he
      exact ⟨he.1, fun s heq => absurd heq (he.2 s)⟩
    · rintro r h ⟨⟨s', rfl, hs'⟩, -⟩
      obtain ⟨hlaw, hkept⟩ := announce s' h hs'
      refine ⟨s', rfl, ⟨hlaw, ?_⟩, ?_⟩
      · rintro _ ⟨⟩
        exact .inr ⟨s', rfl, hkept⟩
      · split
        · exact hkept
        · next hsettled => exact ⟨hkept, by simp_all [Stage.isSettled]⟩

/-- What holds at the first stage and is kept by every transition holds in all histories. -/
theorem Lane.invariant (lane : Lane family flow wrap) {passed : Transfer → Prop}
    {law : Law Effect.Answer} {inv : Stage A → Log → Prop} (reached : Stage A → Log → Prop)
    (source : ∀ t, passed t → t.source = family) (start : inv .filling [])
    (announce : ∀ s h, reached s h →
      law h (published (wrap s)) ∧ inv s (h ++ [published (wrap s)]))
    (next : ∀ t s h, passed t → inv s h → s.isComplete = false →
      (s.next flow t).Obeys law (fun r h => ∃ s', r = some s' ∧ reached s' h) h) :
    Invariant family passed law (Held wrap inv) where
  start := .inl ⟨rfl, start⟩
  advance t s h ht hs := by
    obtain ⟨stage, henter, hinv⟩ := lane.enter_of_held hs
    refine (lane.obeys_advance inv reached (source t ht) announce (fun s h => next t s h ht) henter
      hinv).mono (fun _ _ hx => hx) ?_
    rintro r h ⟨s', rfl, hs'⟩ _ ⟨⟩
    exact .inr ⟨s', rfl, hs'⟩

end Loop

end TokenBridge.Submission
