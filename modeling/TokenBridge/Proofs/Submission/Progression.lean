import Mathlib.Data.List.Chain
import TokenBridge.Proofs.Submission.Turn

set_option autoImplicit false

/-! # Submissions go on and never back

Whatever a chain answers, and however often a submission fails or is stopped and is taken up again,
the states that are published pass the positions in order, and what follows a failure is the same
step with the same context.
-/

namespace TokenBridge.Submission

open Dialogue

/-! ## The law -/

/-- A state that is published follows the one that was published last. -/
def Onward : Law Effect.Answer := fun h e => ∀ s, e = published s → (lastState h).Follows s

/-- The states of a log, each of which follows the one before it. -/
structure Progression (log : Log) : Prop where
  stepwise : (.empty :: statesOf log).IsChain State.Follows
  forward : (statesOf log).Pairwise fun s s' => s.standing.position ≤ s'.standing.position

theorem Onward.isChain {log : Log} (hlog : Lawful Onward log) :
    (.empty :: statesOf log).IsChain State.Follows := by
  induction log using List.reverseRecOn with
  | nil => exact .singleton _
  | append_singleton log e ih =>
      obtain ⟨hinit, he⟩ := lawful_snoc.1 hlog
      by_cases hpub : ∃ s, e = published s
      · obtain ⟨s, rfl⟩ := hpub
        rw [statesOf_published, ← List.cons_append]
        refine (ih hinit).append (.singleton s) ?_
        intro last hlast s' hs'
        obtain rfl : s = s' := by simpa using hs'
        obtain rfl : lastState log = last := by simpa [lastState, List.getLast?_cons] using hlast
        exact he s rfl
      · rw [statesOf_snoc_of_ne fun s heq => hpub ⟨s, heq⟩]
        exact ih hinit

theorem Onward.progression {log : Log} (hlog : Lawful Onward log) : Progression log where
  stepwise := isChain hlog
  forward := by
    have hle : (statesOf log).IsChain fun s s' => s.standing.position ≤ s'.standing.position :=
      (isChain hlog).tail.imp fun _ _ h => h.position_le
    rw [← List.pairwise_map]
    exact ((List.isChain_map _).2 hle).pairwise

/-! ## Whole histories -/

section Loop

variable {family : ChainFamily} {A : Type} {flow : Flow A} {wrap : Stage A → State}
  {before : A → Standing} {t : Transfer}

/-- The state that was published last is that of the stage, or nothing was published yet. -/
def LastStage (wrap : Stage A → State) (s : Stage A) (h : Log) : Prop :=
  lastState h = wrap s ∨ (lastState h = .empty ∧ s = .filling)

theorem LastStage.follows (hstanding : ∀ s, (wrap s).standing = s.standing before)
    (hfamily : ∀ s s', (wrap s).family? = (wrap s').family?) {s s' : Stage A} {h : Log}
    (hs : LastStage wrap s h) (hfollows : (s.standing before).Follows (s'.standing before)) :
    (lastState h).Follows (wrap s') := by
  rcases hs with hlast | ⟨hlast, rfl⟩
  · rw [hlast]
    refine .advanced (hfamily s s') ?_
    rwa [hstanding, hstanding]
  · rw [hlast]
    refine .begun ?_
    rwa [hstanding]

theorem Lane.invariant_onward (lane : Lane family flow wrap) (hflow : flow.Stands t before)
    (hstanding : ∀ s, (wrap s).standing = s.standing before)
    (hfamily : ∀ s s', (wrap s).family? = (wrap s').family?) (ht : t.source = family) :
    Invariant family (· = t) Onward
      (Held wrap fun s h => Quiet h ∧ (s.standing before).Ordered t ∧ LastStage wrap s h) := by
  -- Of a stage that was reached it is known that its state may be published.
  refine lane.invariant
    (fun s h => (lastState h).Follows (wrap s) ∧ (s.standing before).Ordered t)
    (fun _ heq => heq ▸ ht) ?start ?announce ?next
  case start =>
    refine ⟨quiet_nil, ⟨?_, ?_⟩, .inr ⟨rfl, rfl⟩⟩
    · exact fun _ _ heq => nomatch heq
    · exact fun _ heq => nomatch heq
  case announce =>
    rintro s h ⟨hfollows, hordered⟩
    have honward : Onward h (published (wrap s)) := by
      rintro _ ⟨⟩
      exact hfollows
    exact ⟨honward, quiet_published h (wrap s), hordered, .inl (lastState_published h (wrap s))⟩
  case next =>
    rintro _ s h rfl ⟨hh, hordered, hlast⟩ hopen
    refine (lane.obeys_next_turn hflow s hopen hh).mono ?_ ?_
    · intro h' e he s' heq
      exact absurd heq (he.1.2 s')
    · rintro r h' ⟨s', rfl, hturn, hkept⟩
      have hfollows := hlast.follows hstanding hfamily (hturn.follows hordered)
      refine ⟨s', rfl, ?_, hturn.ordered hordered⟩
      rwa [hkept]

/-! ## Failures -/

/-- The transition of a step that has failed takes it up again, and asks nothing. -/
theorem Progress.next_of_failed {C R S : Type} {stage : Progress C R → S} {name : String}
    {act : C → Talk (Except Report R)} {after : C → R → Talk (Option S)} {p : Progress C R}
    {f : C → Datum} {g : R → Datum} {q : Position} {d : Datum} {reason : StepFailure}
    (standing : S → Standing) (position : C → Position)
    (hstage : ∀ p, standing (stage p) = p.standing position f g)
    (hp : standing (stage p) = ⟨q, .failed d reason⟩) :
    ∃ s, p.next stage name act after = pure (some s) ∧ standing s = ⟨q, .inProgress d⟩ := by
  rw [hstage] at hp
  cases p with
  | failed c r =>
      cases hp
      exact ⟨stage (.inProgress c), rfl, hstage _⟩
  | notStarted | inProgress | complete => cases hp

/-- The stages of a flow that have failed are taken up again. -/
def Flow.Retries (flow : Flow A) (t : Transfer) (before : A → Standing) : Prop :=
  ∀ a p d reason, before a = ⟨p, .failed d reason⟩ →
    ∃ a', flow.next t a = pure (some a') ∧ before a' = ⟨p, .inProgress d⟩

theorem evmFlow_retries (t : Transfer) : evmFlow.Retries t Approval.standing := by
  rintro (p | p) q d reason hfailed
  · exact Progress.next_of_failed Approval.standing .approvalSubmit (fun _ => rfl) hfailed
  · exact Progress.next_of_failed Approval.standing
      (fun s : SubmittedApproval => .approvalReceipt s.index) (fun _ => rfl) hfailed

theorem cosmosFlow_retries (t : Transfer) : cosmosFlow.Retries t (fun a => nomatch a) :=
  fun a => nomatch a

theorem Stage.next_of_failed (hflow : flow.Retries t before) {s : Stage A} {p : Position}
    {d : Datum} {reason : StepFailure} (hs : s.standing before = ⟨p, .failed d reason⟩) :
    ∃ s', s.next flow t = pure (some s') ∧ s'.standing before = ⟨p, .inProgress d⟩ := by
  cases s with
  | filling => cases hs
  | before a =>
      obtain ⟨a', hnext, ha'⟩ := hflow a p d reason hs
      refine ⟨.before a', ?_, ha'⟩
      rw [Stage.next, hnext]
      rfl
  | switchChain q =>
      exact Progress.next_of_failed (standing before) (fun _ => .switchChain) (fun _ => rfl) hs
  | transferSubmit q =>
      exact Progress.next_of_failed (standing before) (fun _ => .transferSubmit) (fun _ => rfl) hs
  | transferReceipt q =>
      exact Progress.next_of_failed (standing before) (fun _ => .transferReceipt) (fun _ => rfl) hs

theorem Stage.isComplete_of_failed {s : Stage A} {p : Position} {d : Datum} {reason : StepFailure}
    (hs : s.standing before = ⟨p, .failed d reason⟩) : s.isComplete = false := by
  cases s with
  | transferReceipt q =>
      cases q with
      | complete => cases hs
      | notStarted | inProgress | failed => rfl
  | filling | switchChain | before | transferSubmit => rfl

/-- If the submission has failed, an advance begins with publishing that the step which has failed
is in progress again, with the same context. -/
def Resumes (writer : ChainFamily) (t : Transfer) (s : State) : Prop :=
  ∀ p context reason, s.standing = ⟨p, .failed context reason⟩ →
    ∃ s' next, s'.standing = ⟨p, .inProgress context⟩ ∧ s'.family? = s.family? ∧
      advance writer t s = .ask (.publish s') next

theorem Lane.resumes (lane : Lane family flow wrap) (hflow : flow.Retries t before)
    (hstanding : ∀ s, (wrap s).standing = s.standing before)
    (hfamily : ∀ s s', (wrap s).family? = (wrap s').family?) (ht : t.source = family)
    {inv : Stage A → Log → Prop} {s : State} {h : Log} (hs : Held wrap inv s h) :
    Resumes family t s := by
  intro p context reason hfailed
  rcases hs with ⟨rfl, -⟩ | ⟨s, rfl, -⟩
  · cases hfailed
  · rw [hstanding] at hfailed
    obtain ⟨s', hnext, hs'⟩ := Stage.next_of_failed hflow hfailed
    obtain ⟨fuel, hfuel⟩ : ∃ fuel, maxSteps t = fuel + 1 :=
      Nat.exists_eq_add_one.2 (by unfold maxSteps; omega)
    have hopen : ¬s.isComplete = true := by simp [Stage.isComplete_of_failed hfailed]
    have hadvance : advance family t (wrap s) = (do
        publish (wrap s')
        if (wrap s').isComplete || (wrap s').isFailed then return some (wrap s')
        else drive t fuel (wrap s')) := by
      rw [lane.advance_eq ht (lane.enter_wrap s), if_neg hopen, hfuel, drive, lane.step_wrap, hnext]
      rfl
    exact ⟨wrap s', _, (hstanding s').trans hs', hfamily s' s, hadvance⟩

theorem Lane.progression (lane : Lane family flow wrap) (hflow : flow.Stands t before)
    (hretries : flow.Retries t before) (hstanding : ∀ s, (wrap s).standing = s.standing before)
    (hfamily : ∀ s s', (wrap s).family? = (wrap s').family?) (ht : t.source = family)
    {s : State} {h new : Log} {rest : Talk (Option State)} (hh : History family (· = t) s h)
    (hl : (advance family t s).Leads new rest) :
    Progression (h ++ new) ∧ Resumes family t s := by
  have hinv := lane.invariant_onward hflow hstanding hfamily ht
  constructor
  · exact Onward.progression (hinv.lawful hh rfl hl)
  · exact lane.resumes hretries hstanding hfamily ht (hinv.of_history hh).1

end Loop

/-! ## Chains that cannot be served -/

theorem onward_of_abandoned {log : Log} (hlog : Lawful (fun _ e => e = published .empty) log) :
    Lawful Onward log := by
  rintro pre e post hsplit s rfl
  have hs : s = .empty := by
    cases hlog pre _ post hsplit
    rfl
  have hpre : lastState pre = .empty := by
    rcases List.eq_nil_or_concat pre with rfl | ⟨pre, e, rfl⟩
    · rfl
    · obtain rfl := hlog pre e (published s :: post) (by simp [hsplit])
      rw [List.concat_eq_append, lastState_published]
  rw [hs, hpre]
  exact .abandoned

theorem progression_of_abandoned {writer : ChainFamily} {t : Transfer}
    (habandon : writer ≠ t.source ∨ t.source = .aptos) {s : State} {h new : Log}
    {rest : Talk (Option State)} (hh : History writer (· = t) s h)
    (hl : (advance writer t s).Leads new rest) :
    Progression (h ++ new) ∧ Resumes writer t s := by
  have hinv : Invariant writer (· = t) _ _ := invariant_abandon fun t' ht' => ht' ▸ habandon
  constructor
  · exact Onward.progression (onward_of_abandoned (hinv.lawful hh rfl hl))
  · intro p context reason hfailed
    rw [(hinv.of_history hh).1] at hfailed
    cases hfailed

/-! ## All chains -/

/-- A caller goes on with one transfer, and whatever is answered, the states that are published pass
the positions in order, and in one position a step starts, comes to an end, and starts again only
after a failure, with the same context. Taking up a submission that has failed begins with
publishing that. -/
theorem progression_of_history {writer : ChainFamily} {t : Transfer} {s : State} {h new : Log}
    {rest : Talk (Option State)} (hh : History writer (· = t) s h)
    (hl : (advance writer t s).Leads new rest) :
    Progression (h ++ new) ∧ Resumes writer t s := by
  by_cases hwriter : writer = t.source
  · obtain rfl := hwriter
    cases hsource : t.source with
    | evm =>
        rw [hsource] at hh hl
        exact evmLane.progression (evmFlow_stands t) (evmFlow_retries t) (fun _ => rfl)
          (fun _ _ => rfl) hsource hh hl
    | cosmos =>
        rw [hsource] at hh hl
        exact cosmosLane.progression (cosmosFlow_stands t) (cosmosFlow_retries t) (fun _ => rfl)
          (fun _ _ => rfl) hsource hh hl
    | aptos => exact hsource ▸ progression_of_abandoned (.inr hsource) hh hl
  · exact progression_of_abandoned (.inl hwriter) hh hl

/-- The sample fails while it waits for the first approval, and is taken up right there. -/
theorem sample_progression : Progression (sampleLog ++ sampleRest) ∧
    ∃ hash s' next, sampleState.standing.position = .approvalReceipt 0 ∧
      s'.standing = ⟨.approvalReceipt 0, .inProgress (.approval ⟨0, hash⟩)⟩ ∧
      advance .evm sample sampleState = .ask (.publish s') next := by
  obtain ⟨rest, hl⟩ := sample_leads
  obtain ⟨hprogression, hresumes⟩ := progression_of_history sample_history hl
  obtain ⟨s', next, hs', -, hadvance⟩ := hresumes _ _ _ rfl
  exact ⟨hprogression, _, s', next, rfl, hs', hadvance⟩

end TokenBridge.Submission
