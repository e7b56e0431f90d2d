import TokenBridge.Proofs.Submission.Standing
import TokenBridge.Proofs.Submission.Termination

set_option autoImplicit false

/-! # How long an advance takes

An advance goes on until a submission is complete or a step has failed, and not until its steps are
used up: with more of them it would be the same dialogue (`Lane.drive_eq`). What is left to be done
bounds the states that are published on the way, the last of which comes back.
-/

namespace TokenBridge.Submission

open Dialogue

/-! ## Limits -/

/-- Advances a submission by at most `limit` steps. -/
def advanceWithin (limit : Nat) (writer : ChainFamily) (t : Transfer) (s : State) :
    Talk (Option State) :=
  if writer ≠ t.source then abandon
  else
    match s.enter t.source with
    | none => abandon
    | some s => if s.isComplete then return some s else drive t limit s

section Loop

variable {family : ChainFamily} {A : Type} {flow : Flow A} {wrap : Stage A → State} {t : Transfer}
  {left : A → Nat}

theorem Stage.left_pos (flow : Flow A) (left : A → Nat) {s : Stage A}
    (hopen : s.isComplete = false) : 0 < s.left flow left := by
  refine Nat.pos_of_ne_zero fun hzero => ?_
  rw [Stage.isComplete_of_left_eq_zero hzero] at hopen
  cases hopen

/-- One step of the loop, made from a stage that is not complete. -/
theorem Lane.obeys_step_nearer (lane : Lane family flow wrap) (ends : flow.Ends t left)
    {s : Stage A} (hopen : s.isComplete = false) (h : Log) :
    ((wrap s).step t).Obeys (fun _ _ => True)
      (fun r _ => ∃ s', r = some (wrap s') ∧
        (s'.isFailed flow = true ∨ s'.left flow left < s.left flow left)) h := by
  rw [lane.step_wrap, obeys_bind]
  refine (ends.obeys_next_nearer hopen h).mono (fun _ _ hx => hx) ?_
  rintro r h' ⟨s', rfl, hless⟩
  exact ⟨s', rfl, hless⟩

/-- Once the limit reaches what is left, it makes no difference. -/
theorem Lane.drive_eq (lane : Lane family flow wrap) (ends : flow.Ends t left) {s : Stage A}
    (hopen : s.isComplete = false) {m n : Nat} (hm : s.left flow left ≤ m)
    (hn : s.left flow left ≤ n) : drive t m (wrap s) = drive t n (wrap s) := by
  induction m generalizing s n with
  | zero => exact absurd hm (Nat.not_le.2 (Stage.left_pos flow left hopen))
  | succ m ih =>
      have hpos := Stage.left_pos flow left hopen
      obtain ⟨n, rfl⟩ : ∃ k, n = k + 1 := Nat.exists_eq_add_one.2 (Nat.lt_of_lt_of_le hpos hn)
      rw [drive, drive]
      refine (lane.obeys_step_nearer ends hopen []).bind_congr ?_
      rintro r h ⟨s', rfl, hless⟩
      -- The loop ends with the next stage, or goes on from it with less left to be done.
      refine congrArg (publish (wrap s') >>= ·) (funext fun _ => ?_)
      rw [lane.isComplete_wrap, lane.isFailed_wrap, ← Stage.isSettled]
      by_cases hsettled : s'.isSettled flow = true
      · rw [if_pos hsettled, if_pos hsettled]
      · obtain ⟨hopen', hfailed⟩ : s'.isComplete = false ∧ s'.isFailed flow = false := by
          simpa [Stage.isSettled] using hsettled
        have hless' : s'.left flow left < s.left flow left := by
          simpa [hfailed] using hless
        rw [if_neg hsettled, if_neg hsettled]
        exact ih hopen' (by omega) (by omega)

/-! ## States that are published -/

/-- A transition publishes nothing, fails or leaves less to be done. -/
theorem Lane.obeys_next_counted (lane : Lane family flow wrap) (ends : flow.Ends t left)
    {s : Stage A} (hopen : s.isComplete = false) (h : Log) :
    (s.next flow t).Obeys (fun _ e => ∀ s', e ≠ published s')
      (fun r h' => Nearer flow left (s.left flow left) r h' ∧ statesOf h' = statesOf h) h := by
  have hnext := (ends.obeys_next_nearer hopen h).and (lane.next_unpublished t s h)
  refine (hnext.keep (fun h' => statesOf h' = statesOf h) rfl ?_).mono ?_ ?_
  · intro h' e he hkept
    rw [statesOf_snoc_of_ne he.2, hkept]
  · exact fun _ _ he => he.1.2
  · exact fun _ _ hr => ⟨hr.1.1, hr.2⟩

/-- The loop publishes at most as many states as are left, the last of them settled, and never gives
the submission up. -/
theorem Lane.obeys_drive_counted (lane : Lane family flow wrap) (ends : flow.Ends t left)
    (hwrap : ∀ s, wrap s ≠ .empty) {s : Stage A} (hopen : s.isComplete = false) {bound : Nat}
    (hbound : s.left flow left ≤ bound) :
    (drive t (maxSteps t) (wrap s)).Obeys (fun _ e => e ≠ published .empty)
      (fun r h => ∃ s', r = some (wrap s') ∧ s'.isSettled flow = true ∧
        (statesOf h).length ≤ bound ∧ (statesOf h).getLast? = some (wrap s')) [] := by
  -- What was published and what is left never come to more than the bound.
  refine lane.obeys_drive_settled ends
    (fun s h => (statesOf h).length + s.left flow left ≤ bound)
    (fun s h => (statesOf h).length ≤ bound ∧ (statesOf h).getLast? = some (wrap s)) ?step ?start
    hopen
  case start => simpa [statesOf] using hbound
  case step =>
    intro s h hinv hopen
    have hpos := Stage.left_pos flow left hopen
    refine (lane.obeys_next_counted ends hopen h).mono (fun _ _ he => he _) ?_
    rintro r h' ⟨⟨s', rfl, hless⟩, hstates⟩
    have hlength : (statesOf (h' ++ [published (wrap s')])).length = (statesOf h).length + 1 := by
      rw [statesOf_published, hstates, List.length_append, List.length_singleton]
    refine ⟨s', rfl, ?_, ?_⟩
    · intro heq
      exact hwrap s' (Effect.publish.inj (congrArg Sigma.fst heq))
    · split
      · refine ⟨by omega, ?_⟩
        rw [statesOf_published, List.getLast?_concat]
      · next hsettled =>
          obtain ⟨-, hfailed⟩ : s'.isComplete = false ∧ s'.isFailed flow = false := by
            simpa [Stage.isSettled] using hsettled
          have hless' : s'.left flow left < s.left flow left := by
            simpa [hfailed] using hless
          omega

end Loop

/-! ## Bounds -/

/-- The most states that an advance publishes on chains of a family that can be served: on EVM
chains twelve, and six for each approval. -/
def maxStates (t : Transfer) : ChainFamily → Nat
  | .evm => 12 + 6 * t.approvals.length
  | .cosmos => 9
  | .aptos => 1

/-- How an advance from `s` has ended with `s'`: in a settled state, and without too many states on
the way, the last of which it is; but a submission of the family that was complete is only given
back. -/
structure Concluded (t : Transfer) (s s' : State) (log : Log) : Prop where
  settled : s'.isComplete = true ∨ s'.isFailed = true
  few : (statesOf log).length ≤ maxStates t t.source
  last : if s.family? = some t.source ∧ s.isComplete = true then s' = s ∧ log = []
    else (statesOf log).getLast? = some s'

section Lanes

variable {family : ChainFamily} {A : Type} {flow : Flow A} {wrap : Stage A → State} {t : Transfer}
  {left : A → Nat} {s : State} {stage : Stage A}

/-- A state of the family is gone on from, and any other one is given up for a new submission. -/
def EntersAt (family : ChainFamily) (wrap : Stage A → State) (s : State) (stage : Stage A) : Prop :=
  s.enter family = some (wrap stage) ∧
    ((s.family? = some family ∧ s = wrap stage) ∨ (s.family? ≠ some family ∧ stage = .filling))

theorem Lane.advanceWithin_eq (lane : Lane family flow wrap) (ends : flow.Ends t left)
    (ht : t.source = family) (hs : EntersAt family wrap s stage) {limit : Nat}
    (hlimit : stage.left flow left ≤ limit) : advanceWithin limit family t s = advance family t s := by
  have hwithin : advanceWithin limit family t s =
      if stage.isComplete then return some (wrap stage) else drive t limit (wrap stage) := by
    rw [advanceWithin, if_neg (by rw [ht]; exact fun h => h rfl), ht, hs.1]
    show (if (wrap stage).isComplete then _ else _) = _
    rw [lane.isComplete_wrap]
  rw [hwithin, lane.advance_eq ht hs.1]
  by_cases hcomplete : stage.isComplete = true
  · rw [if_pos hcomplete, if_pos hcomplete]
  · rw [if_neg hcomplete, if_neg hcomplete]
    exact lane.drive_eq ends (by simpa using hcomplete) hlimit (ends.left_le stage)

theorem Lane.obeys_advance_concluded (lane : Lane family flow wrap) (ends : flow.Ends t left)
    (hwrap : ∀ s, wrap s ≠ .empty) (ht : t.source = family) (hs : EntersAt family wrap s stage)
    (hbound : stage.left flow left ≤ maxStates t family) :
    (advance family t s).Obeys (fun _ e => e ≠ published .empty)
      (fun r log => ∃ s', r = some s' ∧ Concluded t s s' log) [] := by
  rw [lane.advance_eq ht hs.1]
  by_cases hcomplete : stage.isComplete = true
  · -- A new submission is not complete, so that the state is one of the family.
    rw [if_pos hcomplete]
    rcases hs.2 with ⟨hfamily, rfl⟩ | ⟨-, rfl⟩
    · have hdone : (wrap stage).isComplete = true := by rw [lane.isComplete_wrap, hcomplete]
      refine ⟨_, rfl, .inl hdone, Nat.zero_le _, ?_⟩
      rw [if_pos ⟨by rw [hfamily, ht], hdone⟩]
      exact ⟨rfl, rfl⟩
    · cases hcomplete
  · rw [if_neg hcomplete]
    have hopen : ¬(s.family? = some t.source ∧ s.isComplete = true) := by
      rintro ⟨hfamily, hdone⟩
      rcases hs.2 with ⟨-, rfl⟩ | ⟨hother, -⟩
      · rw [lane.isComplete_wrap] at hdone
        exact hcomplete hdone
      · rw [ht] at hfamily
        exact hother hfamily
    refine (lane.obeys_drive_counted ends hwrap (by simpa using hcomplete) hbound).mono
      (fun _ _ he => he) ?_
    rintro r h ⟨s', rfl, hsettled, hfew, hlast⟩
    have hsettled' : (wrap s').isComplete = true ∨ (wrap s').isFailed = true := by
      rw [lane.isComplete_wrap, lane.isFailed_wrap]
      simpa [Stage.isSettled] using hsettled
    refine ⟨_, rfl, hsettled', by rwa [ht], ?_⟩
    rwa [if_neg hopen]

end Lanes

theorem exists_entersAt_evm (s : State) : ∃ stage, EntersAt .evm .evm s stage := by
  cases s with
  | evm stage => exact ⟨stage, rfl, .inl ⟨rfl, rfl⟩⟩
  | empty | cosmos => exact ⟨.filling, rfl, .inr ⟨nofun, rfl⟩⟩

theorem exists_entersAt_cosmos (s : State) : ∃ stage, EntersAt .cosmos .cosmos s stage := by
  cases s with
  | cosmos stage => exact ⟨stage, rfl, .inl ⟨rfl, rfl⟩⟩
  | empty | evm => exact ⟨.filling, rfl, .inr ⟨nofun, rfl⟩⟩

/-- On a chain that can be served, every advance comes to its end, whatever state it starts from and
whatever the chain answers: it never gives the submission up, publishes at most twelve states and
six for each approval on EVM chains, and nine on Cosmos chains, and returns the last of them, which
is complete or has failed. Only a submission that was complete already is given back as it is. The
limit on the steps plays no part in this, nor does the index of an approval that is awaited: even
behind the last of all indices, where the search begins again, no more states are published. -/
theorem advance_concludes {t : Transfer} (served : t.source = .evm ∨ t.source = .cosmos)
    (s : State) :
    (∀ limit, maxStates t t.source ≤ limit →
      advanceWithin limit t.source t s = advance t.source t s) ∧
    (advance t.source t s).Obeys (fun _ e => e ≠ published .empty)
      (fun r log => ∃ s', r = some s' ∧ Concluded t s s' log) [] := by
  rcases served with ht | ht
  · obtain ⟨stage, hstage⟩ := exists_entersAt_evm s
    have hleft := (evmFlow_ends t).left_le stage
    have hwrap : ∀ stage, State.evm stage ≠ .empty := by
      rintro _ ⟨⟩
    rw [ht]
    refine ⟨fun limit hlimit => ?_, ?_⟩
    · exact evmLane.advanceWithin_eq (evmFlow_ends t) ht hstage (Nat.le_trans hleft hlimit)
    · exact evmLane.obeys_advance_concluded (evmFlow_ends t) hwrap ht hstage hleft
  · obtain ⟨stage, hstage⟩ := exists_entersAt_cosmos s
    have hleft : ∀ left, stage.left cosmosFlow left ≤ maxStates t .cosmos :=
      fun left => stage.left_le (Nat.le_refl 9) fun a => a.elim
    have hwrap : ∀ stage, State.cosmos stage ≠ .empty := by
      rintro _ ⟨⟩
    rw [ht]
    refine ⟨fun limit hlimit => ?_, ?_⟩
    · exact cosmosLane.advanceWithin_eq (cosmosFlow_ends t) ht hstage
        (Nat.le_trans (hleft _) hlimit)
    · exact cosmosLane.obeys_advance_concluded (cosmosFlow_ends t) hwrap ht hstage (hleft _)

/-- A writer on which no call fails and nothing has been approved. -/
def freshWorld : Simulation.World := ⟨Simulation.Writer.new .evm [] true, 0, []⟩

/-- Both requirements of the sample have to be approved, and the bound is attained. -/
theorem sample_concludes : (sample.source = .evm ∨ sample.source = .cosmos) ∧
    ∃ s', ((advance .evm sample .empty).run samplePartner freshWorld).1 = some s' ∧
      Concluded sample .empty s' ((advance .evm sample .empty).transcript samplePartner freshWorld) ∧
      (statesOf ((advance .evm sample .empty).transcript samplePartner freshWorld)).length =
        maxStates sample .evm := by
  have served : sample.source = .evm ∨ sample.source = .cosmos := .inl rfl
  obtain ⟨s', hs', hconcluded⟩ := ((advance_concludes served .empty).2.leads
    (leads_transcript samplePartner freshWorld _) (lawful_nil _)).2
  exact ⟨served, s', hs', hconcluded, rfl⟩

/-- An approval was sent at the last of all indices. -/
def endOfIndices : State :=
  .evm (.before (.submit (.complete 0 (some ⟨UInt64.size - 1, "hash"⟩))))

example :
    let states := statesOf ((advance .evm sample endOfIndices).transcript samplePartner freshWorld)
    states[3]? = some (.evm (.before (.submit (.notStarted 0)))) ∧
      states.length = maxStates sample .evm := by
  decide +kernel

end TokenBridge.Submission
