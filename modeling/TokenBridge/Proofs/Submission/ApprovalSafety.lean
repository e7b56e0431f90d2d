import TokenBridge.Proofs.Submission.Lane

set_option autoImplicit false

/-! # Nothing is sent before every requirement is met

A requirement is met when its allowance was read and was high enough, or when its approval was sent
and the receipt of that very approval came. The cursor of the approvals stands behind requirements
that are met, and is moved past one that was approved only by the receipt; so all of them are met
when the transfer is sent, whatever failed before and however often the submission was taken up
again.
-/

namespace TokenBridge.Submission

open Dialogue

/-! ## Requirements that are met -/

/-- The allowance was read and was enough, or it was approved and the approval carried out. -/
def Met (spender : String) (h : Log) (r : Requirement) : Prop :=
  Enough spender h r ∨ ∃ hash receipt,
    List.Sublist [answered (.approve r.token spender r.amount) (.ok hash),
      answered (.awaitReceipt hash) (.ok receipt)] h

theorem Met.append {spender : String} {h : Log} {r : Requirement} (new : Log)
    (hr : Met spender h r) : Met spender (h ++ new) r := by
  rcases hr with hr | ⟨hash, receipt, hr⟩
  · exact .inl (hr.append new)
  · exact .inr ⟨hash, receipt, hr.trans (List.sublist_append_left h new)⟩

/-- The receipt of an approval meets its requirement. -/
theorem Approved.met {spender : String} {h : Log} {r : Requirement} {hash : TxHash}
    (hr : Approved spender h r hash) (receipt : Receipt) :
    Met spender (h ++ [answered (.awaitReceipt hash) (.ok receipt)]) r :=
  .inr ⟨hash, receipt, (List.singleton_sublist.2 hr).append (List.Sublist.refl _)⟩

/-- All requirements before the one at `n` are met. -/
def MetUpTo (t : Transfer) (n : Nat) (h : Log) : Prop :=
  ∀ r ∈ t.approvals.take n, Met t.endpoint.contract h r

/-- The approval that was sent is the one of its requirement, and those before it are met. -/
def Awaited (t : Transfer) (s : SubmittedApproval) (h : Log) : Prop :=
  MetUpTo t s.index h ∧ ∃ r, t.approvals[s.index]? = some r ∧
    Approved t.endpoint.contract h r s.hash

theorem MetUpTo.append {t : Transfer} {n : Nat} {h : Log} (new : Log) (hm : MetUpTo t n h) :
    MetUpTo t n (h ++ new) :=
  fun r hr => (hm r hr).append new

theorem Awaited.append {t : Transfer} {s : SubmittedApproval} {h : Log} (new : Log)
    (hs : Awaited t s h) : Awaited t s (h ++ new) := by
  obtain ⟨hm, r, hr, happroved⟩ := hs
  exact ⟨hm.append new, r, hr, List.mem_append_left _ happroved⟩

theorem metUpTo_length {t : Transfer} {h : Log} :
    MetUpTo t t.approvals.length h ↔ ∀ r ∈ t.approvals, Met t.endpoint.contract h r := by
  rw [MetUpTo, List.take_length]

/-- Requirements that were read as met are met together with those before the cursor. -/
theorem MetUpTo.of_enough {t : Transfer} {c n : Nat} {h : Log} (hm : MetUpTo t c h)
    (henough : ∀ r ∈ (t.approvals.take n).drop c, Enough t.endpoint.contract h r) :
    MetUpTo t n h := by
  intro r hr
  rw [← List.take_append_drop c (t.approvals.take n), List.mem_append, List.take_take] at hr
  rcases hr with hr | hr
  · exact hm r (List.take_subset_take_left _ (Nat.min_le_left c n) hr)
  · exact .inl (henough r hr)

/-- The receipt of an awaited approval moves the bound past it. -/
theorem Awaited.metUpTo_indexAfter {t : Transfer} {s : SubmittedApproval} {h : Log}
    (hs : Awaited t s h) (receipt : Receipt) :
    MetUpTo t (indexAfter t s.index)
      (h ++ [answered (.awaitReceipt s.hash) (.ok receipt)]) := by
  obtain ⟨hm, r, hr, happroved⟩ := hs
  have hlt : s.index < t.approvals.length := (List.getElem?_eq_some_iff.1 hr).1
  intro r' hr'
  rw [indexAfter_of_lt hlt, List.take_add_one, hr, List.mem_append] at hr'
  rcases hr' with hr' | hr'
  · exact (hm r' hr').append _
  · obtain rfl : r' = r := by simpa using hr'
    exact happroved.met receipt

/-! ## The invariant -/

/-- What is known of the requirements at each stage of the approvals. -/
def Approval.Safe (t : Transfer) : Approval → Log → Prop
  | .submit p => p.Holds (fun cursor h => MetUpTo t cursor h) fun _ sent h =>
      match sent with
      | none => MetUpTo t t.approvals.length h
      | some s => Awaited t s h
  | .receipt p =>
      p.Holds (fun s h => Awaited t s h) fun s _ h => MetUpTo t (indexAfter t s.index) h

/-- At the transfer, all requirements are met. -/
def Stage.Safe (t : Transfer) : Stage Approval → Log → Prop
  | .filling, _ | .switchChain _, _ => True
  | .before a, h => a.Safe t h
  | .transferSubmit _, h | .transferReceipt _, h => MetUpTo t t.approvals.length h

theorem Approval.Safe.append {t : Transfer} {a : Approval} {h : Log} (new : Log)
    (ha : a.Safe t h) : a.Safe t (h ++ new) := by
  rcases a with p | p <;> cases p
  case submit.complete cursor sent =>
    cases sent with
    | none => exact MetUpTo.append new ha
    | some s => exact Awaited.append new ha
  case submit.notStarted | submit.inProgress | submit.failed | receipt.complete =>
    exact MetUpTo.append new ha
  case receipt.notStarted | receipt.inProgress | receipt.failed => exact Awaited.append new ha

theorem Stage.Safe.append {t : Transfer} {s : Stage Approval} {h : Log} (new : Log)
    (hs : s.Safe t h) : s.Safe t (h ++ new) := by
  cases s with
  | filling | switchChain p => exact trivial
  | before a => exact Approval.Safe.append new hs
  | transferSubmit p | transferReceipt p => exact MetUpTo.append new hs

/-- A transfer is sent only when all requirements are met. -/
def sendsWhenMet (t : Transfer) : Law Effect.Answer :=
  fun h e => ∀ request x, e = answered (.submit request) x →
    ∀ r ∈ t.approvals, Met t.endpoint.contract h r

theorem sendsWhenMet_of_preparation (t : Transfer) (h : Log) {e : Event} (he : Preparation e) :
    sendsWhenMet t h e := by
  obtain ⟨c, x, rfl, hc⟩ := he
  intro request y heq
  cases heq
  exact absurd rfl (hc request)

/-! ## One transition -/

/-- The stage that the approvals go on to, or the transfer if there is none. -/
def safeAfter (t : Transfer) : Option Approval → Log → Prop
  | some a, h => a.Safe t h
  | none, h => MetUpTo t t.approvals.length h

theorem Approval.obeys_next_safe (t : Transfer) {a : Approval} {h : Log} (ha : a.Safe t h) :
    (a.next t).Obeys (sendsWhenMet t) (safeAfter t) h := by
  cases a with
  | submit p =>
      refine Progress.obeys_next ha (fun _ _ hp => hp) ?_ ?_
      · intro cursor hmet
        have hscan := obeys_approveFirstShort t.endpoint.contract t.approvals cursor h
        refine hscan.grows.mono (fun h e he => sendsWhenMet_of_preparation t h he.preparation) ?_
        rintro o _ ⟨⟨new, rfl⟩, ho⟩
        have hmet' := MetUpTo.append new hmet
        -- A failure keeps the cursor, and what was read is read again from there.
        match o, ho with
        | .error e, _ => exact hmet'
        | .ok none, ho =>
            refine hmet'.of_enough ?_
            rwa [List.take_length]
        | .ok (some s), ⟨_, r, hr, henough, happroved⟩ =>
            exact ⟨hmet'.of_enough henough, r, hr, happroved⟩
      · rintro cursor (_ | s) rfl hsettled
        · exact hsettled
        · exact hsettled
  | receipt p =>
      refine Progress.obeys_next ha (fun _ _ hp => hp) ?_ ?_
      · intro s hs x
        refine ⟨sendsWhenMet_of_preparation t _ (preparation_awaitReceipt s.hash x), ?_⟩
        cases x with
        | error e => exact Awaited.append _ hs
        | ok receipt => exact hs.metUpTo_indexAfter receipt
      · intro s receipt _ hmet
        exact hmet

/-- Every transition keeps what is known of the requirements, and sends only when all are met. -/
theorem Stage.obeys_next_safe (t : Transfer) {s : Stage Approval} {h : Log} (hs : s.Safe t h)
    (hopen : s.isComplete = false) :
    (s.next evmFlow t).Obeys (sendsWhenMet t) (fun r h => ∃ s', r = some s' ∧ s'.Safe t h) h := by
  cases s with
  | filling => exact ⟨_, rfl, trivial⟩
  | switchChain p =>
      cases p with
      | notStarted | failed => exact ⟨_, rfl, trivial⟩
      | inProgress c =>
          refine obeys_bind.2 fun x => ⟨?_, _, rfl, trivial⟩
          exact sendsWhenMet_of_preparation t _ (preparation_switchChain x)
      | complete c r =>
          -- The cursor stands before the first requirement.
          refine ⟨_, rfl, fun r hr => ?_⟩
          rw [List.take_zero] at hr
          cases hr
  | before a =>
      refine obeys_bind.2 ((Approval.obeys_next_safe t hs).mono (fun _ _ hx => hx) ?_)
      intro r h' hr
      cases r with
      | some a' => exact ⟨_, rfl, hr⟩
      | none =>
          refine obeys_bind.2 fun salt => ⟨fun _ _ heq => (nomatch heq), _, rfl, ?_⟩
          exact MetUpTo.append _ hr
  | transferSubmit p =>
      cases p with
      | notStarted | failed | complete => exact ⟨_, rfl, hs⟩
      | inProgress salt =>
          refine obeys_bind.2 fun x => ⟨fun _ _ _ => metUpTo_length.1 hs, _, rfl, ?_⟩
          exact MetUpTo.append _ hs
  | transferReceipt p =>
      cases p with
      | notStarted | failed => exact ⟨_, rfl, hs⟩
      | complete => cases hopen
      | inProgress hash =>
          refine obeys_bind.2 fun x => ⟨?_, _, rfl, MetUpTo.append _ hs⟩
          exact sendsWhenMet_of_preparation t _ (preparation_awaitReceipt hash x)

/-! ## Whole histories -/

theorem invariant_safe (t : Transfer) (evm : t.source = .evm) :
    Invariant .evm (· = t) (sendsWhenMet t) (Held .evm fun s h => s.Safe t h) := by
  refine evmLane.invariant (fun s h => s.Safe t h) (fun _ ht => ht ▸ evm) trivial ?_ ?_
  · intro s h hs
    exact ⟨fun _ _ heq => (nomatch heq), hs.append _⟩
  · rintro _ s h rfl hs hopen
    exact Stage.obeys_next_safe _ hs hopen

/-- Whenever a transfer from an EVM chain is sent, each of its requirements has been met before:
its allowance was read and was at least the amount, or exactly its approval was sent and the
receipt of that approval came after it. This is so on every chain, whatever it answers, and in every
history of calls, also of such as were stopped on the way. -/
theorem requirements_met_when_sent {writer : ChainFamily} {t : Transfer} (evm : t.source = .evm)
    {s : State} {h new : Log} {rest : Talk (Option State)} (hh : History writer (· = t) s h)
    (hl : (advance writer t s).Leads new rest) {pre post : Log} {request : SendRequest}
    {answer : Except Report TxHash}
    (hsent : h ++ new = pre ++ answered (.submit request) answer :: post) :
    ∀ r ∈ t.approvals, Met t.endpoint.contract pre r := by
  by_cases hw : writer = t.source
  · rw [hw, evm] at hh hl
    exact (invariant_safe t evm).lawful hh rfl hl pre _ post hsent request answer rfl
  · -- A chain of another family is asked for nothing.
    have hnone := (invariant_abandon fun t' ht' => .inl (ht' ▸ hw)).lawful hh rfl hl
    exact nomatch hnone pre _ post hsent

/-- The sample is sent after two approvals, the first of which got its receipt only later. -/
theorem requirements_met_when_sample_sent :
    Met "bridge" ((sampleLog ++ sampleRest).take 31) ⟨"token", 5⟩ ∧
      Met "bridge" ((sampleLog ++ sampleRest).take 31) ⟨"token", 8⟩ := by
  obtain ⟨rest, hl⟩ := sample_leads
  have hsent : sampleLog ++ sampleRest = (sampleLog ++ sampleRest).take 31 ++
      answered (.submit (sample.request 9)) (.ok (Simulation.Writer.hashText 3)) ::
        (sampleLog ++ sampleRest).drop 32 := rfl
  have hmet := requirements_met_when_sent rfl sample_history hl hsent
  exact ⟨hmet _ (.head _), hmet _ (.tail _ (.head _))⟩

end TokenBridge.Submission
