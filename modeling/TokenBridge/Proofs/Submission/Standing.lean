import Mathlib.Data.Prod.Lex
import TokenBridge.Proofs.Submission.Lane

set_option autoImplicit false

/-! # Where a submission stands

The stages of all families on one line. A `Position` is a step together with how far the approvals
have come, and positions are ordered as they are passed. A `Standing` is a position with the
progress that was made there, so that what one state may follow another by can be said for all steps
at once (`Standing.Follows`).
-/

namespace TokenBridge.Submission

/-! ## Positions -/

inductive Position
  | filling
  | switchChain
  /-- Looks for a requirement that is not met, from `cursor` on. -/
  | approvalSubmit (cursor : Nat)
  /-- Waits for the approval of the requirement at `index`. -/
  | approvalReceipt (index : Nat)
  | transferSubmit
  | transferReceipt
  deriving Repr

namespace Position

/-- The approvals stand between switching and sending. Among them, what was approved stands between
the search that began there and the one that goes on behind it. -/
def key : Position → Nat ×ₗ Nat
  | filling => toLex (0, 0)
  | switchChain => toLex (1, 0)
  | approvalSubmit cursor => toLex (2, 2 * cursor)
  | approvalReceipt index => toLex (2, 2 * index + 1)
  | transferSubmit => toLex (3, 0)
  | transferReceipt => toLex (4, 0)

theorem key_injective : Function.Injective key := by
  intro p q h
  -- What is left are two searches, two receipts, and one of each, whose keys differ in parity.
  cases p <;> cases q <;> simp [key] at h ⊢ <;> omega

instance : LinearOrder Position := LinearOrder.lift' key key_injective

theorem lt_iff {p q : Position} : p < q ↔ p.key < q.key := Iff.rfl

theorem filling_lt_switchChain : filling < switchChain := by
  simp [lt_iff, key, Prod.Lex.toLex_lt_toLex]

theorem switchChain_lt_approvalSubmit (cursor : Nat) : switchChain < approvalSubmit cursor := by
  simp [lt_iff, key, Prod.Lex.toLex_lt_toLex]

theorem approvalSubmit_lt_approvalReceipt {cursor index : Nat} :
    approvalSubmit cursor < approvalReceipt index ↔ cursor ≤ index := by
  simp only [lt_iff, key, Prod.Lex.toLex_lt_toLex, lt_irrefl, true_and, false_or]
  omega

theorem approvalReceipt_lt_approvalSubmit {index cursor : Nat} :
    approvalReceipt index < approvalSubmit cursor ↔ index < cursor := by
  simp only [lt_iff, key, Prod.Lex.toLex_lt_toLex, lt_irrefl, true_and, false_or]
  omega

theorem approvalSubmit_lt_transferSubmit (cursor : Nat) :
    approvalSubmit cursor < transferSubmit := by
  simp [lt_iff, key, Prod.Lex.toLex_lt_toLex]

theorem switchChain_lt_transferSubmit : switchChain < transferSubmit := by
  simp [lt_iff, key, Prod.Lex.toLex_lt_toLex]

theorem transferSubmit_lt_transferReceipt : transferSubmit < transferReceipt := by
  simp [lt_iff, key, Prod.Lex.toLex_lt_toLex]

/-- The step that is made there. -/
def name : Position → String
  | filling => "filling"
  | switchChain => "switch chain"
  | approvalSubmit _ => "approval submit"
  | approvalReceipt _ => "approval receipt"
  | transferSubmit => "transfer submit"
  | transferReceipt => "transfer receipt"

end Position

/-! ## Progress -/

namespace Progress

variable {C R : Type}

def map {C' R' : Type} (f : C → C') (g : R → R') : Progress C R → Progress C' R'
  | notStarted c => notStarted (f c)
  | inProgress c => inProgress (f c)
  | complete c r => complete (f c) (g r)
  | failed c reason => failed (f c) reason

theorem map_settle {C' R' : Type} (f : C → C') (g : R → R') (step : String) (c : C)
    (o : Except Report R) : (settle step c o).map f g = settle step (f c) (o.map g) := by
  cases o <;> rfl

theorem context_settle (step : String) (c : C) (o : Except Report R) :
    (settle step c o).context = c := by
  cases o <;> rfl

/-- What comes next in one step, with one and the same context. -/
inductive Goes : Progress C R → Progress C R → Prop
  | start (c : C) : Goes (notStarted c) (inProgress c)
  | succeed (c : C) (r : R) : Goes (inProgress c) (complete c r)
  | fail (c : C) (reason : StepFailure) : Goes (inProgress c) (failed c reason)
  | retry (c : C) (reason : StepFailure) : Goes (failed c reason) (inProgress c)

theorem Goes.context_eq {p q : Progress C R} (h : p.Goes q) : p.context = q.context := by
  cases h <;> rfl

theorem goes_settle (step : String) (c : C) (o : Except Report R) :
    (inProgress c).Goes (settle step c o) := by
  cases o with
  | ok r => exact .succeed c r
  | error e => exact .fail c _

end Progress

/-! ## Standings -/

/-- What a step is about, or brings back. -/
inductive Datum
  | nothing
  | cursor (n : Nat)
  | approval (a : SubmittedApproval)
  | salt (salt : Salt)
  | hash (hash : TxHash)
  | receipt (r : Receipt)
  deriving DecidableEq, Repr

/-- What a search for a requirement that is not met brings back. -/
def Datum.sent : Option SubmittedApproval → Datum
  | none => nothing
  | some a => approval a

structure Standing where
  position : Position
  progress : Progress Datum Datum

/-- A submission of which nothing was published yet. -/
def Standing.unbegun : Standing := ⟨.filling, .complete .nothing .nothing⟩

/-- Where a submission stands in a step with that progress. -/
def Progress.standing {C R : Type} (position : C → Position) (f : C → Datum) (g : R → Datum)
    (p : Progress C R) : Standing :=
  ⟨position p.context, p.map f g⟩

theorem Progress.standing_settle {C R : Type} (position : C → Position) (f : C → Datum)
    (g : R → Datum) (step : String) (c : C) (o : Except Report R) :
    (settle step c o).standing position f g = ⟨position c, .settle step (f c) (o.map g)⟩ := by
  rw [Progress.standing, map_settle, context_settle]

def Approval.standing : Approval → Standing
  | submit p => p.standing .approvalSubmit .cursor .sent
  | receipt p => p.standing (fun s => .approvalReceipt s.index) .approval .receipt

def Stage.standing {A : Type} (before : A → Standing) : Stage A → Standing
  | filling => .unbegun
  | switchChain p => p.standing (fun _ => .switchChain) (fun _ => .nothing) fun _ => .nothing
  | .before a => before a
  | transferSubmit p => p.standing (fun _ => .transferSubmit) .salt .hash
  | transferReceipt p => p.standing (fun _ => .transferReceipt) .hash .receipt

def State.standing : State → Standing
  | empty => .unbegun
  | evm s => s.standing Approval.standing
  | cosmos s => s.standing fun a => nomatch a

namespace Standing

/-- `w` comes right after `v`: either the step goes on where it stands, or a later one is entered
behind a step that is complete. -/
inductive Follows : Standing → Standing → Prop
  | within {p : Position} {v w : Progress Datum Datum} (h : v.Goes w) : Follows ⟨p, v⟩ ⟨p, w⟩
  | onward {p q : Position} {c r d : Datum} (h : p < q) :
      Follows ⟨p, .complete c r⟩ ⟨q, .notStarted d⟩

theorem Follows.position_le {v w : Standing} (h : v.Follows w) : v.position ≤ w.position := by
  cases h with
  | within => exact le_rfl
  | onward h => exact h.le

/-- What was approved is one of the requirements, and none before the cursor. -/
structure Ordered (t : Transfer) (v : Standing) : Prop where
  found : ∀ cursor a, v.progress = .complete (.cursor cursor) (.approval a) →
    cursor ≤ a.index ∧ a.index < t.approvals.length
  awaited : ∀ a, v.progress.context = .approval a → a.index < t.approvals.length

end Standing

/-- `s'` is published right after `s`. -/
inductive State.Follows : State → State → Prop
  /-- A submission that cannot be served is given up, before anything was done. -/
  | abandoned : Follows .empty .empty
  | begun {s' : State} (h : Standing.unbegun.Follows s'.standing) : Follows .empty s'
  | advanced {s s' : State} (hfamily : s.family? = s'.family?)
      (h : s.standing.Follows s'.standing) : Follows s s'

theorem State.Follows.position_le {s s' : State} (h : s.Follows s') :
    s.standing.position ≤ s'.standing.position := by
  cases h with
  | abandoned => exact le_rfl
  | begun h => exact h.position_le
  | advanced _ h => exact h.position_le

/-! ## What was published -/

def Event.state? : Event → Option State
  | ⟨.publish s, _⟩ => some s
  | _ => none

/-- All states that were published, in order. -/
def statesOf (h : Log) : List State := h.filterMap Event.state?

/-- The state that was published last. -/
def lastState (h : Log) : State := (statesOf h).getLastD .empty

theorem Event.state?_eq_none {e : Event} (he : ∀ s, e ≠ published s) : e.state? = none := by
  obtain ⟨q, x⟩ := e
  cases q with
  | publish s => exact absurd rfl (he s)
  | call | drawSalt => rfl

@[simp] theorem statesOf_published (h : Log) (s : State) :
    statesOf (h ++ [published s]) = statesOf h ++ [s] :=
  List.filterMap_append

@[simp] theorem lastState_published (h : Log) (s : State) :
    lastState (h ++ [published s]) = s := by
  simp [lastState]

theorem statesOf_snoc_of_ne {h : Log} {e : Event} (he : ∀ s, e ≠ published s) :
    statesOf (h ++ [e]) = statesOf h := by
  simp [statesOf, Event.state?_eq_none he]

theorem lastState_snoc_of_ne {h : Log} {e : Event} (he : ∀ s, e ≠ published s) :
    lastState (h ++ [e]) = lastState h := by
  rw [lastState, statesOf_snoc_of_ne he, lastState]

end TokenBridge.Submission
