import TokenBridge.Submission.Stage

set_option autoImplicit false

/-! # Transitions

Each transition does one thing: it enters a step, carries it out, or goes on to the next one. Only a
step that is in progress asks anything of the chain.
-/

namespace TokenBridge.Submission

/-- The transition of a step: `act` carries it out, and `after` tells what comes when it is
complete. -/
def Progress.next {C R S : Type} (stage : Progress C R → S) (name : String)
    (act : C → Talk (Except Report R)) (after : C → R → Talk (Option S)) :
    Progress C R → Talk (Option S)
  | .notStarted c => return some (stage (.inProgress c))
  | .inProgress c => return some (stage (settle name c (← act c)))
  | .complete c r => after c r
  | .failed c _ => return some (stage (.inProgress c))

/-! ## Indices -/

/-- How many indices there are. An index is a machine word of 64 bits; a list with more items than
such words can count is only held by a machine with longer words. -/
def wordSize (t : Transfer) : Nat := max UInt64.size (t.approvals.length + 1)

/-- The index behind another one. Behind the last of all indices the first one comes again. -/
def indexAfter (t : Transfer) (index : Nat) : Nat := (index + 1) % wordSize t

theorem indexAfter_of_lt {t : Transfer} {index : Nat} (h : index < t.approvals.length) :
    indexAfter t index = index + 1 := by
  apply Nat.mod_eq_of_lt
  exact Nat.lt_of_lt_of_le (Nat.succ_lt_succ h) (Nat.le_max_right _ _)

/-- Words of 64 bits are added as such, if they can count the requirements. -/
theorem indexAfter_toNat {t : Transfer} (h : t.approvals.length < UInt64.size) (index : UInt64) :
    indexAfter t index.toNat = (index + 1).toNat := by
  have hsize : wordSize t = UInt64.size := Nat.max_eq_left h
  rw [indexAfter, hsize, UInt64.toNat_add]
  rfl

/-! ## Approvals -/

/-- Reads the allowances of the requirements, the first of which stands at `index`, up to one that
is short, and approves that one. -/
def approveFirstShort (spender : String) :
    Nat → List Requirement → Talk (Except Report (Option SubmittedApproval))
  | _, [] => return .ok none
  | index, r :: rest => do
      match ← call (.allowance r.token spender) with
      | .error e => return .error (e.under s!"Failed to read allowance for {r.token}")
      | .ok (allowance : Amount) =>
          if r.amount ≤ allowance then approveFirstShort spender (index + 1) rest
          else
            match ← call (.approve r.token spender r.amount) with
            | .error e => return .error (e.under s!"Failed to approve {r.token}")
            | .ok (hash : TxHash) => return .ok (some ⟨index, hash⟩)

namespace Approval

/-- The next stage, or none when no requirement is left. -/
def next (t : Transfer) : Approval → Talk (Option Approval)
  | submit p =>
      p.next submit "approval submit"
        (fun cursor => approveFirstShort t.endpoint.contract cursor (t.approvals.drop cursor))
        fun _ sent => return sent.map fun s => receipt (.notStarted s)
  | receipt p =>
      p.next receipt "approval receipt" (fun s => call (.awaitReceipt s.hash))
        fun s _ => return some (submit (.notStarted (indexAfter t s.index)))

def name : Approval → String
  | submit _ => "approval submit"
  | receipt _ => "approval receipt"

def resume? : Approval → Option Approval
  | submit p => p.resume?.map submit
  | receipt p => p.resume?.map receipt

def isFailed : Approval → Bool
  | submit p => p.isFailed
  | receipt p => p.isFailed

end Approval

/-! ## The stages of a family -/

/-- What a family does between switching and sending. -/
structure Flow (A : Type) where
  first : Option A
  next : Transfer → A → Talk (Option A)
  name : A → String
  resume? : A → Option A
  isFailed : A → Bool

/-- Approvals, from the first requirement on. -/
def evmFlow : Flow Approval where
  first := some (.submit (.notStarted 0))
  next := Approval.next
  name := Approval.name
  resume? := Approval.resume?
  isFailed := Approval.isFailed

/-- Nothing at all. -/
def cosmosFlow : Flow Empty where
  first := none
  next := fun _ a => nomatch a
  name := fun a => nomatch a
  resume? := fun a => nomatch a
  isFailed := fun a => nomatch a

namespace Stage

variable {A : Type}

/-- Goes on to a stage before the transfer, or else to the transfer itself, with a fresh salt. -/
def enter : Option A → Talk (Option (Stage A))
  | some a => return some (before a)
  | none => return some (transferSubmit (.notStarted (← drawSalt)))

/-- The next stage; there is none after the receipt of the transfer. -/
def next (flow : Flow A) (t : Transfer) : Stage A → Talk (Option (Stage A))
  | filling => return some (switchChain (.notStarted ()))
  | switchChain p =>
      p.next switchChain "switch chain" (fun _ => call .switchChain) fun _ _ => enter flow.first
  | before a => do enter (← flow.next t a)
  | transferSubmit p =>
      p.next transferSubmit "transfer submit" (fun salt => call (.submit (t.request salt)))
        fun _ hash => return some (transferReceipt (.notStarted hash))
  | transferReceipt p =>
      p.next transferReceipt "transfer receipt" (fun hash => call (.awaitReceipt hash))
        fun _ _ => return none

def name (flow : Flow A) : Stage A → String
  | filling => "filling"
  | switchChain _ => "switch chain"
  | before a => flow.name a
  | transferSubmit _ => "transfer submit"
  | transferReceipt _ => "transfer receipt"

/-- A failed stage, taken up again. -/
def resume? (flow : Flow A) : Stage A → Option (Stage A)
  | filling => none
  | switchChain p => p.resume?.map switchChain
  | before a => (flow.resume? a).map before
  | transferSubmit p => p.resume?.map transferSubmit
  | transferReceipt p => p.resume?.map transferReceipt

def isFailed (flow : Flow A) : Stage A → Bool
  | filling => false
  | switchChain p => p.isFailed
  | before a => flow.isFailed a
  | transferSubmit p => p.isFailed
  | transferReceipt p => p.isFailed

/-- The transfer has been carried out. -/
def isComplete : Stage A → Bool
  | transferReceipt p => p.isComplete
  | _ => false

/-- One step of a submission: a failed stage is taken up again, and any other one goes on. -/
def step (flow : Flow A) (t : Transfer) (s : Stage A) : Talk (Option (Stage A)) :=
  if s.isFailed flow then return s.resume? flow else s.next flow t

end Stage

/-! ## Submissions -/

namespace State

def family? : State → Option ChainFamily
  | empty => none
  | evm _ => some .evm
  | cosmos _ => some .cosmos

def name : State → String
  | empty => "empty"
  | evm s => s.name evmFlow
  | cosmos s => s.name cosmosFlow

def isComplete : State → Bool
  | empty => false
  | evm s => s.isComplete
  | cosmos s => s.isComplete

def isFailed : State → Bool
  | empty => false
  | evm s => s.isFailed evmFlow
  | cosmos s => s.isFailed cosmosFlow

def resume? : State → Option State
  | empty => none
  | evm s => (s.resume? evmFlow).map evm
  | cosmos s => (s.resume? cosmosFlow).map cosmos

def next (t : Transfer) : State → Talk (Option State)
  | empty => return none
  | evm s => return (← s.next evmFlow t).map evm
  | cosmos s => return (← s.next cosmosFlow t).map cosmos

def step (t : Transfer) : State → Talk (Option State)
  | empty => return none
  | evm s => return (← s.step evmFlow t).map evm
  | cosmos s => return (← s.step cosmosFlow t).map cosmos

end State
end TokenBridge.Submission
