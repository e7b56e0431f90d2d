import TokenBridge.Submission.Advance

set_option autoImplicit false

/-! # Simulated writers

A writer whose calls are recorded and fail as often as they have been told to. Approvals set the
allowance that they grant, and hashes are given out in order.
-/

namespace TokenBridge.Simulation

open Submission

/-- The kinds of calls, which can be made to fail. -/
inductive Operation
  | switchChain
  | allowance
  | approve
  | submit
  | awaitReceipt
  deriving DecidableEq, Repr

def Operation.name : Operation → String
  | switchChain => "SwitchChain"
  | allowance => "Allowance"
  | approve => "Approve"
  | submit => "Submit"
  | awaitReceipt => "AwaitReceipt"

def Operation.of : WriterCall → Operation
  | .switchChain => switchChain
  | .allowance .. => allowance
  | .approve .. => approve
  | .submit _ => submit
  | .awaitReceipt _ => awaitReceipt

structure Writer where
  family : ChainFamily
  /-- Allowances are known on this chain. -/
  hasAllowances : Bool
  allowances : List (String × Amount)
  /-- How often the next calls of a kind fail. -/
  failures : List (Operation × Nat)
  calls : List WriterCall
  submitted : List SendRequest
  nextHash : Nat
  deriving Repr

namespace Writer

def new (family : ChainFamily) (allowances : List (String × Amount)) (hasAllowances : Bool) :
    Writer :=
  ⟨family, hasAllowances, allowances, [], [], [], 1⟩

/-- Makes the next calls of a kind fail. -/
def failNext (w : Writer) (op : Operation) (times : Nat) : Writer :=
  { w with failures := (op, times) :: w.failures.filter fun f => f.1 ≠ op }

/-- Records a call, and tells whether it is to fail. -/
def record (w : Writer) (c : WriterCall) : Except Report Unit × Writer :=
  let op := Operation.of c
  let w := { w with calls := w.calls ++ [c] }
  match (w.failures.lookup op).getD 0 with
  | 0 => (.ok (), w)
  | times + 1 => (.error (.of s!"scripted {op.name} failure"), w.failNext op times)

/-- The hash of that number, in 64 digits. -/
def hashText (n : Nat) : TxHash := Hex.encodeMarked (bigEndian 32 n)

def freshHash (w : Writer) : TxHash × Writer :=
  (hashText w.nextHash, { w with nextHash := w.nextHash + 1 })

/-- The table with a new allowance. -/
def grant (w : Writer) (token : String) (amount : Amount) : Writer :=
  { w with allowances := (token, amount) :: w.allowances.filter fun a => a.1 ≠ token }

/-- The answer to a call, and the writer after it. -/
def answer (w : Writer) : (c : WriterCall) → c.Answer × Writer
  | .switchChain => w.record .switchChain
  | .allowance token spender =>
      if !w.hasAllowances then (.error (noAllowances w.family), w)
      else
        match w.record (.allowance token spender) with
        | (.error e, w) => (.error e, w)
        | (.ok _, w) => (.ok ((w.allowances.lookup token).getD (0 : Amount)), w)
  | .approve token spender amount =>
      if !w.hasAllowances then (.error (noAllowances w.family), w)
      else
        match w.record (.approve token spender amount) with
        | (.error e, w) => (.error e, w)
        | (.ok _, w) =>
            let (hash, w) := (w.grant token amount).freshHash
            (.ok hash, w)
  | .submit request =>
      match w.record (.submit request) with
      | (.error e, w) => (.error e, w)
      | (.ok _, w) =>
          let (hash, w) := freshHash { w with submitted := w.submitted ++ [request] }
          (.ok hash, w)
  | .awaitReceipt hash =>
      match w.record (.awaitReceipt hash) with
      | (.error e, w) => (.error e, w)
      | (.ok _, w) => (.ok (⟨hash, some 100⟩ : Receipt), w)

end Writer

/-! ## Running submissions -/

/-- A simulated writer, a supply of salts, and the states that have been published. -/
structure World where
  writer : Writer
  /-- How many salts have been drawn. -/
  drawn : Nat
  published : List State

/-- The partner of a submission: the writer answers the calls, salts are taken in order from
`salts`, and published states are kept. -/
def World.partner (salts : Nat → Salt) (w : World) : (q : Effect) → q.Answer × World
  | .call c =>
      let (answer, writer) := w.writer.answer c
      (answer, { w with writer := writer })
  | .drawSalt => (salts w.drawn, { w with drawn := w.drawn + 1 })
  | .publish s => ((), { w with published := w.published ++ [s] })

end TokenBridge.Simulation
