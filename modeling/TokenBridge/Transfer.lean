import TokenBridge.Address.Evm
import TokenBridge.Chain
import TokenBridge.Channel
import TokenBridge.Instruction.Envelope

set_option autoImplicit false

/-! # Transfers

An instruction that is to be sent, with what the sender has to provide for it. On EVM chains the
bridge needs an allowance of each base token; on Cosmos chains native coins are attached to the
message. Both are summed over the orders of the instruction, in the order in which the tokens occur.
-/

namespace TokenBridge

/-! ## Sums by key -/

namespace Tally

/-- Adds to the entry of a key, which is made at the end if there is none. There is no answer when
the sum reaches the limit. -/
def add {κ : Type} [DecidableEq κ] (limit : Nat) (key : κ) (n : Nat) :
    List (κ × Nat) → Option (List (κ × Nat))
  | [] => some [(key, n)]
  | (k, m) :: rest =>
      if k = key then (if m + n < limit then some ((k, m + n) :: rest) else none)
      else (add limit key n rest).map ((k, m) :: ·)

end Tally

/-! ## What is provided -/

/-- An allowance that the bridge needs. -/
structure Requirement where
  token : String
  amount : Amount
  deriving DecidableEq, Repr

/-- Coins that are attached to a message. -/
structure Funds where
  denom : String
  amount : BitVec 128
  deriving DecidableEq, Repr

structure Transfer where
  source : ChainFamily
  instruction : Instruction
  /-- The end of the channel from which the transfer starts. -/
  endpoint : Endpoint
  approvals : List Requirement
  funds : List Funds
  deriving Repr

namespace Transfer

inductive Fault
  | tokenLength (bytes : Nat)
  | approvalOverflow (token : EvmAddress)
  | tokenText (fault : Utf8.Fault)
  | nativeTooLarge (denom : String)
  | fundsOverflow (denom : String)
  | noFlow (family : ChainFamily)
  deriving DecidableEq, Repr

def Fault.message : Fault → String
  | tokenLength n => s!"EVM base token must be 20 bytes, got {n}"
  | approvalOverflow token => s!"Approval amount overflow for {token.checksum}"
  | tokenText f => s!"Cosmos base token is not UTF-8: {f.message}"
  | nativeTooLarge denom => s!"Native amount for {denom} exceeds u128"
  | fundsOverflow denom => s!"Funds overflow for {denom}"
  | noFlow family => s!"No submission flow for {family.name} sources"

/-- Adds the base amount of an order to the allowance of its token. -/
def addApproval (sums : List (EvmAddress × Nat)) (o : Order) :
    Except Fault (List (EvmAddress × Nat)) :=
  if o.baseToken.length ≠ 20 then .error (.tokenLength o.baseToken.length)
  else
    let token := EvmAddress.ofBytes o.baseToken
    match Tally.add (Nat.pow 2 256) token o.baseAmount.toNat sums with
    | some sums => .ok sums
    | none => .error (.approvalOverflow token)

/-- Adds the base amount of an order to the coins that are attached, if its token is a native
coin. -/
def addFunds (nativeDenoms : List String) (sums : List (String × Nat)) (o : Order) :
    Except Fault (List (String × Nat)) :=
  match Utf8.decode o.baseToken with
  | .error f => .error (.tokenText f)
  | .ok denom =>
      if denom ∉ nativeDenoms then .ok sums
      else if Nat.pow 2 128 ≤ o.baseAmount.toNat then .error (.nativeTooLarge denom)
      else
        match Tally.add (Nat.pow 2 128) denom o.baseAmount.toNat sums with
        | some sums => .ok sums
        | none => .error (.fundsOverflow denom)

/-- The allowances that the orders need. -/
def approvalsOf (orders : List Order) : Except Fault (List Requirement) := do
  let sums ← orders.foldlM addApproval []
  return sums.map fun (token, n) => ⟨token.checksum, BitVec.ofNat 256 n⟩

/-- The coins that the orders need. -/
def fundsOf (nativeDenoms : List String) (orders : List Order) : Except Fault (List Funds) := do
  let sums ← orders.foldlM (addFunds nativeDenoms) []
  return sums.map fun (denom, n) => ⟨denom, BitVec.ofNat 128 n⟩

/-- The transfer of an instruction from a chain. -/
def ofInstruction (source : ChainFamily) (i : Instruction) (endpoint : Endpoint)
    (nativeDenoms : List String) : Except Fault Transfer := do
  match source with
  | .evm => return ⟨source, i, endpoint, ← approvalsOf i.orders, []⟩
  | .cosmos => return ⟨source, i, endpoint, [], ← fundsOf nativeDenoms i.orders⟩
  | .aptos =>
      if i.orders.isEmpty then return ⟨source, i, endpoint, [], []⟩
      else throw (.noFlow source)

end Transfer

/-! ## Requests -/

/-- Tells transfers apart: whoever sends one again uses the same salt. -/
abbrev Salt := Word

/-- What is handed to a chain. -/
structure SendRequest where
  instruction : Bytes
  endpoint : Endpoint
  salt : Salt
  funds : List Funds
  deriving DecidableEq, Repr

def Transfer.request (t : Transfer) (salt : Salt) : SendRequest :=
  ⟨t.instruction.encode, t.endpoint, salt, t.funds⟩

end TokenBridge
