import TokenBridge.Bytes

set_option autoImplicit false

/-! # Instructions

What a transfer asks of the bridge: an order for one token, or a batch of instructions, to be
carried out one after the other.
-/

namespace TokenBridge

/-- A transfer of `baseAmount` of a token against `quoteAmount` of its counterpart. Addresses and
tokens are given in the bytes of their chains. -/
structure Order where
  sender : Bytes
  receiver : Bytes
  baseToken : Bytes
  baseAmount : Amount
  symbol : String
  name : String
  decimals : UInt8
  /-- The channels through which the token came, if it is the counterpart of another one. -/
  path : Word
  quoteToken : Bytes
  quoteAmount : Amount
  deriving DecidableEq, Repr

inductive Instruction
  | order (o : Order)
  | batch (items : List Instruction)
  deriving Repr

namespace Instruction

/-! ## Tags -/

def orderOpcode : UInt8 := 3

def batchOpcode : UInt8 := 2

def opcode : Instruction → UInt8
  | order _ => orderOpcode
  | batch _ => batchOpcode

/-- The version under which an instruction is written. -/
def version : Instruction → UInt8
  | order _ => 1
  | batch _ => 0

/-! ## The orders of a tree -/

mutual

/-- All orders, in the order in which they are carried out. -/
def orders : Instruction → List Order
  | order o => [o]
  | batch items => ordersOf items

def ordersOf : List Instruction → List Order
  | [] => []
  | i :: rest => orders i ++ ordersOf rest

end

theorem ordersOf_eq_flatMap (items : List Instruction) :
    ordersOf items = items.flatMap orders := by
  induction items with
  | nil => rfl
  | cons i rest ih => simp [ordersOf, ih]

theorem orders_batch_map_order (os : List Order) : orders (batch (os.map order)) = os := by
  rw [orders, ordersOf_eq_flatMap]
  induction os with
  | nil => rfl
  | cons o os ih => rw [List.map_cons, List.flatMap_cons, ih, orders, List.singleton_append]

mutual

/-- How many batches stand inside each other. -/
def depth : Instruction → Nat
  | order _ => 0
  | batch items => depthOf items + 1

def depthOf : List Instruction → Nat
  | [] => 0
  | i :: rest => max (depth i) (depthOf rest)

end

end Instruction
end TokenBridge
