import TokenBridge.Number.Shortest

set_option autoImplicit false

/-! # Data texts

The values of JSON. The fields of an object are kept in the order in which they stand, repeated
names included; `Json.settle` gives the value as a table instead, with the names in order and the
last of several values for one name. Whole numbers are kept exactly.
-/

namespace TokenBridge

inductive Json.Number
  | integer (negative : Bool) (value : Nat)
  | double (value : Binary64)
  deriving DecidableEq, Repr

inductive Json
  | null
  | bool (b : Bool)
  | number (n : Json.Number)
  | string (s : String)
  | array (items : List Json)
  | object (fields : List (String × Json))
  deriving Repr

namespace Json

def ofNat (n : Nat) : Json := .number (.integer false n)

/-! ## Numbers -/

/-- `significand * 10 ^ exponent` by steps of double precision: the significand is rounded, and then
multiplied or divided by powers of ten up to `10 ^ 308`. There is no answer when the number grows
too large. -/
def scaleDouble (negative : Bool) (significand : Nat) (exponent : Int) : Option Binary64 :=
  let start := Binary64.ofNat significand
  let signed (x : Binary64) := if negative then x.neg else x
  if 308 < exponent then (if start.isZero then some (signed start) else none)
  else if 0 ≤ exponent then
    let x := start.mul (ten exponent.toNat)
    if x.isFinite then some (signed x) else none
  else some (signed (shrink 8 start (-exponent).toNat))
where
  ten (k : Nat) : Binary64 := Binary64.ofDecimal false 1 k
  /-- Divides by `10 ^ 308` as often as needed, and then by what is left. After eight times nothing
  is left of any significand. -/
  shrink : Nat → Binary64 → Nat → Binary64
    | 0, _, _ => Binary64.zero false
    | fuel + 1, x, k =>
        if k ≤ 308 then x.div (ten k) else shrink fuel (x.div (ten 308)) (k - 308)

/-- Takes digits while the number they spell stays below `2 ^ 64`; returns the number and how many
digits were left out. -/
def leadingDigits (acc : Nat) : List Nat → Nat × Nat
  | [] => (acc, 0)
  | d :: rest =>
      if acc * 10 + d < Nat.pow 2 64 then leadingDigits (acc * 10 + d) rest
      else (acc, rest.length + 1)

/-- The double-precision form of a whole number. -/
def doubleOfInteger (negative : Bool) (n : Nat) : Option Binary64 :=
  let digits := (Nat.toDigits 10 n).map fun c => c.toNat - 48
  let (significand, left) := leadingDigits 0 digits
  scaleDouble negative significand left

/-- Whole numbers that fit neither 64 bits nor, below zero, 64 bits with a sign are kept in double
precision, and so is minus zero. -/
def Number.settle : Number → Number
  | .integer false n =>
      if n < Nat.pow 2 64 then .integer false n
      else .double ((doubleOfInteger false n).getD .nan)
  | .integer true n =>
      if 0 < n ∧ n ≤ Nat.pow 2 63 then .integer true n
      else .double ((doubleOfInteger true n).getD .nan)
  | .double x => .double x

/-! ## Tables -/

/-- Puts a value under a name into a list of fields in order of their names. -/
def insertField (name : String) (value : Json) : List (String × Json) → List (String × Json)
  | [] => [(name, value)]
  | (other, v) :: rest =>
      if name < other then (name, value) :: (other, v) :: rest
      else if name = other then (name, value) :: rest
      else (other, v) :: insertField name value rest

mutual

/-- The value with every object as a table. -/
def settle : Json → Json
  | .number n => .number n.settle
  | .array items => .array (settleItems items)
  | .object fields => .object (settleFields fields [])
  | other => other

def settleItems : List Json → List Json
  | [] => []
  | v :: rest => settle v :: settleItems rest

def settleFields : List (String × Json) → List (String × Json) → List (String × Json)
  | [], table => table
  | (name, v) :: rest, table => settleFields rest (insertField name (settle v) table)

end

/-- The value of a field of an object. -/
def field? (name : String) : Json → Option Json
  | .object fields => fields.lookup name
  | _ => none

def string? : Json → Option String
  | .string s => some s
  | _ => none

end Json
end TokenBridge
